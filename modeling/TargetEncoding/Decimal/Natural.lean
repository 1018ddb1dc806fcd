/-! # Decimal digits

Natural numbers in decimal notation, and back from digits to the number.

* `valueOfDigits_decimalDigits`  the digits of a number have its value
* `head?_decimalDigits`          a positive number does not begin with a zero -/

namespace TargetEncoding

/-- The character of a digit. -/
def digitChar (d : Nat) : Char := Char.ofNat ('0'.toNat + d)

/-- The digit of a character. -/
def digitValue (c : Char) : Nat := c.toNat - '0'.toNat

/-- The decimal digits of a number, without leading zeros. -/
def decimalDigits (n : Nat) : List Char :=
  if n < 10 then [digitChar n] else decimalDigits (n / 10) ++ [digitChar (n % 10)]

/-- The number in decimal notation. -/
def decimal (n : Nat) : String := String.ofList (decimalDigits n)

/-- The number whose decimal digits are given. -/
def valueOfDigits (ds : List Char) : Nat :=
  ds.foldl (fun n c => n * 10 + digitValue c) 0

theorem digitValue_digitChar {d : Nat} (h : d < 10) : digitValue (digitChar d) = d := by
  have all : ∀ e < 10, digitValue (digitChar e) = e := by decide
  exact all d h

theorem isDigit_digitChar {d : Nat} (h : d < 10) : (digitChar d).isDigit = true := by
  have all : ∀ e < 10, (digitChar e).isDigit = true := by decide
  exact all d h

theorem valueOfDigits_decimalDigits (n : Nat) : valueOfDigits (decimalDigits n) = n := by
  induction n using Nat.strongRecOn with
  | ind n ih =>
    rw [decimalDigits]
    split
    · next h => simp [valueOfDigits, digitValue_digitChar h]
    · have rest := ih (n / 10) (by omega)
      simp only [valueOfDigits, List.foldl_append, List.foldl_cons, List.foldl_nil] at rest ⊢
      rw [rest, digitValue_digitChar (by omega)]
      omega

theorem isDigit_of_mem_decimalDigits {n : Nat} {c : Char} (h : c ∈ decimalDigits n) :
    c.isDigit = true := by
  induction n using Nat.strongRecOn with
  | ind n ih =>
    rw [decimalDigits] at h
    split at h
    · next small => rw [List.mem_singleton.1 h]; exact isDigit_digitChar small
    · rcases List.mem_append.1 h with h | h
      · exact ih (n / 10) (by omega) h
      · rw [List.mem_singleton.1 h]; exact isDigit_digitChar (by omega)

theorem decimalDigits_ne_nil (n : Nat) : decimalDigits n ≠ [] := by
  rw [decimalDigits]
  split <;> simp

theorem exists_decimalDigits_eq_cons (n : Nat) :
    ∃ d ds, decimalDigits n = d :: ds ∧ d.isDigit = true := by
  cases digits : decimalDigits n with
  | nil => exact absurd digits (decimalDigits_ne_nil n)
  | cons d ds => exact ⟨d, ds, rfl, isDigit_of_mem_decimalDigits (by rw [digits]; exact .head ds)⟩

theorem head?_decimalDigits {n : Nat} (h : 0 < n) : (decimalDigits n).head? ≠ some '0' := by
  induction n using Nat.strongRecOn with
  | ind n ih =>
    rw [decimalDigits]
    split
    · next small =>
      have all : ∀ m < 10, 0 < m → digitChar m ≠ '0' := by decide
      simpa using all n small h
    · have front := ih (n / 10) (by omega) (by omega)
      cases digits : decimalDigits (n / 10) with
      | nil => exact absurd digits (decimalDigits_ne_nil _)
      | cons d ds => simpa [digits] using front

end TargetEncoding
