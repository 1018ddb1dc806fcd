import TargetEncoding.Json.Numeral

/-! # Reading integers back

A 64-bit integer that is written in decimal digits is read as itself, whatever follows it, as long
as that cannot continue a number (`Numeral.read_decimalDigits`). -/

namespace TargetEncoding.Json

theorem takeDigits_append {ds rest : List Char} (digits : ∀ c ∈ ds, c.isDigit = true)
    (nonempty : ds ≠ []) (stops : ∀ c ∈ rest.head?, c.isDigit = false) :
    takeDigits (ds ++ rest) = .ok (ds, rest) := by
  cases ds with
  | nil => exact absurd rfl nonempty
  | cons d ds =>
    have tail : ∀ c ∈ ds, c.isDigit = true := fun c hc => digits c (List.mem_cons_of_mem d hc)
    have none : rest.takeWhile Char.isDigit = [] ∧ rest.dropWhile Char.isDigit = rest := by
      cases rest with
      | nil => exact ⟨rfl, rfl⟩
      | cons c cs => simp [stops c rfl]
    simp only [List.cons_append, takeDigits, digits d List.mem_cons_self, if_true,
      List.takeWhile_append_of_pos tail, List.dropWhile_append_of_pos tail, none, List.append_nil]

namespace Numeral

theorem le_foldl_digits (ds : List Char) (n : Nat) :
    n ≤ ds.foldl (fun n c => n * 10 + digitValue c) n := by
  induction ds generalizing n with
  | nil => exact Nat.le_refl n
  | cons d ds ih => exact Nat.le_trans (by omega) (ih (n * 10 + digitValue d))

theorem appendDigits_of_lt {ds : List Char} {n : Nat}
    (fits : ds.foldl (fun n c => n * 10 + digitValue c) n < indexLimit) :
    appendDigits n ds = (ds.foldl (fun n c => n * 10 + digitValue c) n, []) := by
  induction ds generalizing n with
  | nil => rfl
  | cons c cs ih =>
    have here : n * 10 + digitValue c < indexLimit :=
      Nat.lt_of_le_of_lt (le_foldl_digits cs _) fits
    rw [appendDigits, if_pos here]
    exact ih fits

theorem takeWhole_decimalDigits (n : Nat) {rest : List Char}
    (stops : ∀ c ∈ rest.head?, c.isDigit = false) :
    takeWhole (decimalDigits n ++ rest) = .ok (decimalDigits n, rest) := by
  have digits :=
    takeDigits_append (fun _ => isDigit_of_mem_decimalDigits) (decimalDigits_ne_nil n) stops
  have alone : ¬ ((decimalDigits n).head? = some '0' ∧ (decimalDigits n).length ≠ 1) := by
    rintro ⟨zero, long⟩
    rcases Nat.eq_zero_or_pos n with rfl | positive
    · exact long (by decide +kernel)
    · exact head?_decimalDigits positive zero
  simp only [takeWhole, digits, bind, Except.bind]
  rw [if_neg (by simpa using alone)]
  rfl

/-- What may follow an integer: no digit, fraction or exponent. -/
def EndsInteger (rest : List Char) : Prop :=
  ∀ c ∈ rest.head?, c.isDigit = false ∧ c ≠ '.' ∧ c ≠ 'e' ∧ c ≠ 'E'

theorem takeFraction_of_endsInteger {rest : List Char} (h : EndsInteger rest) :
    takeFraction rest = .ok (none, rest) := by
  unfold takeFraction
  split
  · exact absurd rfl (h '.' rfl).2.1
  · rfl

theorem takeExponent_of_endsInteger {rest : List Char} (h : EndsInteger rest) :
    takeExponent rest = .ok (none, rest) := by
  cases rest with
  | nil => rfl
  | cons c cs => simp [takeExponent, (h c rfl).2.2.1, (h c rfl).2.2.2]; rfl

theorem takeSign_of_isDigit {c : Char} (h : c.isDigit = true) (cs : List Char) :
    takeSign (c :: cs) = (false, c :: cs) := by
  unfold takeSign
  split
  · next minus =>
    rw [(List.cons.inj minus).1] at h
    exact absurd h (by decide)
  · rfl

/-- A 64-bit integer is read back from its decimal digits. -/
theorem read_decimalDigits {n : Nat} (fits : n < indexLimit) {rest : List Char}
    (ends : EndsInteger rest) :
    read (decimalDigits n ++ rest) = .ok (.natural n, rest) := by
  have value : (decimalDigits n).foldl (fun n c => n * 10 + digitValue c) 0 = n :=
    valueOfDigits_decimalDigits n
  have whole := takeWhole_decimalDigits n fun c hc => (ends c hc).1
  have sign : takeSign (decimalDigits n ++ rest) = (false, decimalDigits n ++ rest) := by
    obtain ⟨d, ds, digits, isDigit⟩ := exists_decimalDigits_eq_cons n
    rw [digits]
    exact takeSign_of_isDigit isDigit (ds ++ rest)
  have append : appendDigits 0 (decimalDigits n) =
      ((decimalDigits n).foldl (fun n c => n * 10 + digitValue c) 0, []) :=
    appendDigits_of_lt (by rw [value]; exact fits)
  rw [value] at append
  simp [read, take, sign, whole, takeFraction_of_endsInteger ends, takeExponent_of_endsInteger ends,
    Numeral.value, append, integerOf, bind, Except.bind, pure, Except.pure]

end Numeral

end TargetEncoding.Json
