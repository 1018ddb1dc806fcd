import TargetEncoding.Json.StringLiteral

/-! # Reading string literals back

A literal is read piece by piece (`read_quote`, `read_cons`), and the pieces of a written character
give that character, so written content is read as itself (`read_flatMap_writeChar`). -/

namespace TargetEncoding.Json.StringLiteral

theorem read_quote (cs : List Char) : read ('"' :: cs) = .ok ([], cs) := by
  rw [read, if_pos rfl]

theorem read_cons {c d : Char} {cs content rest : List Char} {n : Nat} (hc : c ≠ '"')
    (hp : piece c cs = .ok (d, n)) (hr : read (cs.drop n) = .ok (content, rest)) :
    read (c :: cs) = .ok (d :: content, rest) := by
  rw [read, if_neg hc]
  simp only [hp, hr, bind, Except.bind, pure, Except.pure]

theorem hexValue?_hexDigit {n : Nat} (h : n < 16) : hexValue? (hexDigit n) = some n := by
  have all : ∀ m < 16, hexValue? (hexDigit m) = some m := by decide
  exact all n h

theorem escaped_hex {cs : List Char} {n : Nat} (hn : fourHex cs = .ok n) (small : n < 0xD800) :
    escaped ('u' :: cs) = .ok (Char.ofNat n, 1 + hexLength) := by
  have ht : isTrailing n = false := by simp [isTrailing]; omega
  have hl : isLeading n = false := by simp [isLeading]; omega
  simp [escaped, hn, ht, hl, bind, Except.bind, pure, Except.pure]

theorem fourHex_hexDigit {n : Nat} (h : n < 256) (cs : List Char) :
    fourHex ('0' :: '0' :: hexDigit (n / 16) :: hexDigit (n % 16) :: cs) = .ok n := by
  have zero : hexValue? '0' = some 0 := by decide
  simp only [fourHex, zero, hexValue?_hexDigit (show n / 16 < 16 by omega),
    hexValue?_hexDigit (show n % 16 < 16 by omega)]
  congr 1
  omega

theorem isControl_iff {c : Char} : isControl c = true ↔ c.toNat < 32 := by
  simp [isControl, Char.lt_def, UInt32.lt_iff_toNat_lt]

/-- A written character is read back as itself. -/
theorem read_writeChar_append (c : Char) {cs content rest : List Char}
    (hr : read cs = .ok (content, rest)) :
    read (writeChar c ++ cs) = .ok (c :: content, rest) := by
  unfold writeChar
  repeat' split
  any_goals
    subst_vars
    exact read_cons (by decide) rfl hr
  · next control =>
    have small : c.toNat < 32 := isControl_iff.1 control
    have hex := escaped_hex (fourHex_hexDigit (show c.toNat < 256 by omega) cs) (by omega)
    rw [Char.ofNat_toNat] at hex
    exact read_cons (by decide) hex hr
  · next quote backslash _ _ _ _ _ plain =>
    exact read_cons (n := 0) quote (by simp [piece, backslash, plain]) hr

/-- Written content is read back, whatever follows the closing quote. -/
theorem read_flatMap_writeChar (s rest : List Char) :
    read (s.flatMap writeChar ++ '"' :: rest) = .ok (s, rest) := by
  induction s with
  | nil => exact read_quote rest
  | cons c s ih =>
    rw [List.flatMap_cons, List.append_assoc]
    exact read_writeChar_append c ih

end TargetEncoding.Json.StringLiteral
