import TargetEncoding.Proofs.JsonText

/-!
# The forms of strings and numbers

How a string or a number may be written in a JSON text.  A character has several forms: it may stand
for itself, or be escaped by a letter or by the hexadecimal digits of its UTF-16 units.  In a string
that nobody reads, the escapes need not stand for characters.

## Key results

- `LiteralText.read`: a literal is read as the string that it is a form of
- `StringText.pass`, `NumeralText.pass`: passing over a string or a number stops behind it
-/

namespace TargetEncoding.Json

/-! ## Characters -/

/-- The character is the hexadecimal digit of the number, a small or a capital letter. -/
def IsHexDigit (n : Nat) (c : Char) : Prop :=
  "0123456789abcdef".toList[n]? = some c ∨ "0123456789ABCDEF".toList[n]? = some c

/-- Four hexadecimal digits that write the number. -/
def HexText (n : Nat) (ds : List Char) : Prop :=
  List.Forall₂ IsHexDigit [n / 4096, n / 256 % 16, n / 16 % 16, n % 16] ds

/-- The letters that may follow a backslash, each with the character that they stand for. -/
def shortEscapes : List (Char × Char) :=
  [('"', '"'), ('\\', '\\'), ('/', '/'), ('b', '\x08'), ('f', '\x0c'), ('n', '\n'), ('r', '\r'),
   ('t', '\t')]

/-- The forms of a character in a string. -/
inductive CharText : Char → List Char → Prop where
  | plain {c : Char} : c ≠ '"' → c ≠ '\\' → 32 ≤ c.toNat → CharText c [c]
  | short {e c : Char} : (e, c) ∈ shortEscapes → CharText c ['\\', e]
  | unit {c : Char} {ds : List Char} : HexText c.toNat ds → CharText c ('\\' :: 'u' :: ds)
  /-- The two UTF-16 units of a character that needs as many. -/
  | pair {c : Char} {high low : Nat} {hs ls : List Char} :
    c.toNat = 0x10000 + high * 0x400 + low → high < 0x400 → low < 0x400 →
    HexText (0xD800 + high) hs → HexText (0xDC00 + low) ls →
    CharText c ('\\' :: 'u' :: hs ++ '\\' :: 'u' :: ls)

/-- The forms of a string, from behind its opening quote to its closing one. -/
inductive LiteralText : List Char → List Char → Prop where
  | nil : LiteralText [] ['"']
  | cons {c : Char} {piece content text : List Char} : CharText c piece →
    LiteralText content text → LiteralText (c :: content) (piece ++ text)

/-- A piece of a string that need not stand for a character: any hexadecimal escape will do. -/
inductive StringPiece : List Char → Prop where
  | plain {c : Char} : c ≠ '"' → c ≠ '\\' → 32 ≤ c.toNat → StringPiece [c]
  | short {e c : Char} : (e, c) ∈ shortEscapes → StringPiece ['\\', e]
  | unit {n : Nat} {ds : List Char} : HexText n ds → StringPiece ('\\' :: 'u' :: ds)

/-- A string, from behind its opening quote to its closing one. -/
inductive StringText : List Char → Prop where
  | nil : StringText ['"']
  | cons {piece text : List Char} : StringPiece piece → StringText text → StringText (piece ++ text)

namespace StringLiteral

theorem hexValue?_of_isHexDigit {n : Nat} {c : Char} (h : IsHexDigit n c) :
    hexValue? c = some n := by
  have hsmall : n < 16 := by
    rcases h with h | h <;> exact (List.getElem?_eq_some_iff.1 h).1
  have hall : ∀ m < 16, "0123456789abcdef".toList[m]?.bind hexValue? = some m ∧
      "0123456789ABCDEF".toList[m]?.bind hexValue? = some m := by decide
  obtain ⟨hlower, hupper⟩ := hall n hsmall
  rcases h with h | h
  · rwa [h] at hlower
  · rwa [h] at hupper

theorem fourHex_of_hexText {n : Nat} {ds : List Char} (h : HexText n ds) (cs : List Char) :
    fourHex (ds ++ cs) = .ok n ∧ (ds ++ cs).drop hexLength = cs := by
  -- the digits one by one
  obtain ⟨_, _, ha, h₁, rfl⟩ := List.forall₂_cons_left_iff.1 h
  obtain ⟨_, _, hb, h₂, rfl⟩ := List.forall₂_cons_left_iff.1 h₁
  obtain ⟨_, _, hc, h₃, rfl⟩ := List.forall₂_cons_left_iff.1 h₂
  obtain ⟨_, _, hd, h₄, rfl⟩ := List.forall₂_cons_left_iff.1 h₃
  rw [List.forall₂_nil_left_iff.1 h₄]
  refine ⟨?_, rfl⟩
  simp only [List.cons_append, fourHex, hexValue?_of_isHexDigit ha, hexValue?_of_isHexDigit hb,
    hexValue?_of_isHexDigit hc, hexValue?_of_isHexDigit hd]
  congr 1
  omega

theorem escaped_short {e c : Char} (h : (e, c) ∈ shortEscapes) (cs : List Char) :
    escaped (e :: cs) = .ok (c, 1) ∧ passEscaped (e :: cs) = .ok 1 := by
  simp only [shortEscapes, List.mem_cons, Prod.mk.injEq, List.not_mem_nil, or_false] at h
  rcases h with ⟨rfl, rfl⟩ | ⟨rfl, rfl⟩ | ⟨rfl, rfl⟩ | ⟨rfl, rfl⟩ | ⟨rfl, rfl⟩ | ⟨rfl, rfl⟩ |
    ⟨rfl, rfl⟩ | ⟨rfl, rfl⟩ <;> exact ⟨rfl, rfl⟩

theorem not_isControl {c : Char} (h : 32 ≤ c.toNat) : isControl c = false := by
  rw [Bool.eq_false_iff, ne_eq, isControl_iff]
  omega

/-- The number of a character is not half of a surrogate pair. -/
theorem not_surrogate (c : Char) : isLeading c.toNat = false ∧ isTrailing c.toNat = false := by
  have hvalid : c.toNat < 0xD800 ∨ 0xDFFF < c.toNat ∧ c.toNat < 0x110000 := c.valid
  simp only [isLeading, isTrailing, Bool.and_eq_false_iff, decide_eq_false_iff_not]
  omega

theorem escaped_unit {c : Char} {ds : List Char} (h : HexText c.toNat ds) (cs : List Char) :
    escaped ('u' :: (ds ++ cs)) = .ok (c, 1 + hexLength) := by
  have hhex := (fourHex_of_hexText h cs).1
  obtain ⟨hleading, htrailing⟩ := not_surrogate c
  simp [escaped, hhex, hleading, htrailing, bind, Except.bind, pure, Except.pure]

/-- The halves of a pair are told apart, and stand for one character. -/
theorem pairedChar_units {c : Char} {high low : Nat} (hc : c.toNat = 0x10000 + high * 0x400 + low)
    (hhigh : high < 0x400) (hlow : low < 0x400) :
    isTrailing (0xD800 + high) = false ∧ isLeading (0xD800 + high) = true ∧
      isTrailing (0xDC00 + low) = true ∧ pairedChar (0xD800 + high) (0xDC00 + low) = c := by
  simp only [isLeading, isTrailing, Bool.and_eq_false_iff, decide_eq_false_iff_not,
    Bool.and_eq_true, decide_eq_true_eq]
  refine ⟨by omega, by omega, by omega, ?_⟩
  have hsum : high * 0x400 + low + 0x10000 = c.toNat := by omega
  rw [pairedChar, Nat.add_sub_cancel_left, Nat.add_sub_cancel_left, hsum, Char.ofNat_toNat]

theorem escaped_pair {c : Char} {leading trailing : Nat} {hs ls : List Char}
    (hnot : isTrailing leading = false) (hleading : isLeading leading = true)
    (htrailing : isTrailing trailing = true) (hpaired : pairedChar leading trailing = c)
    (hhs : HexText leading hs) (hls : HexText trailing ls) (cs : List Char) :
    escaped ('u' :: (hs ++ '\\' :: 'u' :: (ls ++ cs))) =
      .ok (c, 1 + hexLength + hexEscapeLength) := by
  obtain ⟨hfirst, hdrop⟩ := fourHex_of_hexText hhs ('\\' :: 'u' :: (ls ++ cs))
  have hhalf : trailingHalf ('\\' :: 'u' :: (ls ++ cs)) = .ok trailing := by
    simp [trailingHalf, (fourHex_of_hexText hls cs).1, htrailing, bind, Except.bind, pure,
      Except.pure]
  simp [escaped, hfirst, hdrop, hnot, hleading, hhalf, hpaired, bind, Except.bind, pure,
    Except.pure]

/-- However a character is written, it is read. -/
theorem read_charText {c : Char} {piece : List Char} (h : CharText c piece)
    {cs content rest : List Char} (hr : read cs = .ok (content, rest)) :
    read (piece ++ cs) = .ok (c :: content, rest) := by
  cases h with
  | plain hquote hback hlarge =>
    have hpiece : StringLiteral.piece c cs = .ok (c, 0) := by
      rw [StringLiteral.piece, if_neg hback, not_isControl hlarge]
      rfl
    exact read_cons hquote hpiece hr
  | short hshort => exact read_cons (by decide) (escaped_short hshort cs).1 hr
  | @unit _ ds hhex =>
    refine read_cons (by decide) (escaped_unit hhex cs) ?_
    show read ((ds ++ cs).drop hexLength) = _
    rwa [(fourHex_of_hexText hhex cs).2]
  | @pair _ high low hs ls hc hhigh hlow hhs hls =>
    obtain ⟨hnot, hleading, htrailing, hpaired⟩ := pairedChar_units hc hhigh hlow
    have hescaped := escaped_pair hnot hleading htrailing hpaired hhs hls cs
    have hdrop : ('u' :: (hs ++ '\\' :: 'u' :: (ls ++ cs))).drop
        (1 + hexLength + hexEscapeLength) = cs := by
      show (hs ++ '\\' :: 'u' :: (ls ++ cs)).drop (hexLength + hexEscapeLength) = cs
      rw [← List.drop_drop, (fourHex_of_hexText hhs _).2]
      exact (fourHex_of_hexText hls cs).2
    have hread : read ('\\' :: 'u' :: (hs ++ '\\' :: 'u' :: (ls ++ cs))) =
        .ok (c :: content, rest) :=
      read_cons (by decide) hescaped ((congrArg read hdrop).trans hr)
    simpa using hread

/-- A piece of a string is passed over. -/
theorem pass_stringPiece {piece : List Char} (h : StringPiece piece) (cs : List Char) :
    pass (piece ++ cs) = pass cs := by
  cases h with
  | @plain c hquote hback hlarge =>
    rw [List.cons_append, List.nil_append, pass, if_neg hquote, passPiece, if_neg hback,
      not_isControl hlarge]
    rfl
  | @short e c hshort =>
    show pass ('\\' :: e :: cs) = _
    rw [pass, if_neg (by decide), passPiece, if_pos rfl, (escaped_short hshort cs).2]
    rfl
  | @unit n ds hhex =>
    obtain ⟨hfour, hdrop⟩ := fourHex_of_hexText hhex cs
    show pass ('\\' :: 'u' :: (ds ++ cs)) = _
    rw [pass_hexEscape hfour, hdrop]

end StringLiteral

/-- A literal is read as the string that it is a form of. -/
theorem LiteralText.read {content literal : List Char} (h : LiteralText content literal)
    (rest : List Char) : StringLiteral.read (literal ++ rest) = .ok (content, rest) := by
  induction h with
  | nil => exact StringLiteral.read_quote rest
  | cons hc _ ih =>
    rw [List.append_assoc]
    exact StringLiteral.read_charText hc ih

/-- A string in which nothing has to be escaped is a form of itself. -/
theorem LiteralText.plain {content : List Char}
    (h : ∀ c ∈ content, c ≠ '"' ∧ c ≠ '\\' ∧ 32 ≤ c.toNat) :
    LiteralText content (content ++ ['"']) := by
  induction content with
  | nil => exact .nil
  | cons c content ih =>
    obtain ⟨⟨hquote, hback, hlarge⟩, hcontent⟩ := List.forall_mem_cons.1 h
    have hliteral := LiteralText.cons (.plain hquote hback hlarge) (ih hcontent)
    exact hliteral

/-- Passing over a string stops behind it. -/
theorem StringText.pass {text : List Char} (h : StringText text) (rest : List Char) :
    StringLiteral.pass (text ++ rest) = .ok rest := by
  induction h with
  | nil =>
    show StringLiteral.pass ('"' :: rest) = _
    rw [StringLiteral.pass, if_pos rfl]
  | cons hpiece _ ih => rw [List.append_assoc, StringLiteral.pass_stringPiece hpiece, ih]

/-! ## Numbers -/

/-- At least one digit. -/
def DigitsText (ds : List Char) : Prop := ds ≠ [] ∧ ∀ c ∈ ds, c.isDigit = true

/-- The fraction of a number, if there is one. -/
inductive FractionText : List Char → Prop where
  | none : FractionText []
  | some {ds : List Char} : DigitsText ds → FractionText ('.' :: ds)

/-- The exponent of a number, if there is one. -/
inductive ExponentText : List Char → Prop where
  | none : ExponentText []
  | some {e : Char} {sign ds : List Char} : e ∈ ['e', 'E'] → sign ∈ [[], ['+'], ['-']] →
    DigitsText ds → ExponentText (e :: sign ++ ds)

/-- A number: a zero in front of other digits is not allowed. -/
inductive NumeralText : List Char → Prop where
  | intro {sign whole fraction exponent : List Char} : sign ∈ [[], ['-']] → DigitsText whole →
    (whole.head? = some '0' → whole.length = 1) → FractionText fraction →
    ExponentText exponent → NumeralText (sign ++ (whole ++ (fraction ++ exponent)))

namespace Numeral

theorem takeDigits_digitsText {ds rest : List Char} (h : DigitsText ds)
    (hstops : ∀ c ∈ rest.head?, c.isDigit = false) : takeDigits (ds ++ rest) = .ok (ds, rest) :=
  takeDigits_append h.2 h.1 hstops

theorem takeWhole_digitsText {whole rest : List Char} (h : DigitsText whole)
    (hzero : whole.head? = some '0' → whole.length = 1)
    (hstops : ∀ c ∈ rest.head?, c.isDigit = false) :
    takeWhole (whole ++ rest) = .ok (whole, rest) := by
  simp only [takeWhole, takeDigits_digitsText h hstops, bind, Except.bind]
  rw [if_neg (by simpa using hzero)]
  rfl

theorem takeSign_digitsText {sign whole : List Char} (hsign : sign ∈ [[], ['-']])
    (hwhole : DigitsText whole) (rest : List Char) :
    ∃ negative, takeSign (sign ++ (whole ++ rest)) = (negative, whole ++ rest) := by
  simp only [List.mem_cons, List.not_mem_nil, or_false] at hsign
  rcases hsign with rfl | rfl
  · obtain ⟨hne, hdigits⟩ := hwhole
    obtain ⟨d, ds, rfl⟩ := List.exists_cons_of_ne_nil hne
    exact ⟨false, takeSign_of_isDigit (hdigits d List.mem_cons_self) _⟩
  · exact ⟨true, rfl⟩

theorem takeExponentSign_digitsText {sign ds : List Char} (hsign : sign ∈ [[], ['+'], ['-']])
    (hds : DigitsText ds) (rest : List Char) :
    ∃ negative, takeExponentSign (sign ++ (ds ++ rest)) = (negative, ds ++ rest) := by
  simp only [List.mem_cons, List.not_mem_nil, or_false] at hsign
  rcases hsign with rfl | rfl | rfl
  · obtain ⟨hne, hdigits⟩ := hds
    obtain ⟨d, ds, rfl⟩ := List.exists_cons_of_ne_nil hne
    have hd : d.isDigit = true := hdigits d List.mem_cons_self
    refine ⟨false, ?_⟩
    rw [List.nil_append, List.cons_append, takeExponentSign.eq_def]
    split
    · rename_i heq
      exact absurd (List.cons.inj heq).1 (ne_of_isDigit hd (by decide))
    · rename_i heq
      exact absurd (List.cons.inj heq).1 (ne_of_isDigit hd (by decide))
    · rfl
  · exact ⟨false, rfl⟩
  · exact ⟨true, rfl⟩

/-- What follows the digits before an exponent is none of them, nor a point. -/
theorem head?_exponentText {exponent rest : List Char} (h : ExponentText exponent)
    (hends : EndsInteger rest) : ∀ c ∈ (exponent ++ rest).head?, c.isDigit = false ∧ c ≠ '.' := by
  intro c hc
  cases h with
  | none => exact ⟨(hends c hc).1, (hends c hc).2.1⟩
  | some he _ _ =>
    obtain rfl := Option.some.inj hc
    simp only [List.mem_cons, List.not_mem_nil, or_false] at he
    rcases he with rfl | rfl <;> decide

theorem head?_fractionText {fraction exponent rest : List Char} (h : FractionText fraction)
    (hexponent : ExponentText exponent) (hends : EndsInteger rest) :
    ∀ c ∈ (fraction ++ (exponent ++ rest)).head?, c.isDigit = false := by
  intro c hc
  cases h with
  | none => exact (head?_exponentText hexponent hends c hc).1
  | some _ =>
    obtain rfl := Option.some.inj hc
    rfl

theorem takeFraction_fractionText {fraction exponent rest : List Char}
    (h : FractionText fraction) (hexponent : ExponentText exponent) (hends : EndsInteger rest) :
    ∃ digits, takeFraction (fraction ++ (exponent ++ rest)) = .ok (digits, exponent ++ rest) := by
  have hstops := head?_exponentText hexponent hends
  cases h with
  | none =>
    refine ⟨none, ?_⟩
    rw [List.nil_append, takeFraction.eq_def]
    split
    · rename_i heq
      rw [heq] at hstops
      exact absurd rfl (hstops '.' rfl).2
    · rfl
  | @some ds hds =>
    refine ⟨some ds, ?_⟩
    rw [List.cons_append, takeFraction, takeDigits_digitsText hds fun c hc => (hstops c hc).1]
    rfl

theorem takeExponent_exponentText {exponent rest : List Char} (h : ExponentText exponent)
    (hends : EndsInteger rest) : ∃ e, takeExponent (exponent ++ rest) = .ok (e, rest) := by
  cases h with
  | none => exact ⟨none, takeExponent_of_endsInteger hends⟩
  | @some e sign ds he hsign hds =>
    obtain ⟨negative, htake⟩ := takeExponentSign_digitsText hsign hds rest
    refine ⟨some (negative, ds), ?_⟩
    rw [List.cons_append, List.cons_append, List.append_assoc, takeExponent,
      if_pos (by simpa using he), htake]
    show (takeDigits (ds ++ rest) >>= _) = _
    rw [takeDigits_digitsText hds fun c hc => (hends c hc).1]
    rfl

end Numeral

/-- Passing over a number stops behind it. -/
theorem NumeralText.pass {text : List Char} (h : NumeralText text) {rest : List Char}
    (hends : Numeral.EndsInteger rest) : Numeral.pass (text ++ rest) = .ok rest := by
  cases h with
  | @intro sign whole fraction exponent hsign hwhole hzero hfraction hexponent =>
    obtain ⟨negative, htakeSign⟩ :=
      Numeral.takeSign_digitsText hsign hwhole (fraction ++ (exponent ++ rest))
    have htakeWhole := Numeral.takeWhole_digitsText hwhole hzero
      (Numeral.head?_fractionText hfraction hexponent hends)
    obtain ⟨digits, htakeFraction⟩ :=
      Numeral.takeFraction_fractionText hfraction hexponent hends
    obtain ⟨e, htakeExponent⟩ := Numeral.takeExponent_exponentText hexponent hends
    -- each part ends where the next one begins, since no part begins with what continues another
    have htake : Numeral.take (sign ++ (whole ++ (fraction ++ (exponent ++ rest)))) =
        .ok (⟨negative, whole, digits, e⟩, rest) := by
      simp only [Numeral.take, htakeSign, htakeWhole, htakeFraction, htakeExponent, bind,
        Except.bind, pure, Except.pure]
    simp only [List.append_assoc, Numeral.pass, htake]

/-- A number begins with a minus sign or a digit. -/
theorem NumeralText.eq_cons {text : List Char} (h : NumeralText text) :
    ∃ c cs, text = c :: cs ∧ (c = '-' ∨ c.isDigit = true) := by
  cases h with
  | @intro sign whole fraction exponent hsign hwhole _ _ _ =>
    simp only [List.mem_cons, List.not_mem_nil, or_false] at hsign
    rcases hsign with rfl | rfl
    · obtain ⟨d, ds, rfl⟩ := List.exists_cons_of_ne_nil hwhole.1
      exact ⟨d, _, rfl, .inr (hwhole.2 d List.mem_cons_self)⟩
    · exact ⟨'-', _, rfl, .inl rfl⟩

end TargetEncoding.Json
