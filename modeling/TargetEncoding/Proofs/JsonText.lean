import Mathlib.Data.List.DropRight
import TargetEncoding.Json.Numeral.Lemmas
import TargetEncoding.Json.Reader
import TargetEncoding.Json.StringLiteral.Lemmas
import TargetEncoding.Proofs.ForStd

/-!
# Texts that stand for values

A text stands for a value whatever comes before and behind it: reading begins where the text begins
and goes on where it ends.  What is read from a place in the outline is said by a property of the
outline, as an outline holds the rest of the text and so is not the same in every surrounding.

## Key results

- `StringLiteral.pass_of_read`: passing over a literal gets as far as reading it
- `outlines_literal`, `outlines_decimalDigits`: texts of strings and of indices
- `outlinesMember_blanks`: a key, a colon and the text of a value, with blanks between them
- `outlines_object`: members with commas between them and braces around them
- `readText_of_outlines`: a whole text
-/

namespace TargetEncoding.Json

/-! ## Passing over literals -/

namespace StringLiteral

/-- A hexadecimal escape is passed over whether or not it is half of a pair. -/
theorem pass_hexEscape {cs : List Char} {n : Nat} (h : fourHex cs = .ok n) :
    pass ('\\' :: 'u' :: cs) = pass (cs.drop hexLength) := by
  rw [pass, if_neg (by decide), passPiece, if_pos rfl, passEscaped, h, hexLength, Nat.add_comm]
  rfl

/-- The second half of a surrogate pair is a hexadecimal escape. -/
theorem eq_of_trailingHalf {cs : List Char} {n : Nat} (h : trailingHalf cs = .ok n) :
    ∃ digits, cs = '\\' :: 'u' :: digits ∧ fourHex digits = .ok n := by
  rw [trailingHalf.eq_def] at h
  split at h
  · exact nomatch h
  · exact nomatch h
  · rename_i digits
    obtain ⟨m, hm, h⟩ := Except.bind_eq_ok_iff.1 h
    split at h
    · exact ⟨digits, rfl, hm.trans h⟩
    · exact nomatch h
  · exact nomatch h

/-- What an escape stands for is of no account to passing over it. -/
theorem pass_escaped {cs : List Char} {d : Char} {n : Nat} (h : escaped cs = .ok (d, n)) :
    pass ('\\' :: cs) = pass (cs.drop n) := by
  rw [escaped.eq_def] at h
  split at h
  · cases h
  · rename_i digits
    obtain ⟨m, hm, h⟩ := Except.bind_eq_ok_iff.1 h
    rw [pass_hexEscape hm]
    split at h
    · cases h
    · split at h
      · -- a pair is passed over half by half
        obtain ⟨trailing, htrailing, h⟩ := Except.bind_eq_ok_iff.1 h
        obtain ⟨digits', hdigits, hm'⟩ := eq_of_trailingHalf htrailing
        obtain ⟨_, rfl⟩ := Prod.mk.inj (Except.ok.inj h)
        have hend : ('u' :: digits).drop (1 + hexLength + hexEscapeLength) =
            digits'.drop hexLength := by
          show digits.drop (hexLength + hexEscapeLength) = _
          rw [← List.drop_drop, hdigits]
          rfl
        rw [hdigits, pass_hexEscape hm', hend]
      · obtain ⟨_, rfl⟩ := Prod.mk.inj (Except.ok.inj h)
        rw [Nat.add_comm, List.drop_succ_cons]
  · rename_i c cs hc
    split at h
    · rename_i short hshort
      obtain ⟨_, rfl⟩ := Prod.mk.inj (Except.ok.inj h)
      have hpiece : passEscaped (c :: cs) = .ok 1 := by
        rw [passEscaped, if_pos (by rw [hshort]; rfl)]
        exact hc
      rw [pass, if_neg (by decide), passPiece, if_pos rfl, hpiece]
      rfl
    · cases h

/-- Passing over a literal gets as far as reading it. -/
theorem pass_of_read {cs content rest : List Char} (h : read cs = .ok (content, rest)) :
    pass cs = .ok rest := by
  -- each piece that is read is passed over, and what is behind it is shorter
  induction hn : cs.length using Nat.strongRecOn generalizing cs content with
  | ind n ih =>
    cases cs with
    | nil =>
      rw [read] at h
      cases h
    | cons c cs =>
      rw [read] at h
      by_cases hc : c = '"'
      · rw [if_pos hc] at h
        obtain ⟨_, rfl⟩ := Prod.mk.inj (Except.ok.inj h)
        rw [pass, if_pos hc]
      · rw [if_neg hc] at h
        obtain ⟨⟨d, k⟩, hpiece, h⟩ := Except.bind_eq_ok_iff.1 h
        obtain ⟨⟨content', rest'⟩, hread, h⟩ := Except.bind_eq_ok_iff.1 h
        obtain ⟨_, rfl⟩ := Prod.mk.inj (Except.ok.inj h)
        have hlt : (cs.drop k).length < n := by
          rw [← hn, List.length_drop, List.length_cons]
          omega
        have hpass := ih _ hlt hread rfl
        rw [piece] at hpiece
        split at hpiece
        · rename_i hback
          rw [hback, pass_escaped hpiece, hpass]
        · rename_i hplain
          split at hpiece
          · cases hpiece
          · rename_i hcontrol
            obtain ⟨_, rfl⟩ := Prod.mk.inj (Except.ok.inj hpiece)
            rw [pass, if_neg hc, passPiece, if_neg hplain, if_neg hcontrol]
            exact hpass

end StringLiteral

/-! ## Blanks -/

theorem skipBlanks_cons {c : Char} (hc : isInsignificant c = false) (cs : List Char) :
    skipBlanks (c :: cs) = c :: cs :=
  List.dropWhile_cons_of_neg (by simp [hc])

theorem skipBlanks_skipBlanks (cs : List Char) : skipBlanks (skipBlanks cs) = skipBlanks cs :=
  List.dropWhile_idempotent _ _

/-- Only characters that may stand between any two parts of a text. -/
def Blanks (cs : List Char) : Prop := ∀ c ∈ cs, c ∈ [' ', '\n', '\t', '\r']

theorem blanks_nil : Blanks [] := nofun

theorem Blanks.isInsignificant {b : List Char} (h : Blanks b) {c : Char} (hc : c ∈ b) :
    isInsignificant c = true := by
  have hmem := h c hc
  simp only [List.mem_cons, List.not_mem_nil, or_false] at hmem
  rcases hmem with rfl | rfl | rfl | rfl <;> rfl

theorem skipBlanks_append {b : List Char} (h : Blanks b) (cs : List Char) :
    skipBlanks (b ++ cs) = skipBlanks cs :=
  List.dropWhile_append_of_pos fun _ => h.isInsignificant

/-- The members do not begin with the blanks before them. -/
theorem Outline.members_skipBlanks (depth : Nat) (cs : List Char) :
    Outline.members depth (skipBlanks cs) = Outline.members depth cs := by
  cases depth with
  | zero => rfl
  | succ depth => simp only [Outline.members, skipBlanks_skipBlanks]

/-! ## Values -/

/-- In every surrounding that does not continue a number, `text` is outlined by something with the
property `P`, and reading goes on behind `text`, up to blanks.  Each character allows for three
steps down. -/
def Outlines (text : List Char) (P : Outline → Prop) : Prop :=
  ∀ depth rest, 3 * text.length ≤ depth → Numeral.EndsInteger rest →
    ∃ o after, Outline.value depth (text ++ rest) = (o, .ok after) ∧
      skipBlanks after = skipBlanks rest ∧ P o

theorem Outlines.imp {text : List Char} {P Q : Outline → Prop} (h : Outlines text P)
    (hPQ : ∀ o, P o → Q o) : Outlines text Q := by
  intro depth rest hdepth hends
  obtain ⟨o, after, hvalue, hafter, ho⟩ := h depth rest hdepth hends
  exact ⟨o, after, hvalue, hafter, hPQ o ho⟩

theorem readString_string {source content rest : List Char}
    (h : StringLiteral.read source = .ok (content, rest)) :
    readString (.string source) = .ok (String.ofList content) := by
  rw [readString, h]
  rfl

theorem readIndex_number {source rest : List Char} {n : Nat}
    (h : Numeral.read source = .ok (.natural n, rest)) : readIndex (.number source) = .ok n := by
  rw [readIndex, h]
  rfl

theorem readOptional_of_ne_null {α : Type} {read : Reader α} {o : Outline} (h : o ≠ .null) :
    readOptional read o = some <$> read o := by
  rw [readOptional.eq_def]
  split
  · exact absurd rfl h
  · rfl

/-- The text of a string: a literal, with its closing quote, behind an opening one. -/
theorem outlines_literal {literal content : List Char}
    (hread : ∀ rest, StringLiteral.read (literal ++ rest) = .ok (content, rest)) :
    Outlines ('"' :: literal) fun o => readString o = .ok (String.ofList content) := by
  intro depth rest hdepth _
  cases depth with
  | zero => simp at hdepth
  | succ depth =>
    refine ⟨.string (literal ++ rest), rest, ?_, rfl, readString_string (hread rest)⟩
    have hpass := StringLiteral.pass_of_read (hread rest)
    rw [List.cons_append, Outline.value, skipBlanks_cons (by decide)]
    simp only [if_true, hpass]

/-- Passing over a numeral gets as far as reading it. -/
theorem Numeral.pass_of_read {cs rest : List Char} {x : Number} (h : read cs = .ok (x, rest)) :
    pass cs = .ok rest := by
  obtain ⟨⟨numeral, rest'⟩, htake, hvalue⟩ := Except.bind_eq_ok_iff.1 h
  obtain ⟨y, _, hpair⟩ := Except.bind_eq_ok_iff.1 hvalue
  rw [pass, htake, ← (Prod.mk.inj (Except.ok.inj hpair)).2]

theorem ne_of_isDigit {c d : Char} (hc : c.isDigit = true) (hd : d.isDigit = false) : c ≠ d := by
  intro heq
  rw [heq, hd] at hc
  exact nomatch hc

/-- A value that begins with a digit is a number. -/
theorem Outline.value_of_isDigit {c : Char} (hc : c.isDigit = true) (depth : Nat)
    (cs : List Char) :
    Outline.value (depth + 1) (c :: cs) = (.number (c :: cs), Numeral.pass (c :: cs)) := by
  have hblank : isInsignificant c = false := by
    rw [Bool.eq_false_iff]
    intro h
    simp only [isInsignificant, Bool.or_eq_true, decide_eq_true_eq] at h
    rcases h with ((rfl | rfl) | rfl) | rfl <;> exact absurd hc (by decide)
  rw [Outline.value, skipBlanks_cons hblank]
  show ite .. = _
  rw [if_neg (ne_of_isDigit hc (by decide)), if_neg (ne_of_isDigit hc (by decide)),
    if_neg (ne_of_isDigit hc (by decide)), if_pos (by simp [hc])]

/-- The text of an index: its decimal digits. -/
theorem outlines_decimalDigits {n : Nat} (hn : n < indexLimit) :
    Outlines (decimalDigits n) fun o => readIndex o = .ok n := by
  intro depth rest hdepth hends
  have hread := Numeral.read_decimalDigits hn hends
  obtain ⟨d, ds, hdigits, hd⟩ := exists_decimalDigits_eq_cons n
  rw [hdigits] at hread hdepth ⊢
  cases depth with
  | zero => simp at hdepth
  | succ depth =>
    refine ⟨.number (d :: ds ++ rest), rest, ?_, rfl, readIndex_number hread⟩
    rw [List.cons_append, Outline.value_of_isDigit hd, ← List.cons_append,
      Numeral.pass_of_read hread]

/-! ## Members -/

/-- In every surrounding that does not continue a number, `text` is a key and a value that together
have the property `P`, and reading goes on behind `text`, up to blanks. -/
def OutlinesMember (text : List Char) (P : List Char × Outline → Prop) : Prop :=
  ∀ depth rest, 3 * text.length ≤ depth → Numeral.EndsInteger rest →
    ∃ key o after, skipBlanks (text ++ rest) = '"' :: key ∧
      Outline.memberValue depth (StringLiteral.pass key) = (o, .ok after) ∧
      skipBlanks after = skipBlanks rest ∧ P (key, o)

/-- The text of a member: a literal, with its closing quote, a colon and the text of a value, with
blanks before the literal and behind it. -/
theorem outlinesMember_blanks {before literal gap text : List Char} {K : List Char → Prop}
    {P : Outline → Prop} (hbefore : Blanks before) (hgap : Blanks gap)
    (hpass : ∀ rest, StringLiteral.pass (literal ++ rest) = .ok rest)
    (hkey : ∀ rest, K (literal ++ rest)) (hvalue : Outlines text P) :
    OutlinesMember (before ++ '"' :: literal ++ gap ++ ':' :: text) fun m => K m.1 ∧ P m.2 := by
  intro depth rest hdepth hends
  simp only [List.length_append, List.length_cons] at hdepth
  obtain ⟨o, after, ho, hafter, hP⟩ := hvalue (depth - 1) rest (by omega) hends
  refine ⟨literal ++ (gap ++ ':' :: text ++ rest), o, after, ?_, ?_, hafter, hkey _, hP⟩
  · rw [List.append_assoc, List.append_assoc, List.append_assoc, skipBlanks_append hbefore,
      List.cons_append, skipBlanks_cons (by decide), List.append_assoc]
  · obtain ⟨depth, rfl⟩ : ∃ d, depth = d + 1 := ⟨depth - 1, by omega⟩
    rw [hpass, Outline.memberValue, List.append_assoc, skipBlanks_append hgap, List.cons_append,
      skipBlanks_cons (by decide)]
    exact ho

/-- The text of a member without blanks before the value. -/
theorem outlinesMember {literal text : List Char} {K : List Char → Prop} {P : Outline → Prop}
    (hpass : ∀ rest, StringLiteral.pass (literal ++ rest) = .ok rest)
    (hkey : ∀ rest, K (literal ++ rest)) (hvalue : Outlines text P) :
    OutlinesMember ('"' :: literal ++ ':' :: text) fun m => K m.1 ∧ P m.2 := by
  have h := outlinesMember_blanks blanks_nil blanks_nil hpass hkey hvalue
  rwa [List.nil_append, List.append_nil] at h

theorem Numeral.endsInteger_cons {c : Char}
    (hc : c.isDigit = false ∧ c ≠ '.' ∧ c ≠ 'e' ∧ c ≠ 'E') (cs : List Char) :
    EndsInteger (c :: cs) := by
  intro d hd
  rw [← Option.some.inj hd]
  exact hc

section Members

variable {ε : Type} {P : ε → List Char × Outline → Prop} {text : List Char} {e : ε}

/-- A member before a closing brace is the last one. -/
theorem members_brace (h : OutlinesMember text (P e)) {depth : Nat}
    (hdepth : 3 * text.length ≤ depth) (rest : List Char) :
    ∃ m, Outline.members (depth + 1) (text ++ '}' :: rest) = ([m], .ok rest) ∧ P e m := by
  have hends : Numeral.EndsInteger ('}' :: rest) := Numeral.endsInteger_cons (by decide) rest
  obtain ⟨key, o, after, hkey, ho, hafter, hP⟩ := h depth _ hdepth hends
  rw [skipBlanks_cons (by decide)] at hafter
  refine ⟨(key, o), ?_, hP⟩
  rw [Outline.members, hkey]
  simp [ho, hafter]

/-- A member before a comma is followed by the members behind it. -/
theorem members_comma (h : OutlinesMember text (P e)) {depth : Nat}
    (hdepth : 3 * text.length ≤ depth) {cs rest : List Char} {ms : List (List Char × Outline)}
    (hms : Outline.members depth cs = (ms, .ok rest)) :
    ∃ m, Outline.members (depth + 1) (text ++ ',' :: cs) = (m :: ms, .ok rest) ∧ P e m := by
  have hends : Numeral.EndsInteger (',' :: cs) := Numeral.endsInteger_cons (by decide) cs
  obtain ⟨key, o, after, hkey, ho, hafter, hP⟩ := h depth _ hdepth hends
  rw [skipBlanks_cons (by decide)] at hafter
  refine ⟨(key, o), ?_, hP⟩
  rw [Outline.members, hkey]
  simp [ho, hafter, hms]

/-- If there are members, then the brace before them is not closed at once. -/
theorem firstMember_of_members {depth : Nat} {cs rest : List Char}
    {ms : List (List Char × Outline)} (h : Outline.members depth cs = (ms, .ok rest)) :
    Outline.firstMember (depth + 1) cs = (ms, .ok rest) := by
  cases depth with
  | zero => exact nomatch h
  | succ depth =>
    have hblank := Outline.members_skipBlanks (depth + 1) cs
    rw [h] at hblank
    rw [Outline.members] at h
    rw [Outline.firstMember]
    cases hcs : skipBlanks cs with
    | nil =>
      rw [hcs] at h
      exact nomatch h
    | cons c key =>
      rw [hcs] at h hblank
      by_cases hc : c = '"'
      · subst hc
        exact hblank
      · simp [hc] at h

/-- Members with commas between them are read one by one. -/
theorem members_intercalate {es : List ε} {texts : List (List Char)}
    (h : List.Forall₂ (fun e text => OutlinesMember text (P e)) es texts) (hne : es ≠ [])
    {depth : Nat} (hdepth : 3 * ([','].intercalate texts).length < depth) (rest : List Char) :
    ∃ ms, Outline.members depth ([','].intercalate texts ++ '}' :: rest) = (ms, .ok rest) ∧
      List.Forall₂ P es ms := by
  obtain ⟨depth, rfl⟩ : ∃ d, depth = d + 1 := ⟨depth - 1, by omega⟩
  induction h generalizing depth with
  | nil => exact absurd rfl hne
  | @cons e text es texts he hes ih =>
    cases hes with
    | nil =>
      rw [List.intercalate_singleton] at hdepth ⊢
      obtain ⟨m, hm, hP⟩ := members_brace he (show 3 * text.length ≤ depth by omega) rest
      exact ⟨[m], hm, .cons hP .nil⟩
    | cons he' hes' =>
      rw [List.intercalate_cons_cons] at hdepth ⊢
      simp only [List.length_append, List.length_singleton] at hdepth
      obtain ⟨depth, rfl⟩ : ∃ d, depth = d + 1 := ⟨depth - 1, by omega⟩
      obtain ⟨ms, hms, hPs⟩ := ih (by simp) depth (by omega)
      obtain ⟨m, hm, hP⟩ := members_comma he (by omega) hms
      refine ⟨m :: ms, ?_, .cons hP hPs⟩
      simpa using hm

/-- The text of an object: the texts of its members with commas between them and braces around
them. -/
theorem outlines_object {es : List ε} {texts : List (List Char)}
    (h : List.Forall₂ (fun e text => OutlinesMember text (P e)) es texts) :
    Outlines ('{' :: [','].intercalate texts ++ ['}']) fun o =>
      ∃ ms, o = .object ms none ∧ List.Forall₂ P es ms := by
  intro depth rest hdepth _
  rw [List.cons_append, List.length_cons, List.length_append, List.length_singleton] at hdepth
  obtain ⟨depth, rfl⟩ : ∃ d, depth = d + 2 := ⟨depth - 2, by omega⟩
  have hfirst : ∃ ms, Outline.firstMember (depth + 1)
      ([','].intercalate texts ++ '}' :: rest) = (ms, .ok rest) ∧ List.Forall₂ P es ms := by
    by_cases hne : es = []
    · subst hne
      rw [List.forall₂_nil_left_iff.1 h]
      exact ⟨[], rfl, .nil⟩
    · have hlt : 3 * ([','].intercalate texts).length < depth := by omega
      obtain ⟨ms, hms, hPs⟩ := members_intercalate h hne hlt rest
      exact ⟨ms, firstMember_of_members hms, hPs⟩
  obtain ⟨ms, hms, hPs⟩ := hfirst
  refine ⟨.object ms none, rest, ?_, rfl, ms, rfl, hPs⟩
  rw [List.cons_append, List.cons_append, List.append_assoc, Outline.value,
    skipBlanks_cons (by decide)]
  simp [hms, Continuation.broken]

end Members

/-! ## Maps -/

theorem readTextKey_eq {source content rest : List Char}
    (h : StringLiteral.read source = .ok (content, rest)) :
    readTextKey source = .ok (String.ofList content) := by
  rw [readTextKey, h]
  rfl

/-- The decimal digits of an index before a quote are a key. -/
theorem readIndexKey_decimalDigits {n : Nat} (hn : n < indexLimit) (rest : List Char) :
    readIndexKey (decimalDigits n ++ '"' :: rest) = .ok n := by
  have hends : Numeral.EndsInteger ('"' :: rest) := Numeral.endsInteger_cons (by decide) rest
  have hhead : (decimalDigits n ++ '"' :: rest).head?.any (fun c => c = '-' || c.isDigit) := by
    obtain ⟨d, ds, hdigits, hd⟩ := exists_decimalDigits_eq_cons n
    simp [hdigits, hd]
  rw [readIndexKey, if_pos hhead, Numeral.read_decimalDigits hn hends]
  rfl

/-- The members of an object are read as the entries of a map, in their order. -/
theorem readMembers_object {κ α : Type} {readKey : KeyReader κ} {read : Reader α} {l : List (κ × α)}
    {ms : List (List Char × Outline)}
    (h : List.Forall₂ (fun e m => readKey m.1 = .ok e.1 ∧ read m.2 = .ok e.2) l ms) :
    readMembers readKey read (.object ms none) = .ok l := by
  have hall : ms.mapM (fun m => do let k ← readKey m.1; let a ← read m.2; return (k, a)) =
      Except.ok l := by
    apply List.mapM_eq_ok_iff.2
    apply h.flip.imp
    intro m e hm
    rw [hm.1, hm.2]
    rfl
  show (ms.mapM (fun m => do let k ← readKey m.1; let a ← read m.2; return (k, a)) >>= _) = _
  rw [hall]
  rfl

/-- The text of a map: an object with a member for each entry. -/
theorem outlines_map {κ α : Type} {readKey : KeyReader κ} {read : Reader α} {l : List (κ × α)}
    {text : κ × α → List Char}
    (h : ∀ e ∈ l, OutlinesMember (text e) fun m => readKey m.1 = .ok e.1 ∧ read m.2 = .ok e.2) :
    Outlines ('{' :: [','].intercalate (l.map text) ++ ['}']) fun o =>
      readMembers readKey read o = .ok l := by
  have htexts : List.Forall₂ (fun e text => OutlinesMember text fun m =>
      readKey m.1 = .ok e.1 ∧ read m.2 = .ok e.2) l (l.map text) := by
    rw [List.forall₂_map_right_iff, List.forall₂_same]
    exact h
  apply (outlines_object htexts).imp
  intro o ho
  obtain ⟨ms, rfl, hms⟩ := ho
  exact readMembers_object hms

/-! ## Whole texts -/

/-- A text that stands for a value, with nothing behind it, is read as this value. -/
theorem readText_of_outlines {α : Type} {read : Reader α} {text : String} {a : α}
    (h : Outlines text.toList fun o => read o = .ok a) : readText read text = .ok a := by
  obtain ⟨o, after, hvalue, hafter, ho⟩ :=
    h (Outline.depthFor text.toList) [] (Nat.le_add_right ..) nofun
  rw [List.append_nil] at hvalue
  rw [readText, Outline.ofText, hvalue]
  show (read o >>= _) = _
  rw [ho]
  show (if (skipBlanks after).isEmpty then _ else _) = _
  rw [hafter]
  rfl

end TargetEncoding.Json
