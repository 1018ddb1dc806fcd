import TargetEncoding.Proofs.JsonScalars

/-!
# The grammar of JSON

Which texts are JSON, whatever they stand for: words, numbers and strings, and arrays and objects
of such texts, with blanks between any two parts.  A text that is JSON has an outline wherever it
stands, and reading goes on exactly behind it.

## Key results

- `Outlines.outlineOf`: all that is known of the outlines of a text is true of one outline
- `outlines_arrayText`, `outlines_objectText`: arrays and objects, from the texts of their parts
- `IsJson.outlines`: a JSON text has an outline, and nothing behind it is consumed
-/

namespace TargetEncoding.Json

/-! ## Texts -/

/-- The text of an array, from those of its items. -/
inductive ArrayText : List (List Char) → List Char → Prop where
  | empty {gap : List Char} : Blanks gap → ArrayText [] ('[' :: gap ++ [']'])
  | items {items : List (List Char)} : items ≠ [] →
    ArrayText items ('[' :: [','].intercalate items ++ [']'])

section

variable {κ : Type} (isKey : κ → List Char → Prop)

/-- The text of a member, from that of its value; `isKey` says how keys are written, from behind
their opening quote to their closing one. -/
inductive MemberText : κ × List Char → List Char → Prop where
  | intro {k : κ} {before key gap value : List Char} : Blanks before → isKey k key → Blanks gap →
    MemberText (k, value) (before ++ '"' :: key ++ gap ++ ':' :: value)

/-- The text of an object, from the keys and the texts of the values of its members. -/
inductive ObjectText : List (κ × List Char) → List Char → Prop where
  | empty {gap : List Char} : Blanks gap → ObjectText [] ('{' :: gap ++ ['}'])
  | members {members : List (κ × List Char)} {texts : List (List Char)} : members ≠ [] →
    List.Forall₂ (MemberText isKey) members texts →
    ObjectText members ('{' :: [','].intercalate texts ++ ['}'])

end

/-- The text is JSON.  The keys of objects are strings of which nothing more is known. -/
inductive IsJson : List Char → Prop where
  | null : IsJson ['n', 'u', 'l', 'l']
  | true : IsJson ['t', 'r', 'u', 'e']
  | false : IsJson ['f', 'a', 'l', 's', 'e']
  | number {text : List Char} : NumeralText text → IsJson text
  | string {text : List Char} : StringText text → IsJson ('"' :: text)
  | array {items : List (List Char)} {text : List Char} : ArrayText items text →
    (∀ item ∈ items, IsJson item) → IsJson text
  | object {members : List (Unit × List Char)} {text : List Char} :
    ObjectText (fun _ => StringText) members text → (∀ m ∈ members, IsJson m.2) → IsJson text
  | padded {before text after : List Char} : Blanks before → IsJson text → Blanks after →
    IsJson (before ++ text ++ after)

/-! ## Blanks around a value -/

theorem Outline.value_skipBlanks (depth : Nat) (cs : List Char) :
    Outline.value depth (skipBlanks cs) = Outline.value depth cs := by
  cases depth with
  | zero => rfl
  | succ depth => simp only [Outline.value, skipBlanks_skipBlanks]

/-- A blank does not continue a number. -/
theorem Numeral.endsInteger_append {after rest : List Char} (hafter : Blanks after)
    (hends : EndsInteger rest) : EndsInteger (after ++ rest) := by
  cases after with
  | nil => exact hends
  | cons c cs =>
    apply endsInteger_cons
    have hmem := hafter c List.mem_cons_self
    simp only [List.mem_cons, List.not_mem_nil, or_false] at hmem
    rcases hmem with rfl | rfl | rfl | rfl <;> decide

theorem Outlines.padded {before text after : List Char} {P : Outline → Prop}
    (hbefore : Blanks before) (h : Outlines text P) (hafter : Blanks after) :
    Outlines (before ++ text ++ after) P := by
  intro depth rest hdepth hends
  simp only [List.length_append] at hdepth
  obtain ⟨o, after', hvalue, hskip, ho⟩ :=
    h depth (after ++ rest) (by omega) (Numeral.endsInteger_append hafter hends)
  refine ⟨o, after', ?_, hskip.trans (skipBlanks_append hafter rest), ho⟩
  rw [List.append_assoc, List.append_assoc, ← Outline.value_skipBlanks, skipBlanks_append hbefore,
    Outline.value_skipBlanks, hvalue]

/-! ## All that is known of an outline -/

/-- The outline has every property that the outlines of the text have. -/
def OutlineOf (text : List Char) (o : Outline) : Prop := ∀ P, Outlines text P → P o

/-- All that is known of the outlines of a text is true of one outline. -/
theorem Outlines.outlineOf {text : List Char} {P : Outline → Prop} (h : Outlines text P) :
    Outlines text (OutlineOf text) := by
  intro depth rest hdepth hends
  obtain ⟨o, after, hvalue, hafter, _⟩ := h depth rest hdepth hends
  refine ⟨o, after, hvalue, hafter, ?_⟩
  intro Q hQ
  obtain ⟨o', _, hvalue', _, hQo⟩ := hQ depth rest hdepth hends
  rw [hvalue] at hvalue'
  obtain ⟨rfl, _⟩ := Prod.mk.inj hvalue'
  exact hQo

/-! ## Scalars -/

theorem outlines_null : Outlines ['n', 'u', 'l', 'l'] (· = .null) := by
  intro depth rest hdepth _
  cases depth with
  | zero => simp at hdepth
  | succ depth => exact ⟨.null, rest, rfl, rfl, rfl⟩

theorem outlines_true : Outlines ['t', 'r', 'u', 'e'] (· = .boolean true) := by
  intro depth rest hdepth _
  cases depth with
  | zero => simp at hdepth
  | succ depth => exact ⟨.boolean true, rest, rfl, rfl, rfl⟩

theorem outlines_false : Outlines ['f', 'a', 'l', 's', 'e'] (· = .boolean false) := by
  intro depth rest hdepth _
  cases depth with
  | zero => simp at hdepth
  | succ depth => exact ⟨.boolean false, rest, rfl, rfl, rfl⟩

theorem outlines_numeralText {text : List Char} (h : NumeralText text) :
    Outlines text fun _ => True := by
  intro depth rest hdepth hends
  have hpass := h.pass hends
  obtain ⟨c, cs, rfl, hc⟩ := h.eq_cons
  cases depth with
  | zero => simp at hdepth
  | succ depth =>
    refine ⟨.number (c :: cs ++ rest), rest, ?_, rfl, trivial⟩
    rw [← hpass]
    rcases hc with rfl | hc
    · rfl
    · exact Outline.value_of_isDigit hc depth (cs ++ rest)

theorem outlines_stringText {text : List Char} (h : StringText text) :
    Outlines ('"' :: text) fun _ => True := by
  intro depth rest hdepth _
  cases depth with
  | zero => simp at hdepth
  | succ depth =>
    refine ⟨.string (text ++ rest), rest, ?_, rfl, trivial⟩
    rw [← h.pass rest]
    rfl

/-! ## Arrays -/

section Items

variable {P : List Char → Outline → Prop} {text : List Char}

/-- An item before a closing bracket is the last one. -/
theorem items_bracket (h : Outlines text (P text)) {depth : Nat} (hdepth : 3 * text.length ≤ depth)
    (rest : List Char) :
    ∃ o, Outline.items (depth + 1) (text ++ ']' :: rest) = ([o], .ok rest) ∧ P text o := by
  have hends : Numeral.EndsInteger (']' :: rest) := Numeral.endsInteger_cons (by decide) rest
  obtain ⟨o, after, hvalue, hafter, ho⟩ := h depth _ hdepth hends
  rw [skipBlanks_cons (by decide)] at hafter
  refine ⟨o, ?_, ho⟩
  rw [Outline.items, hvalue]
  simp [hafter]

/-- An item before a comma is followed by the items behind it. -/
theorem items_comma (h : Outlines text (P text)) {depth : Nat} (hdepth : 3 * text.length ≤ depth)
    {cs rest : List Char} {os : List Outline} (hos : Outline.items depth cs = (os, .ok rest)) :
    ∃ o, Outline.items (depth + 1) (text ++ ',' :: cs) = (o :: os, .ok rest) ∧ P text o := by
  have hends : Numeral.EndsInteger (',' :: cs) := Numeral.endsInteger_cons (by decide) cs
  obtain ⟨o, after, hvalue, hafter, ho⟩ := h depth _ hdepth hends
  rw [skipBlanks_cons (by decide)] at hafter
  refine ⟨o, ?_, ho⟩
  rw [Outline.items, hvalue]
  simp [hafter, hos]

/-- If there are items, then the bracket before them is not closed at once. -/
theorem firstItem_of_items {depth : Nat} {cs rest : List Char} {os : List Outline}
    (h : Outline.items depth cs = (os, .ok rest)) :
    Outline.firstItem (depth + 1) cs = (os, .ok rest) := by
  cases depth with
  | zero => cases h
  | succ depth =>
    have hblank : Outline.items (depth + 1) (skipBlanks cs) = (os, .ok rest) := by
      rw [Outline.items, Outline.value_skipBlanks, ← Outline.items, h]
    rw [Outline.firstItem]
    cases hcs : skipBlanks cs with
    | nil =>
      rw [hcs, Outline.items] at hblank
      cases depth <;> cases hblank
    | cons c cs' =>
      rw [hcs] at hblank
      by_cases hc : c = ']'
      · -- no value begins with a bracket
        subst hc
        rw [Outline.items] at hblank
        cases depth <;> cases hblank
      · simpa [hc] using hblank

/-- Items with commas between them are read one by one. -/
theorem items_intercalate {texts : List (List Char)}
    (h : ∀ text ∈ texts, Outlines text (P text)) (hne : texts ≠ []) {depth : Nat}
    (hdepth : 3 * ([','].intercalate texts).length < depth) (rest : List Char) :
    ∃ os, Outline.items depth ([','].intercalate texts ++ ']' :: rest) = (os, .ok rest) ∧
      List.Forall₂ P texts os := by
  obtain ⟨depth, rfl⟩ : ∃ d, depth = d + 1 := ⟨depth - 1, by omega⟩
  induction texts generalizing depth with
  | nil => exact absurd rfl hne
  | cons text texts ih =>
    obtain ⟨htext, htexts⟩ := List.forall_mem_cons.1 h
    cases texts with
    | nil =>
      rw [List.intercalate_singleton] at hdepth ⊢
      obtain ⟨o, ho, hP⟩ := items_bracket htext (show 3 * text.length ≤ depth by omega) rest
      exact ⟨[o], ho, .cons hP .nil⟩
    | cons text' texts =>
      rw [List.intercalate_cons_cons] at hdepth ⊢
      simp only [List.length_append, List.length_singleton] at hdepth
      obtain ⟨depth, rfl⟩ : ∃ d, depth = d + 1 := ⟨depth - 1, by omega⟩
      obtain ⟨os, hos, hPs⟩ := ih htexts (List.cons_ne_nil text' texts) depth (by omega)
      obtain ⟨o, ho, hP⟩ := items_comma htext (by omega) hos
      refine ⟨o :: os, ?_, .cons hP hPs⟩
      simpa using ho

/-- The text of an array, from those of its items. -/
theorem outlines_arrayText {items : List (List Char)} (h : ArrayText items text)
    (hitems : ∀ item ∈ items, Outlines item (P item)) :
    Outlines text fun o => ∃ os, o = .array os none ∧ List.Forall₂ P items os := by
  intro depth rest hdepth _
  cases h with
  | @empty gap hgap =>
    rw [List.cons_append, List.length_cons, List.length_append, List.length_singleton] at hdepth
    obtain ⟨depth, rfl⟩ : ∃ d, depth = d + 2 := ⟨depth - 2, by omega⟩
    refine ⟨.array [] none, rest, ?_, rfl, [], rfl, .nil⟩
    rw [List.cons_append, List.cons_append, List.append_assoc, Outline.value,
      skipBlanks_cons (by decide)]
    simp [Outline.firstItem, skipBlanks_append hgap, skipBlanks_cons (c := ']') (by decide),
      Continuation.broken]
  | items hne =>
    rw [List.cons_append, List.length_cons, List.length_append, List.length_singleton] at hdepth
    obtain ⟨depth, rfl⟩ : ∃ d, depth = d + 2 := ⟨depth - 2, by omega⟩
    have hlt : 3 * ([','].intercalate items).length < depth := by omega
    obtain ⟨os, hos, hPs⟩ := items_intercalate hitems hne hlt rest
    refine ⟨.array os none, rest, ?_, rfl, os, rfl, hPs⟩
    rw [List.cons_append, List.cons_append, List.append_assoc, Outline.value,
      skipBlanks_cons (by decide)]
    simp [firstItem_of_items hos, Continuation.broken]

end Items

/-! ## Objects -/

/-- The text of an object, from the keys and the texts of the values of its members. -/
theorem outlines_objectText {κ : Type} {isKey K : κ → List Char → Prop}
    {P : List Char → Outline → Prop} {members : List (κ × List Char)} {text : List Char}
    (hpass : ∀ k key, isKey k key → ∀ rest, StringLiteral.pass (key ++ rest) = .ok rest)
    (hkey : ∀ k key, isKey k key → ∀ rest, K k (key ++ rest))
    (h : ObjectText isKey members text) (hvalues : ∀ m ∈ members, Outlines m.2 (P m.2)) :
    Outlines text fun o => ∃ ms, o = .object ms none ∧
      List.Forall₂ (fun m m' => K m.1 m'.1 ∧ P m.2 m'.2) members ms := by
  cases h with
  | @empty gap hgap =>
    intro depth rest hdepth _
    rw [List.cons_append, List.length_cons, List.length_append, List.length_singleton] at hdepth
    obtain ⟨depth, rfl⟩ : ∃ d, depth = d + 2 := ⟨depth - 2, by omega⟩
    refine ⟨.object [] none, rest, ?_, rfl, [], rfl, .nil⟩
    rw [List.cons_append, List.cons_append, List.append_assoc, Outline.value,
      skipBlanks_cons (by decide)]
    simp [Outline.firstMember, skipBlanks_append hgap, skipBlanks_cons (c := '}') (by decide),
      Continuation.broken]
  | members hne htexts =>
    clear hne
    apply outlines_object (P := fun (m : κ × List Char) m' => K m.1 m'.1 ∧ P m.2 m'.2)
    induction htexts with
    | nil => exact .nil
    | @cons m text members texts hm _ ih =>
      obtain ⟨hvalue, hrest⟩ := List.forall_mem_cons.1 hvalues
      cases hm with
      | intro hbefore hk hgap =>
        exact .cons (outlinesMember_blanks hbefore hgap (hpass _ _ hk) (hkey _ _ hk) hvalue)
          (ih hrest)

/-- A JSON text has an outline, and nothing behind it is consumed. -/
theorem IsJson.outlines {text : List Char} (h : IsJson text) :
    Outlines text fun _ => True := by
  induction h with
  | null => exact outlines_null.imp fun _ _ => trivial
  | true => exact outlines_true.imp fun _ _ => trivial
  | false => exact outlines_false.imp fun _ _ => trivial
  | number h => exact outlines_numeralText h
  | string h => exact outlines_stringText h
  | array h _ ih =>
    exact (outlines_arrayText (P := fun _ _ => True) h ih).imp fun _ _ => trivial
  | object h _ ih =>
    have houtlines := outlines_objectText (K := fun _ _ => True) (P := fun _ _ => True)
      (fun _ _ hkey => hkey.pass) (fun _ _ _ _ => trivial) h ih
    exact houtlines.imp fun _ _ => trivial
  | padded hbefore _ hafter ih => exact ih.padded hbefore hafter

end TargetEncoding.Json
