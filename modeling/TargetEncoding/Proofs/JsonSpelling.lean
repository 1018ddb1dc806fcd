import TargetEncoding.Proofs.JsonGrammar

/-!
# Spellings

In which texts the values of a type may be written, said without saying how they are read: a list is
written by an array of what writes its elements, a map by an object, and there may be blanks around
everything.  Every reader reads whatever text spells a value as this value.

## Key results

- `Spelling.boolean_readBy`, `Spelling.index_readBy`, `Spelling.string_readBy`: scalars
- `Spelling.ReadBy.optional`, `Spelling.ReadBy.list`, `Spelling.ReadBy.map`: values made of others
-/

namespace TargetEncoding.Json

/-! ## Blanks and names -/

/-- Blanks around a text. -/
inductive Padded (P : List Char → Prop) : List Char → Prop where
  | intro {before text after : List Char} : Blanks before → P text → Blanks after →
    Padded P (before ++ text ++ after)

/-- There need not be blanks. -/
theorem Padded.of_inner {P : List Char → Prop} {text : List Char} (h : P text) : Padded P text := by
  have hpadded := Padded.intro blanks_nil h blanks_nil
  rwa [List.nil_append, List.append_nil] at hpadded

theorem Padded.outlines {P : List Char → Prop} {Q : Outline → Prop} {text : List Char}
    (h : Padded P text) (hP : ∀ inner, P inner → Outlines inner Q) : Outlines text Q := by
  cases h with
  | intro hbefore hinner hafter => exact (hP _ hinner).padded hbefore hafter

/-- A name and the text of its literal, from behind the opening quote. -/
def IsName (name : String) (key : List Char) : Prop := LiteralText name.toList key

/-- A name is read as itself. -/
theorem IsName.read {name : String} {key : List Char} (h : IsName name key) (rest : List Char) :
    readTextKey (key ++ rest) = .ok name := by
  have hread := readTextKey_eq (LiteralText.read h rest)
  rwa [String.ofList_toList] at hread

/-- The text of an object with named members. -/
theorem outlines_named {P : List Char → Outline → Prop} {members : List (String × List Char)}
    {text : List Char} (h : ObjectText IsName members text)
    (hvalues : ∀ m ∈ members, Outlines m.2 (P m.2)) :
    Outlines text fun o => ∃ ms, o = .object ms none ∧
      List.Forall₂ (fun m m' => readTextKey m'.1 = .ok m.1 ∧ P m.2 m'.2) members ms :=
  outlines_objectText (K := fun name key => readTextKey key = .ok name)
    (fun _ _ hname rest => StringLiteral.pass_of_read (LiteralText.read hname rest))
    (fun _ _ hname rest => IsName.read hname rest) h hvalues

/-! ## How values are written -/

/-- How the values of a type may be written. -/
abbrev Spelling (α : Type) := α → List Char → Prop

namespace Spelling

variable {α : Type}

/-- A truth value is written by a word. -/
def boolean : Spelling Bool := fun b =>
  Padded (· = if b then ['t', 'r', 'u', 'e'] else ['f', 'a', 'l', 's', 'e'])

/-- An index is written by its decimal digits. -/
def index : Spelling Nat := fun n => Padded fun text => n < indexLimit ∧ text = decimalDigits n

/-- A string is written by a literal. -/
def string : Spelling String := fun s =>
  Padded fun text => ∃ literal, IsName s literal ∧ text = '"' :: literal

/-- A missing value is written by a word. -/
def optional (S : Spelling α) : Spelling (Option α)
  | none => Padded (· = ['n', 'u', 'l', 'l'])
  | some a => S a

/-- A list is written by an array. -/
def list (S : Spelling α) : Spelling (List α) := fun l =>
  Padded fun text => ∃ items, ArrayText items text ∧ List.Forall₂ S l items

/-- A map is written by an object; the last of several members with one key counts. -/
def map (S : Spelling α) : Spelling (Std.ExtTreeMap String α) := fun t =>
  Padded fun text => ∃ (entries : List (String × α)) (members : List (String × List Char)),
    ObjectText IsName members text ∧
    List.Forall₂ (fun e m => m.1 = e.1 ∧ S e.2 m.2) entries members ∧
    ∀ k, t[k]? = (entries.reverse.find? (·.1 = k)).map Prod.snd

/-! ### Reading what is written -/

/-- A text that spells a value is read as it. -/
def ReadBy (S : Spelling α) (read : Reader α) : Prop :=
  ∀ a text, S a text → Outlines text fun o => read o = .ok a

theorem boolean_readBy : boolean.ReadBy readBool := by
  intro b text h
  apply h.outlines
  intro inner hinner
  cases b with
  | true =>
    rw [hinner]
    exact outlines_true.imp fun o ho => by rw [ho]; rfl
  | false =>
    rw [hinner]
    exact outlines_false.imp fun o ho => by rw [ho]; rfl

theorem index_readBy : index.ReadBy readIndex := by
  intro n text h
  apply h.outlines
  intro inner hinner
  obtain ⟨hn, rfl⟩ := hinner
  exact outlines_decimalDigits hn

theorem string_readBy : string.ReadBy readString := by
  intro s text h
  apply h.outlines
  intro inner hinner
  obtain ⟨literal, hliteral, rfl⟩ := hinner
  have houtlines := outlines_literal fun rest => LiteralText.read hliteral rest
  rwa [String.ofList_toList] at houtlines

/-- The word for a missing value is no value. -/
theorem ReadBy.optional {S : Spelling α} {read : Reader α} (h : S.ReadBy read)
    (hnull : ∀ a, read .null ≠ .ok a) : (optional S).ReadBy (readOptional read) := by
  intro x text hx
  cases x with
  | none =>
    apply Padded.outlines hx
    intro inner hinner
    rw [hinner]
    exact outlines_null.imp fun o ho => by rw [ho]; rfl
  | some a =>
    apply (h a text hx).imp
    intro o ho
    have hne : o ≠ .null := by
      intro heq
      exact hnull a (heq ▸ ho)
    rw [readOptional_of_ne_null hne, ho]
    rfl

theorem ReadBy.list {S : Spelling α} {read : Reader α} (h : S.ReadBy read) :
    (list S).ReadBy (readList read) := by
  intro l text hl
  apply hl.outlines
  intro inner hinner
  obtain ⟨items, htext, hitems⟩ := hinner
  have houtlines : ∀ item ∈ items, Outlines item (OutlineOf item) := by
    intro item hitem
    obtain ⟨a, ha⟩ := List.exists_forall₂_iff.1 ⟨l, hitems.flip⟩ item hitem
    exact (h a item ha).outlineOf
  apply (outlines_arrayText htext houtlines).imp
  intro o ho
  obtain ⟨os, rfl, hos⟩ := ho
  have hread : List.Forall₂ (fun o a => read o = .ok a) os l :=
    (List.Forall₂.comp (fun a item o ha ho => ho _ (h a item ha)) hitems hos).flip
  show (os.mapM read >>= _) = _
  rw [List.mapM_eq_ok_iff.2 hread]
  rfl

theorem ReadBy.map {S : Spelling α} {read : Reader α} (h : S.ReadBy read) :
    (map S).ReadBy fun o => do
      let entries ← readMembers readTextKey read o
      return .ofList entries := by
  intro t text ht
  apply ht.outlines
  intro inner hinner
  obtain ⟨entries, members, htext, hmembers, hlast⟩ := hinner
  have houtlines : ∀ m ∈ members, Outlines m.2 (OutlineOf m.2) := by
    intro m hm
    obtain ⟨e, _, he⟩ := List.exists_forall₂_iff.1 ⟨entries, hmembers.flip⟩ m hm
    exact (h e.2 m.2 he).outlineOf
  apply (outlines_named htext houtlines).imp
  intro o ho
  obtain ⟨ms, rfl, hms⟩ := ho
  have hread : List.Forall₂ (fun e m => readTextKey m.1 = .ok e.1 ∧ read m.2 = .ok e.2)
      entries ms := by
    refine List.Forall₂.comp ?_ hmembers hms
    intro e m m' he hm'
    exact ⟨he.1 ▸ hm'.1, hm'.2 _ (h e.2 m.2 he.2)⟩
  -- the map is known key by key: of one key the last entry counts, in the text as in the map
  have hmap : Std.ExtTreeMap.ofList entries compare = t :=
    Std.ExtTreeMap.ext_getElem? fun k =>
      (Std.ExtTreeMap.getElem?_ofList_eq_find? entries k).trans (hlast k).symm
  show (readMembers readTextKey read (.object ms none) >>= _) = _
  rw [readMembers_object hread, ← hmap]
  rfl

end Spelling

end TargetEncoding.Json
