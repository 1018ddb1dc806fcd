import TargetEncoding.Proofs.JsonRecord
import TargetEncoding.Proofs.JsonSpelling

/-!
# Presentations of records

The texts that present a record, and those that fail to.  A record is presented by an object, with
its fields in any order, some of them left out and others between them, or by an array, from whose
end fields may be missing.  What is said here of a record is a list of slots: what its fields are
called, how their values are written, and whether they may be left out.

## Key results

- `Record.outlines_presents`: a presentation of a record is read as this record
- `Record.outlines_flawed`: a text with a field twice, or without a required one, is not read
- `Faithful.of_outlines`: whole texts
-/

namespace TargetEncoding.Json

/-! ## Records -/

/-- What a record says under one name. -/
structure Slot where
  name : String
  /-- The texts of the value. -/
  spelling : List Char → Prop
  /-- The value is the one that is taken if there is none. -/
  isDefault : Prop

namespace Slot

variable {α : Type}

/-- A slot that must be there. -/
def required (name : String) (S : Spelling α) (a : α) : Slot := ⟨name, S a, False⟩

/-- A slot that may be left out if its value is the default. -/
def withDefault (name : String) (S : Spelling α) (default a : α) : Slot :=
  ⟨name, S a, a = default⟩

/-- The members have the slot: one of them has its name and spells its value, or none has its name
and it may be left out. -/
def Given (s : Slot) (members : List (String × List Char)) : Prop :=
  (∃ text, members.filter (·.1 = s.name) = [(s.name, text)] ∧ s.spelling text) ∨
    members.filter (·.1 = s.name) = [] ∧ s.isDefault

/-- The items spell the values of the slots, in their order, up to a place from which on all
slots may be left out. -/
inductive Listed : List Slot → List (List Char) → Prop where
  | omitted {slots : List Slot} : (∀ s ∈ slots, s.isDefault) → Listed slots []
  | item {s : Slot} {slots : List Slot} {text : List Char} {items : List (List Char)} :
    s.spelling text → Listed slots items → Listed (s :: slots) (text :: items)

end Slot

/-- The text presents a record with the given slots, without blanks around it.  The members of an
object that are none of the slots are any JSON. -/
inductive Presentation (slots : List Slot) : List Char → Prop where
  | object {members : List (String × List Char)} {text : List Char} :
    ObjectText IsName members text → (∀ s ∈ slots, s.Given members) →
    (∀ m ∈ members, m.1 ∉ slots.map Slot.name → IsJson m.2) → Presentation slots text
  | array {items : List (List Char)} {text : List Char} :
    ArrayText items text → Slot.Listed slots items → Presentation slots text

/-- The text presents a record with the given slots. -/
def Presents (slots : List Slot) : List Char → Prop := Padded (Presentation slots)

/-- The text is an object with a `known` member twice or without a `required` one, or there is
something `bad` in the place of a known member or item. -/
inductive Flaw (known required : List String) (bad : String → List Char → Prop) :
    List Char → Prop where
  | repeated {members : List (String × List Char)} {text : List Char} {name : String} :
    ObjectText IsName members text → (∀ m ∈ members, IsJson m.2) → name ∈ known →
    2 ≤ (members.filter (·.1 = name)).length → Flaw known required bad text
  | missing {members : List (String × List Char)} {text : List Char} {name : String} :
    ObjectText IsName members text → (∀ m ∈ members, IsJson m.2) → name ∈ required →
    (∀ m ∈ members, m.1 ≠ name) → Flaw known required bad text
  | member {members : List (String × List Char)} {text : List Char} {m : String × List Char} :
    ObjectText IsName members text → (∀ m ∈ members, IsJson m.2) → m ∈ members →
    m.1 ∈ known → bad m.1 m.2 → Flaw known required bad text
  | item {items : List (List Char)} {text item : List Char} {name : String} :
    ArrayText items text → (∀ item ∈ items, IsJson item) → (name, item) ∈ known.zip items →
    bad name item → Flaw known required bad text

/-- The text has a flaw, perhaps with blanks around it. -/
def Flawed (known required : List String) (bad : String → List Char → Prop) : List Char → Prop :=
  Padded (Flaw known required bad)

/-- An array with an item that is `bad`. -/
def FlawedList (bad : List Char → Prop) : List Char → Prop :=
  Padded fun text => ∃ items, ArrayText items text ∧ (∀ item ∈ items, IsJson item) ∧
    ∃ item ∈ items, bad item

/-! ### Reading presentations -/

/-- The slot is that of the field, with the value `a`. -/
structure Slot.Describes (s : Slot) (f : Field) (a : f.Value) : Prop where
  name : s.name = f.name
  reads : ∀ text, s.spelling text → Outlines text fun o => f.read o = .ok a
  fallback : s.isDefault → f.fallback = some a

theorem Slot.required_describes {α : Type} {S : Spelling α} {read : Reader α} (h : S.ReadBy read)
    (name : String) (a : α) : (required name S a).Describes (.required name read) a :=
  ⟨rfl, h a, nofun⟩

theorem Slot.withDefault_describes {α : Type} {S : Spelling α} {read : Reader α}
    (h : S.ReadBy read) (name : String) (default a : α) :
    (withDefault name S default a).Describes (.withDefault name read default) a :=
  ⟨rfl, h a, fun hdefault => congrArg some hdefault.symm⟩

/-- The slots are those of the fields, with these values. -/
inductive Values.WrittenBy : (fs : List Field) → Values fs → List Slot → Prop where
  | nil : WrittenBy [] () []
  | cons {f : Field} {fs : List Field} {a : f.Value} {values : Values fs} {s : Slot}
    {slots : List Slot} : s.Describes f a → WrittenBy fs values slots →
    WrittenBy (f :: fs) (a, values) (s :: slots)

/-- The member has the name that stands in the text, and the outline of the value there. -/
def Outlined (m : String × List Char) (m' : String × Outline) : Prop :=
  m'.1 = m.1 ∧ OutlineOf m.2 m'.2

theorem forall₂_filter_outlined {members : List (String × List Char)}
    {members' : List (String × Outline)} (h : List.Forall₂ Outlined members members')
    (name : String) :
    List.Forall₂ Outlined (members.filter (·.1 = name)) (members'.filter (·.1 = name)) :=
  List.rel_filter (fun m m' (hm : Outlined m m') => by simp [hm.1]) h

/-- A slot that the members have in the text gives its value to the field. -/
theorem Slot.Describes.given {s : Slot} {f : Field} {a : f.Value} (h : s.Describes f a)
    {members : List (String × List Char)} (hgiven : s.Given members)
    {members' : List (String × Outline)} (hmembers : List.Forall₂ Outlined members members') :
    f.Given a members' := by
  have hfilter := forall₂_filter_outlined hmembers f.name
  rw [Slot.Given, h.name] at hgiven
  rcases hgiven with ⟨text, hone, htext⟩ | ⟨hnone, hdefault⟩
  · rw [hone] at hfilter
    obtain ⟨⟨name, o⟩, _, ⟨rfl, ho⟩, hnil, hone'⟩ := List.forall₂_cons_left_iff.1 hfilter
    rw [List.forall₂_nil_left_iff.1 hnil] at hone'
    exact .inl ⟨o, hone', ho _ (h.reads text htext)⟩
  · rw [hnone] at hfilter
    exact .inr ⟨List.forall₂_nil_left_iff.1 hfilter, h.fallback hdefault⟩

section WrittenBy

variable {fs : List Field} {values : Values fs} {slots : List Slot}

/-- A text that spells the value of a slot has an outline. -/
theorem Values.WrittenBy.outlines (h : WrittenBy fs values slots) {s : Slot} (hs : s ∈ slots)
    {text : List Char} (htext : s.spelling text) : Outlines text (OutlineOf text) := by
  induction h with
  | nil => cases hs
  | cons hdescribes _ ih =>
    rcases List.mem_cons.1 hs with rfl | hs
    · exact (hdescribes.reads text htext).outlineOf
    · exact ih hs

theorem Values.WrittenBy.given (h : WrittenBy fs values slots)
    {members : List (String × List Char)} (hgiven : ∀ s ∈ slots, s.Given members)
    {members' : List (String × Outline)} (hmembers : List.Forall₂ Outlined members members') :
    Values.Given fs values members' := by
  induction h with
  | nil => trivial
  | cons hdescribes _ ih =>
    obtain ⟨hs, hslots⟩ := List.forall_mem_cons.1 hgiven
    exact ⟨hdescribes.given hs hmembers, ih hslots⟩

/-- Every member of a presentation has an outline. -/
theorem Values.WrittenBy.outlines_members (h : WrittenBy fs values slots)
    {members : List (String × List Char)} (hgiven : ∀ s ∈ slots, s.Given members)
    (hothers : ∀ m ∈ members, m.1 ∉ slots.map Slot.name → IsJson m.2) :
    ∀ m ∈ members, Outlines m.2 (OutlineOf m.2) := by
  intro m hm
  -- a member of a slot is the only one of its name, so its value is what the slot spells
  by_cases hname : m.1 ∈ slots.map Slot.name
  · obtain ⟨s, hs, heq⟩ := List.mem_map.1 hname
    have hmem : m ∈ members.filter (·.1 = s.name) := List.mem_filter.2 ⟨hm, by simp [heq]⟩
    rcases hgiven s hs with ⟨text, hone, htext⟩ | ⟨hnone, _⟩
    · rw [hone, List.mem_singleton] at hmem
      rw [hmem]
      exact h.outlines hs htext
    · rw [hnone] at hmem
      cases hmem
  · exact (hothers m hm hname).outlines.outlineOf

theorem Slot.Listed.exists_of_mem {items : List (List Char)} (h : Listed slots items)
    {item : List Char} (hitem : item ∈ items) : ∃ s ∈ slots, s.spelling item := by
  induction h with
  | omitted _ => cases hitem
  | @item s slots _ _ htext _ ih =>
    rcases List.mem_cons.1 hitem with rfl | hitem
    · exact ⟨s, List.mem_cons_self, htext⟩
    · obtain ⟨s', hs', htext'⟩ := ih hitem
      exact ⟨s', List.mem_cons_of_mem s hs', htext'⟩

/-- Items that are listed are read as the values, with the defaults for those that are not. -/
theorem Values.WrittenBy.ofItems (h : WrittenBy fs values slots) {items : List (List Char)}
    (hitems : Slot.Listed slots items) {os : List Outline}
    (hos : List.Forall₂ OutlineOf items os) (expected : String) (place : Nat) :
    Values.ofItems expected none fs place os = .ok values := by
  -- along the slots, as the items may come to an end at any of them
  induction h generalizing items os place with
  | nil =>
    cases hitems with
    | omitted _ =>
      rw [List.forall₂_nil_left_iff.1 hos]
      rfl
  | @cons f fs a values s slots hdescribes _ ih =>
    cases hitems with
    | omitted hdefault =>
      obtain ⟨hs, hslots⟩ := List.forall_mem_cons.1 hdefault
      have hrest := ih (.omitted hslots) .nil (place + 1)
      rw [List.forall₂_nil_left_iff.1 hos, Values.ofItems]
      simp only [requireWhole, hdescribes.fallback hs, hrest, bind, Except.bind]
      rfl
    | item htext hlisted =>
      obtain ⟨o, os, ho, hos', rfl⟩ := List.forall₂_cons_left_iff.1 hos
      have ha := ho _ (hdescribes.reads _ htext)
      have hrest := ih hlisted hos' (place + 1)
      simp only [Values.ofItems, ha, hrest, bind, Except.bind]
      rfl

end WrittenBy

/-- The members, as they stand in the text, give some value to the field. -/
def Field.ReadFrom (f : Field) (members : List (String × List Char)) : Prop :=
  (∃ text o a, members.filter (·.1 = f.name) = [(f.name, text)] ∧ OutlineOf text o ∧
      f.read o = .ok a) ∨
    members.filter (·.1 = f.name) = [] ∧ f.fallback ≠ none

namespace Record

variable {α : Type} {r : Record α}

/-- A presentation of a record is read as this record. -/
theorem outlines_presents (hnodup : (r.fields.map Field.name).Nodup) {values : Values r.fields}
    {slots : List Slot} (h : Values.WrittenBy r.fields values slots) {text : List Char}
    (htext : Presents slots text) : Outlines text fun o => r.read o = .ok (r.make values) := by
  apply htext.outlines
  intro inner hinner
  cases hinner with
  | object hobject hgiven hothers =>
    apply (outlines_named hobject (h.outlines_members hgiven hothers)).imp
    intro o ho
    obtain ⟨ms, rfl, hms⟩ := ho
    obtain ⟨members', hmembers, hkeys⟩ := exists_named hms
    exact read_object hnodup hkeys (h.given hgiven hmembers)
  | @array items _ harray hlisted =>
    have houtlines : ∀ item ∈ items, Outlines item (OutlineOf item) := by
      intro item hitem
      obtain ⟨s, hs, htext⟩ := hlisted.exists_of_mem hitem
      exact h.outlines hs htext
    apply (outlines_arrayText harray houtlines).imp
    intro o ho
    obtain ⟨os, rfl, hos⟩ := ho
    rw [read, h.ofItems hlisted hos]
    rfl

/-- If an object is read as a record, then its members give a value to every field. -/
theorem readFrom_of_read_object (hnodup : (r.fields.map Field.name).Nodup)
    {members : List (String × List Char)} {ms : List (List Char × Outline)}
    (hms : List.Forall₂ (fun m m' => readTextKey m'.1 = .ok m.1 ∧ OutlineOf m.2 m'.2) members ms)
    {a : α} (h : r.read (.object ms none) = .ok a) {f : Field} (hf : f ∈ r.fields) :
    f.ReadFrom members := by
  obtain ⟨members', hmembers, hkeys⟩ := exists_named hms
  obtain ⟨values, hvalues⟩ := exists_given_of_read_object hnodup hkeys h
  obtain ⟨b, hb⟩ := hvalues.exists_of_mem hf
  have hfilter := forall₂_filter_outlined hmembers f.name
  rcases hb with ⟨o, hone, hread⟩ | ⟨hnone, hfallback⟩
  · rw [hone] at hfilter
    obtain ⟨⟨name, text⟩, _, ⟨heq, ho⟩, hnil, hone'⟩ := List.forall₂_cons_right_iff.1 hfilter
    rw [List.forall₂_nil_right_iff.1 hnil, show name = f.name from heq.symm] at hone'
    exact .inl ⟨text, o, b, hone', ho, hread⟩
  · rw [hnone] at hfilter
    refine .inr ⟨List.forall₂_nil_right_iff.1 hfilter, ?_⟩
    rw [hfallback]
    nofun

/-- An object whose members give no value to some field is not read. -/
theorem outlines_object_ne_ok (hnodup : (r.fields.map Field.name).Nodup)
    {members : List (String × List Char)} {text : List Char}
    (hobject : ObjectText IsName members text) (hjson : ∀ m ∈ members, IsJson m.2) {f : Field}
    (hf : f ∈ r.fields) (hnot : ¬ f.ReadFrom members) :
    Outlines text fun o => o ≠ .null ∧ ∀ a, r.read o ≠ .ok a := by
  apply (outlines_named hobject fun m hm => (hjson m hm).outlines.outlineOf).imp
  intro o ho
  obtain ⟨ms, rfl, hms⟩ := ho
  exact ⟨nofun, fun a ha => hnot (readFrom_of_read_object hnodup hms ha hf)⟩

/-- Items are not read as fields if one of them is bad at its place. -/
theorem ofItems_ne_ok {bad : String → List Char → Prop} {fs : List Field}
    (hbad : ∀ f ∈ fs, ∀ text, bad f.name text → Outlines text fun o => ∀ a, f.read o ≠ .ok a)
    {items : List (List Char)} {os : List Outline} (hos : List.Forall₂ OutlineOf items os)
    {name : String} {item : List Char} (hmem : (name, item) ∈ (fs.map Field.name).zip items)
    (hitem : bad name item) (expected : String) (broken : Option Fault) (place : Nat)
    (values : Values fs) : Values.ofItems expected broken fs place os ≠ .ok values := by
  intro h
  -- the items before the bad one are read, or reading fails there already
  induction fs generalizing items os place with
  | nil => cases hmem
  | cons f fs ih =>
    obtain ⟨hf, hfs⟩ := List.forall_mem_cons.1 hbad
    cases hos with
    | nil => cases hmem
    | @cons text o items os ho hos =>
      obtain ⟨a, ha, h⟩ := Except.bind_eq_ok_iff.1 h
      obtain ⟨rest, hrest, _⟩ := Except.bind_eq_ok_iff.1 h
      rw [List.map_cons, List.zip_cons_cons] at hmem
      rcases List.mem_cons.1 hmem with heq | hmem
      · obtain ⟨rfl, rfl⟩ := Prod.mk.inj heq
        exact ho _ (hf item hitem) a ha
      · exact ih hfs hos hmem (place + 1) rest hrest

/-- A text with a flaw is not read as a record, and is not the word for a missing one. -/
theorem outlines_flawed (hnodup : (r.fields.map Field.name).Nodup) {required : List String}
    (hrequired : ∀ name ∈ required, ∃ f ∈ r.fields, f.name = name ∧ f.fallback = none)
    {bad : String → List Char → Prop}
    (hbad : ∀ f ∈ r.fields, ∀ text, bad f.name text →
      Outlines text fun o => ∀ a, f.read o ≠ .ok a) {text : List Char}
    (htext : Flawed (r.fields.map Field.name) required bad text) :
    Outlines text fun o => o ≠ .null ∧ ∀ a, r.read o ≠ .ok a := by
  apply htext.outlines
  intro inner hinner
  cases hinner with
  | @repeated members _ name hobject hjson hname hrepeated =>
    obtain ⟨f, hf, rfl⟩ := List.mem_map.1 hname
    apply outlines_object_ne_ok hnodup hobject hjson hf
    intro h
    rcases h with ⟨text, _, _, hone, _⟩ | ⟨hnone, _⟩
    · rw [hone, List.length_singleton] at hrepeated
      omega
    · rw [hnone, List.length_nil] at hrepeated
      omega
  | @missing members _ name hobject hjson hname hmissing =>
    obtain ⟨f, hf, rfl, hfallback⟩ := hrequired name hname
    apply outlines_object_ne_ok hnodup hobject hjson hf
    intro h
    rcases h with ⟨text, _, _, hone, _⟩ | ⟨_, hsome⟩
    · have hmem : (f.name, text) ∈ members.filter (·.1 = f.name) := by
        rw [hone]
        exact List.mem_singleton_self _
      exact hmissing _ (List.mem_filter.1 hmem).1 rfl
    · exact hsome hfallback
  | @member members _ m hobject hjson hm hname hm' =>
    obtain ⟨f, hf, hfname⟩ := List.mem_map.1 hname
    apply outlines_object_ne_ok hnodup hobject hjson hf
    intro h
    have hmem : m ∈ members.filter (·.1 = f.name) := List.mem_filter.2 ⟨hm, by simp [hfname]⟩
    rcases h with ⟨text, o, b, hone, ho, hread⟩ | ⟨hnone, _⟩
    · rw [hone, List.mem_singleton] at hmem
      rw [hmem] at hm'
      exact ho _ (hbad f hf text hm') b hread
    · rw [hnone] at hmem
      cases hmem
  | @item items _ item name harray hjson hmem hitem =>
    apply (outlines_arrayText harray fun item hi => (hjson item hi).outlines.outlineOf).imp
    intro o ho
    obtain ⟨os, rfl, hos⟩ := ho
    refine ⟨nofun, fun a ha => ?_⟩
    obtain ⟨values, hvalues, _⟩ := Except.bind_eq_ok_iff.1 ha
    exact ofItems_ne_ok hbad hos hmem hitem _ _ _ values hvalues

end Record

/-- A list with an item that is not read is not read. -/
theorem FlawedList.outlines {α : Type} {read : Reader α} {bad : List Char → Prop}
    (hbad : ∀ text, bad text → Outlines text fun o => ∀ a, read o ≠ .ok a) {text : List Char}
    (h : FlawedList bad text) : Outlines text fun o => ∀ l, readList read o ≠ .ok l := by
  apply Padded.outlines h
  intro inner hinner
  obtain ⟨items, harray, hjson, item, hmem, hitem⟩ := hinner
  apply (outlines_arrayText harray fun item hi => (hjson item hi).outlines.outlineOf).imp
  intro o ho l hl
  obtain ⟨os, rfl, hos⟩ := ho
  obtain ⟨values, hvalues, _⟩ := Except.bind_eq_ok_iff.1 hl
  have hread : List.Forall₂ (fun item a => ∃ o, OutlineOf item o ∧ read o = .ok a) items values :=
    List.Forall₂.comp (fun _ o _ ho ha => ⟨o, ho, ha⟩) hos (List.mapM_eq_ok_iff.1 hvalues)
  obtain ⟨a, o, ho, ha⟩ := List.exists_forall₂_iff.1 ⟨values, hread⟩ item hmem
  exact ho _ (hbad item hitem) a ha

/-- What is neither read nor the word for a missing value is not read where it may be missing. -/
theorem readOptional_ne_ok {α : Type} {read : Reader α} {o : Outline} (hnull : o ≠ .null)
    (h : ∀ a, read o ≠ .ok a) (x : Option α) : readOptional read o ≠ .ok x := by
  intro hx
  rw [readOptional_of_ne_null hnull, map_eq_pure_bind] at hx
  obtain ⟨a, ha, _⟩ := Except.bind_eq_ok_iff.1 hx
  exact h a ha

/-! ## Whole texts -/

/-- The parser takes every text that presents a value for this value, and does not accept a flawed
text. -/
def Faithful {ε α : Type} (presents : Spelling α) (flawed : List Char → Prop)
    (parse : String → Except ε α) : Prop :=
  (∀ a text, presents a text.toList → parse text = .ok a) ∧
    ∀ text, flawed text.toList → ∀ a, parse text ≠ .ok a

theorem readText_ne_ok_of_outlines {α : Type} {read : Reader α} {text : String}
    (h : Outlines text.toList fun o => ∀ a, read o ≠ .ok a) (a : α) :
    readText read text ≠ .ok a := by
  obtain ⟨o, after, hvalue, _, ho⟩ :=
    h (Outline.depthFor text.toList) [] (Nat.le_add_right ..) nofun
  rw [List.append_nil] at hvalue
  intro hread
  rw [readText, Outline.ofText, hvalue] at hread
  obtain ⟨b, hb, _⟩ := Except.bind_eq_ok_iff.1 hread
  exact ho b hb

theorem Faithful.of_outlines {α : Type} {presents : Spelling α} {flawed : List Char → Prop}
    {read : Reader α} (hpresents : presents.ReadBy read)
    (hflawed : ∀ {text}, flawed text → Outlines text fun o => o ≠ .null ∧ ∀ a, read o ≠ .ok a) :
    Faithful presents flawed (readText read) := by
  refine ⟨fun a text h => readText_of_outlines (hpresents a text.toList h), fun text h => ?_⟩
  exact readText_ne_ok_of_outlines ((hflawed h).imp fun _ ho => ho.2)

end TargetEncoding.Json
