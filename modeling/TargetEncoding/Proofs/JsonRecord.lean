import TargetEncoding.Json.Record
import TargetEncoding.Proofs.JsonText

/-!
# Objects that give a record

The members of an object may stand in any order, with others between them.  A field is given by the
one member that has its name, or by its fall-back if there is none; a member with another name does
not act on it.

## Key results

- `Draft.exists_of_given`, `Draft.given_of_enterAll`: members fill the draft if they give every
  field, and only then
- `Record.read_object`: reading an object whose members give every field
- `Record.outlines`: the text of such an object
-/

namespace TargetEncoding.Json

/-- The members give the value `a` to the field: there is one with its name, which is read as `a`,
or there is none and the field falls back on `a`. -/
def Field.Given (f : Field) (a : f.Value) (members : List (String × Outline)) : Prop :=
  (∃ o, members.filter (·.1 = f.name) = [(f.name, o)] ∧ f.read o = .ok a) ∨
    members.filter (·.1 = f.name) = [] ∧ f.fallback = some a

/-- The members give its value to each field. -/
def Values.Given : (fs : List Field) → Values fs → List (String × Outline) → Prop
  | [], _, _ => True
  | f :: fs, (a, values), members => f.Given a members ∧ Given fs values members

theorem Field.given_iff_of_filter_eq {f : Field} {a : f.Value} {ms ms' : List (String × Outline)}
    (h : ms.filter (·.1 = f.name) = ms'.filter (·.1 = f.name)) : f.Given a ms ↔ f.Given a ms' := by
  rw [Given, Given, h]

/-- A member is of no account to the fields that have other names. -/
theorem Values.given_append_cons_iff {fs : List Field} {values : Values fs} {name : String}
    (hname : name ∉ fs.map Field.name) {before after : List (String × Outline)} {o : Outline} :
    Given fs values (before ++ (name, o) :: after) ↔ Given fs values (before ++ after) := by
  induction fs with
  | nil => exact Iff.rfl
  | cons f fs ih =>
    rw [List.map_cons, List.mem_cons, not_or] at hname
    have hfilter : (before ++ (name, o) :: after).filter (·.1 = f.name) =
        (before ++ after).filter (·.1 = f.name) := by
      rw [List.filter_append, List.filter_cons_of_neg (by simpa using hname.1),
        ← List.filter_append]
    exact and_congr (Field.given_iff_of_filter_eq hfilter) (ih hname.2)

/-- The members with another name are of no account to the fields. -/
theorem Values.given_filter_ne_iff {fs : List Field} {values : Values fs} {name : String}
    (hname : name ∉ fs.map Field.name) {members : List (String × Outline)} :
    Given fs values (members.filter (·.1 ≠ name)) ↔ Given fs values members := by
  induction fs with
  | nil => exact Iff.rfl
  | cons f fs ih =>
    rw [List.map_cons, List.mem_cons, not_or] at hname
    have hfilter : (members.filter (·.1 ≠ name)).filter (·.1 = f.name) =
        members.filter (·.1 = f.name) := by
      rw [List.filter_filter]
      apply List.filter_congr
      intro m _
      by_cases hm : m.1 = f.name
      · simp [hm, Ne.symm hname.1]
      · simp [hm]
    exact and_congr (Field.given_iff_of_filter_eq hfilter) (ih hname.2)

/-- Values that are given are given field by field. -/
theorem Values.Given.exists_of_mem {fs : List Field} {values : Values fs}
    {members : List (String × Outline)} (h : Given fs values members) {f : Field} (hf : f ∈ fs) :
    ∃ a, f.Given a members := by
  induction fs with
  | nil => cases hf
  | cons g fs ih =>
    obtain ⟨a, values⟩ := values
    rcases List.mem_cons.1 hf with rfl | hf
    · exact ⟨a, h.1⟩
    · exact ih h.2 hf

/-- The names of the fields, each with what is said of the outline of its value. -/
def Values.described : (fs : List Field) → Values fs → List (String × (Outline → Prop))
  | [], _ => []
  | f :: fs, (a, values) => (f.name, fun o => f.read o = .ok a) :: described fs values

/-- The member answers the description: it has the name, and its value is as is said. -/
def Answers (description : String × (Outline → Prop)) (m : String × Outline) : Prop :=
  m.1 = description.1 ∧ description.2 m.2

/-- Members that answer the descriptions of the fields have their names. -/
theorem Values.map_fst_of_described {fs : List Field} {values : Values fs}
    {members : List (String × Outline)}
    (h : List.Forall₂ Answers (described fs values) members) :
    members.map Prod.fst = fs.map Field.name := by
  induction fs generalizing members with
  | nil => rw [List.forall₂_nil_left_iff.1 h]; rfl
  | cons f fs ih =>
    obtain ⟨m, ms, hm, hms, rfl⟩ := List.forall₂_cons_left_iff.1 h
    rw [List.map_cons, List.map_cons, hm.1, ih hms]

/-- Members that answer the descriptions of the fields, in their order, give every field. -/
theorem Values.given_of_described {fs : List Field} (hnodup : (fs.map Field.name).Nodup)
    {values : Values fs} {members : List (String × Outline)}
    (h : List.Forall₂ Answers (described fs values) members) : Given fs values members := by
  induction fs generalizing members with
  | nil => trivial
  | cons f fs ih =>
    rw [List.map_cons, List.nodup_cons] at hnodup
    obtain ⟨a, values⟩ := values
    obtain ⟨⟨_, o⟩, ms, ⟨rfl, ho⟩, hms, rfl⟩ := List.forall₂_cons_left_iff.1 h
    refine ⟨.inl ⟨o, ?_, ho⟩, ?_⟩
    · -- the members of the other fields have other names
      rw [List.filter_cons_of_pos (by simp), List.filter_eq_nil_iff.2]
      intro m hm heq
      apply hnodup.1
      rw [← map_fst_of_described hms]
      exact List.mem_map.2 ⟨m, hm, by simpa using heq⟩
    · show Given fs values ([] ++ (f.name, o) :: ms)
      exact (given_append_cons_iff hnodup.1).2 (ih hnodup.2 hms)

namespace Draft

section Enter

variable {f : Field} {fs : List Field} {draft draft' : Draft fs} {ms ms' : List (String × Outline)}

/-- The draft with a further field in front. -/
def cons (value : Option f.Value) (draft : Draft fs) : Draft (f :: fs) := (value, draft)

theorem enter_cons_of_eq {o : Outline} {a : f.Value} (ha : f.read o = .ok a) :
    enter (f :: fs) (cons none draft) f.name o = .ok (cons (some a) draft) := by
  apply (if_pos rfl).trans
  show (f.read o >>= _) = _
  rw [ha]
  rfl

theorem enter_cons_of_ne {name : String} {o : Outline} (hne : name ≠ f.name)
    (h : enter fs draft name o = .ok draft') (value : Option f.Value) :
    enter (f :: fs) (cons value draft) name o = .ok (cons value draft') := by
  apply (if_neg hne).trans
  show (enter fs draft name o >>= _) = _
  rw [h]
  rfl

theorem complete_cons {value : Option f.Value} {a : f.Value} {values : Values fs}
    (ha : (value <|> f.fallback) = some a) (h : draft.complete fs = .ok values) :
    (cons value draft).complete (f :: fs) = .ok (a, values) := by
  unfold complete
  simp only [cons, ha, h]
  rfl

/-- Enters members one after the other. -/
def enterAll (fs : List Field) (draft : Draft fs) (members : List (String × Outline)) :
    Except ReadError (Draft fs) :=
  members.foldlM (fun draft m => enter fs draft m.1 m.2) draft

theorem enterAll_cons {m : String × Outline} :
    enterAll fs draft (m :: ms) = .ok draft' ↔
      ∃ d, enter fs draft m.1 m.2 = .ok d ∧ enterAll fs d ms = .ok draft' := by
  rw [enterAll, List.foldlM_cons, Except.bind_eq_ok_iff]
  rfl

theorem enterAll_append :
    enterAll fs draft (ms ++ ms') = .ok draft' ↔
      ∃ d, enterAll fs draft ms = .ok d ∧ enterAll fs d ms' = .ok draft' := by
  rw [enterAll, List.foldlM_append, Except.bind_eq_ok_iff]
  rfl

/-- Members without the name of a field are entered into the others. -/
theorem enterAll_cons_of_ne (hne : ∀ m ∈ ms, m.1 ≠ f.name)
    (h : enterAll fs draft ms = .ok draft') (value : Option f.Value) :
    enterAll (f :: fs) (cons value draft) ms = .ok (cons value draft') := by
  induction ms generalizing draft with
  | nil =>
    rw [← Except.ok.inj h]
    rfl
  | cons m ms ih =>
    obtain ⟨d, hd, hms⟩ := enterAll_cons.1 h
    have hd' := enter_cons_of_ne (hne m List.mem_cons_self) hd value
    have hms' := ih (fun m' hm' => hne m' (List.mem_cons_of_mem m hm')) hms
    exact enterAll_cons.2 ⟨_, hd', hms'⟩

/-- The member with the name of a field is entered into it. -/
theorem enterAll_cons_of_eq {before after : List (String × Outline)} {o : Outline} {a : f.Value}
    (hbefore : ∀ m ∈ before, m.1 ≠ f.name) (hafter : ∀ m ∈ after, m.1 ≠ f.name)
    (ha : f.read o = .ok a) (h : enterAll fs draft (before ++ after) = .ok draft') :
    enterAll (f :: fs) (cons none draft) (before ++ (f.name, o) :: after) =
      .ok (cons (some a) draft') := by
  obtain ⟨d, hd, hd'⟩ := enterAll_append.1 h
  have hbefore' := enterAll_cons_of_ne hbefore hd none
  have hafter' := enterAll_cons_of_ne hafter hd' (some a)
  exact enterAll_append.2 ⟨_, hbefore', enterAll_cons.2 ⟨_, enter_cons_of_eq ha, hafter'⟩⟩

/-- What is entered into the first field, and what into the others: of the members with its name
there can only be one, and it is read. -/
theorem enterAll_cons_eq_ok {value : Option f.Value} {draft' : Draft (f :: fs)}
    (h : enterAll (f :: fs) (cons value draft) ms = .ok draft') :
    ∃ value' rest, draft' = cons value' rest ∧
      enterAll fs draft (ms.filter (·.1 ≠ f.name)) = .ok rest ∧
      (ms.filter (·.1 = f.name) = [] ∧ value' = value ∨
        value = none ∧ ∃ o a, ms.filter (·.1 = f.name) = [(f.name, o)] ∧ f.read o = .ok a ∧
          value' = some a) := by
  induction ms generalizing value draft with
  | nil => exact ⟨value, draft, (Except.ok.inj h).symm, rfl, .inl ⟨rfl, rfl⟩⟩
  | cons m ms ih =>
    obtain ⟨⟨value₁, draft₁⟩, hm, hms⟩ := enterAll_cons.1 h
    obtain ⟨value', rest, rfl, hrest, hvalue⟩ := ih hms
    by_cases heq : m.1 = f.name
    · -- the field was empty, and now it is not: no further member can have its name
      rw [List.filter_cons_of_neg (by simpa using heq),
        List.filter_cons_of_pos (by simpa using heq)]
      replace hm := (if_pos heq).symm.trans hm
      cases value with
      | some _ => cases hm
      | none =>
        obtain ⟨a, ha, hpair⟩ := Except.bind_eq_ok_iff.1 hm
        obtain ⟨rfl, rfl⟩ := Prod.mk.inj (Except.ok.inj hpair)
        obtain ⟨hnone, rfl⟩ | ⟨hsome, _⟩ := hvalue
        · refine ⟨_, rest, rfl, hrest, .inr ⟨rfl, m.2, a, ?_, ha, rfl⟩⟩
          rw [hnone, ← heq]
        · cases hsome
    · rw [List.filter_cons_of_pos (by simpa using heq),
        List.filter_cons_of_neg (by simpa using heq)]
      replace hm := (if_neg heq).symm.trans hm
      obtain ⟨d, hd, hpair⟩ := Except.bind_eq_ok_iff.1 hm
      obtain ⟨rfl, rfl⟩ := Prod.mk.inj (Except.ok.inj hpair)
      exact ⟨value', rest, rfl, enterAll_cons.2 ⟨d, hd, hrest⟩, hvalue⟩

theorem complete_cons_eq_ok {value : Option f.Value} {values : Values (f :: fs)}
    (h : (cons value draft).complete (f :: fs) = .ok values) :
    ∃ a rest, values = (a, rest) ∧ (value <|> f.fallback) = some a ∧
      draft.complete fs = .ok rest := by
  unfold complete at h
  simp only [cons] at h
  cases ha : (value <|> f.fallback) with
  | none =>
    rw [ha] at h
    cases h
  | some a =>
    rw [ha] at h
    obtain ⟨rest, hrest, hpair⟩ := Except.bind_eq_ok_iff.1 h
    exact ⟨a, rest, (Except.ok.inj hpair).symm, rfl, hrest⟩

end Enter

/-- Members that give every field fill a draft from which nothing is missing. -/
theorem exists_of_given {fs : List Field} (hnodup : (fs.map Field.name).Nodup)
    {values : Values fs} {members : List (String × Outline)}
    (h : Values.Given fs values members) :
    ∃ draft, enterAll fs (blank fs) members = .ok draft ∧ draft.complete fs = .ok values := by
  -- the member of the first field is taken out before the other fields are filled
  induction fs generalizing members with
  | nil =>
    refine ⟨(), ?_, rfl⟩
    induction members with
    | nil => rfl
    | cons m members ih => exact ih trivial
  | cons f fs ih =>
    rw [List.map_cons, List.nodup_cons] at hnodup
    obtain ⟨a, values⟩ := values
    obtain ⟨hf, hfs⟩ := h
    rcases hf with ⟨o, hfilter, ha⟩ | ⟨hfilter, hfallback⟩
    · obtain ⟨before, after, rfl, hbefore, _, hafter⟩ := List.filter_eq_cons_iff.1 hfilter
      obtain ⟨draft, hdraft, hcomplete⟩ :=
        ih hnodup.2 ((Values.given_append_cons_iff hnodup.1).1 hfs)
      have hall := enterAll_cons_of_eq (by simpa using hbefore) (by simpa using hafter) ha hdraft
      exact ⟨_, hall, complete_cons rfl hcomplete⟩
    · obtain ⟨draft, hdraft, hcomplete⟩ := ih hnodup.2 hfs
      have hall := enterAll_cons_of_ne (f := f) (by simpa using hfilter) hdraft none
      exact ⟨_, hall, complete_cons (by rw [hfallback]; rfl) hcomplete⟩

/-- Members that fill a draft from which nothing is missing give every field. -/
theorem given_of_enterAll {fs : List Field} (hnodup : (fs.map Field.name).Nodup)
    {members : List (String × Outline)} {draft : Draft fs} {values : Values fs}
    (h : enterAll fs (blank fs) members = .ok draft) (hcomplete : draft.complete fs = .ok values) :
    Values.Given fs values members := by
  -- the members of the first field are left out before the other fields are filled
  induction fs generalizing members with
  | nil => trivial
  | cons f fs ih =>
    rw [List.map_cons, List.nodup_cons] at hnodup
    obtain ⟨value, rest, rfl, hrest, hvalue⟩ := enterAll_cons_eq_ok h
    obtain ⟨a, values, rfl, ha, hvalues⟩ := complete_cons_eq_ok hcomplete
    refine ⟨?_, (Values.given_filter_ne_iff hnodup.1).1 (ih hnodup.2 hrest hvalues)⟩
    obtain ⟨hnone, rfl⟩ | ⟨_, o, b, hone, hb, rfl⟩ := hvalue
    · exact .inr ⟨hnone, ha⟩
    · obtain rfl : b = a := Option.some.inj ha
      exact .inl ⟨o, hone, hb⟩

end Draft

namespace Record

variable {α : Type} {r : Record α} {values : Values r.fields}

/-- Members with readable keys are entered under their names. -/
theorem foldlM_enterMember {fs : List Field} {members : List (String × Outline)}
    {ms : List (List Char × Outline)}
    (hkeys : List.Forall₂ (fun m m' => readTextKey m'.1 = .ok m.1 ∧ m'.2 = m.2) members ms)
    (draft : Draft fs) :
    ms.foldlM (Draft.enterMember fs) draft = Draft.enterAll fs draft members := by
  induction hkeys generalizing draft with
  | nil => rfl
  | cons hm _ ih =>
    rw [Draft.enterAll, List.foldlM_cons, List.foldlM_cons, Draft.enterMember, hm.1, hm.2]
    exact congrArg _ (funext ih)

/-- An object is read as the record whose fields its members give. -/
theorem read_object (hnodup : (r.fields.map Field.name).Nodup)
    {members : List (String × Outline)} {ms : List (List Char × Outline)}
    (hkeys : List.Forall₂ (fun m m' => readTextKey m'.1 = .ok m.1 ∧ m'.2 = m.2) members ms)
    (h : Values.Given r.fields values members) :
    r.read (.object ms none) = .ok (r.make values) := by
  obtain ⟨draft, hdraft, hcomplete⟩ := Draft.exists_of_given hnodup h
  rw [read, foldlM_enterMember hkeys, hdraft]
  show (draft.complete r.fields >>= _) = _
  rw [hcomplete]
  rfl

/-- If an object is read, then its members give every field. -/
theorem exists_given_of_read_object (hnodup : (r.fields.map Field.name).Nodup)
    {members : List (String × Outline)} {ms : List (List Char × Outline)}
    (hkeys : List.Forall₂ (fun m m' => readTextKey m'.1 = .ok m.1 ∧ m'.2 = m.2) members ms) {a : α}
    (h : r.read (.object ms none) = .ok a) : ∃ values, Values.Given r.fields values members := by
  rw [read, foldlM_enterMember hkeys] at h
  obtain ⟨draft, hdraft, h⟩ := Except.bind_eq_ok_iff.1 h
  obtain ⟨_, _, h⟩ := Except.bind_eq_ok_iff.1 h
  obtain ⟨values, hvalues, _⟩ := Except.bind_eq_ok_iff.1 h
  exact ⟨values, Draft.given_of_enterAll hnodup hdraft hvalues⟩

/-- Members whose keys are read as names are members with these names. -/
theorem exists_named {ε : Type} {name : ε → String} {P : ε → Outline → Prop} {es : List ε}
    {ms : List (List Char × Outline)}
    (h : List.Forall₂ (fun e m => readTextKey m.1 = .ok (name e) ∧ P e m.2) es ms) :
    ∃ members : List (String × Outline),
      List.Forall₂ (fun e m => m.1 = name e ∧ P e m.2) es members ∧
      List.Forall₂ (fun m m' => readTextKey m'.1 = .ok m.1 ∧ m'.2 = m.2) members ms := by
  induction h with
  | nil => exact ⟨[], .nil, .nil⟩
  | @cons e m _ _ hm _ ih =>
    obtain ⟨members, hmembers, hkeys⟩ := ih
    exact ⟨(name e, m.2) :: members, .cons ⟨rfl, hm.2⟩ hmembers, .cons ⟨hm.1, rfl⟩ hkeys⟩

/-- The text of a record: an object whose members, as far as their texts say what they are, give
every field. -/
theorem outlines (hnodup : (r.fields.map Field.name).Nodup)
    {es : List (String × (Outline → Prop))} {texts : List (List Char)}
    (htexts : List.Forall₂
      (fun e text => OutlinesMember text fun m => readTextKey m.1 = .ok e.1 ∧ e.2 m.2) es texts)
    (h : ∀ members, List.Forall₂ Answers es members → Values.Given r.fields values members) :
    Outlines ('{' :: [','].intercalate texts ++ ['}']) fun o => r.read o = .ok (r.make values) := by
  apply (outlines_object htexts).imp
  intro o ho
  obtain ⟨ms, rfl, hms⟩ := ho
  obtain ⟨members, hmembers, hkeys⟩ := exists_named hms
  exact read_object hnodup hkeys (h members hmembers)

end Record

end TargetEncoding.Json
