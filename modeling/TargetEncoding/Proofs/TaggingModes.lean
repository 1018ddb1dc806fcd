import TargetEncoding.Proofs.Alignment
import TargetEncoding.Proofs.TagTable

/-!
# Tagging with and without boundaries

Both ways of tagging keep the same spans, so they differ in nothing but the marks: without its mark
a boundary tag is the plain label.  The two numberings agree in the same way.  An entity at place
`i` has the number `i + 1` or, with boundaries, one of the four numbers `4 * i + 1` to `4 * i + 4`,
and what is unknown has number 0 in both.

## Key results

- `map_withoutBoundary_boundaryTags`: the labels are the boundary tags without their marks
- `idForTag_plain_eq`: the plain number follows from the number of any boundary tag
- `tagging_modes_agree`: labels and numbers agree, on every message
-/

namespace TargetEncoding

/-- The labels are the boundary tags without their marks. -/
theorem map_withoutBoundary_boundaryTags (tokens : List Token) (mentions : List Mention) :
    (boundaryTags tokens mentions).map withoutBoundary = entityLabels tokens mentions := by
  rw [boundaryTags_eq_map, entityLabels_eq_map, List.map_map]
  apply List.map_congr_left
  intro i _
  cases hown : owner? (keptSpans tokens mentions) i with
  | none => simp [hown, withoutBoundary_noEntity]
  | some s => simp [hown, Span.boundaryTag, withoutBoundary_tag]

section Numbers

variable {entities : List String} {plain bounded : TagTable}
  (hp : plain.Numbers (tagsOf false entities)) (hb : bounded.Numbers (tagsOf true entities))

include hp hb

/-- The plain number of an entity follows from the number of any of its boundary tags. -/
theorem idForTag_plain_eq (b : Boundary) (e : String) :
    plain.idForTag e = (bounded.idForTag (b.tag e) + 3) / 4 := by
  by_cases he : e ∈ entities
  · obtain ⟨i, hi⟩ := List.mem_iff_getElem?.1 he
    obtain ⟨j, hj⟩ := List.mem_iff_getElem?.1 b.mem_all
    have hj4 : j < 4 := (List.getElem?_eq_some_iff.1 hj).1
    rw [hp.idForTag_eq (getElem?_tagsOf_false entities i ▸ hi),
      hb.idForTag_eq (getElem?_tagsOf_true hi hj)]
    omega
  · -- an unknown entity has number 0 both times, also if it is called like no entity at all
    have hbound : bounded.idForTag (b.tag e) = noEntityId :=
      hb.idForTag_of_not_mem (mt tag_mem_tagsOf_iff.1 he)
    have hplain : plain.idForTag e = noEntityId := by
      by_cases hnone : e = noEntity
      · exact hp.idForTag_eq (hnone ▸ getElem?_tagsOf_zero false entities)
      · refine hp.idForTag_of_not_mem (mt mem_tagsOf_false_iff.1 ?_)
        exact not_or.2 ⟨hnone, he⟩
    rw [hbound, hplain]
    rfl

/-- The plain numbers of a message follow from its numbers with boundaries. -/
theorem tagIds_plain_eq {m : Message} (hstored : m.storedTags = none) :
    m.tagIds plain false = (m.tagIds bounded true).map fun id => (id + 3) / 4 := by
  have hnone : plain.idForTag noEntity = (bounded.idForTag noEntity + 3) / 4 := by
    rw [hp.idForTag_eq (getElem?_tagsOf_zero false entities),
      hb.idForTag_eq (getElem?_tagsOf_zero true entities)]
  simp only [Message.tagIds, Message.tokenTags, hstored, Option.getD_none, Bool.false_eq_true,
    if_false, if_true]
  rw [boundaryTags_eq_map, entityLabels_eq_map, List.map_map, List.map_map, List.map_map]
  apply List.map_congr_left
  intro i _
  cases hown : owner? (keptSpans m.tokens.text m.mentions) i with
  | none => simpa [hown] using hnone
  | some s => simpa [hown, Span.boundaryTag] using idForTag_plain_eq hp hb _ s.mention.entity

end Numbers

/-- Tagging with and without boundaries agrees: the labels are the tags without their marks, and
over one vocabulary the plain number of every token of a message is that of its boundary tag,
divided by four and rounded up; so a token counts as outside every entity in both or in neither. -/
theorem tagging_modes_agree :
    (∀ tokens mentions,
      (boundaryTags tokens mentions).map withoutBoundary = entityLabels tokens mentions) ∧
    ∀ names, noEntity ∉ names → ∃ plain bounded,
      TagTable.ofEntities (.ofList names) false = .ok plain ∧
      TagTable.ofEntities (.ofList names) true = .ok bounded ∧
      ∀ m : Message, m.storedTags = none →
        (m.tagIds plain false).length = (m.tagIds bounded true).length ∧
        ∀ i p b : Nat,
          (m.tagIds plain false)[i]? = some p → (m.tagIds bounded true)[i]? = some b →
          p = (b + 3) / 4 ∧ (p = 0 ↔ b = 0) := by
  refine ⟨map_withoutBoundary_boundaryTags, ?_⟩
  intro names hfree
  have hfree' : noEntity ∉ Std.ExtTreeSet.ofList names := by
    rwa [Std.ExtTreeSet.mem_ofList, List.contains_iff_mem]
  obtain ⟨plain, hplain, hp⟩ := TagTable.ofEntities_numbers false hfree'
  obtain ⟨bounded, hbounded, hb⟩ := TagTable.ofEntities_numbers true hfree'
  refine ⟨plain, bounded, hplain, hbounded, ?_⟩
  intro m hstored
  have hids := tagIds_plain_eq hp hb hstored
  refine ⟨by rw [hids, List.length_map], ?_⟩
  intro i p b hpi hbi
  rw [hids, List.getElem?_map, hbi, Option.map_some, Option.some.injEq] at hpi
  omega

/-- A known entity, and one that is called like a tag of the known one. -/
theorem tagging_modes_agree_unknown :
    let m : Message :=
      { Message.empty with
        tokens := ⟨[⟨"to", 0, 2⟩, ⟨"paris", 3, 8⟩, ⟨"today", 9, 14⟩], [], []⟩
        mentions := [⟨3, 8, "paris", "city", none, none⟩, ⟨9, 14, "today", "B-city", none, none⟩] }
    noEntity ∉ ["city"] ∧ m.storedTags = none ∧ ∃ plain bounded,
      TagTable.ofEntities (.ofList ["city"]) false = .ok plain ∧
      TagTable.ofEntities (.ofList ["city"]) true = .ok bounded ∧
      ∀ i p b : Nat,
        (m.tagIds plain false)[i]? = some p → (m.tagIds bounded true)[i]? = some b →
        p = (b + 3) / 4 ∧ (p = 0 ↔ b = 0) := by
  intro m
  have hfree : noEntity ∉ ["city"] := by decide
  obtain ⟨plain, bounded, hplain, hbounded, hagree⟩ := tagging_modes_agree.2 ["city"] hfree
  exact ⟨hfree, rfl, plain, bounded, hplain, hbounded, (hagree m rfl).2⟩

end TargetEncoding
