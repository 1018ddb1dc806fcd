import TargetEncoding.Proofs.BoundaryTag
import TargetEncoding.Proofs.ForStd
import TargetEncoding.TagTable

/-!
# The layout of tag tables

The tags of a vocabulary stand in one list, `tagsOf`, in which each tag has its number as its place.
No tag stands there twice, whatever the entities are called, so inserting them one after the other
loses none of them and the table is this list read in both directions (`TagTable.Numbers`).

## Key results

- `nodup_tagsOf`: the tags of different entities never coincide
- `TagTable.numbers_ofNumbered`: a table numbers the tags by their places
- `TagTable.Numbers.tagForId_idForTag`, `TagTable.Numbers.idForTag_tagForId`: both round trips
- `TagTable.ofEntities_layout`: when there is a table, and how it is laid out
-/

namespace TargetEncoding

/-! ## The list of tags -/

/-- The tags of one entity, in the order of their numbers. -/
def tagsOfEntity (boundaries : Bool) (entity : String) : List String :=
  if boundaries then Boundary.all.map (·.tag entity) else [entity]

/-- How many tags an entity has. -/
def tagsPerEntity (boundaries : Bool) : Nat :=
  if boundaries then 4 else 1

/-- The tags of a vocabulary, each at the place that is its number. -/
def tagsOf (boundaries : Bool) (entities : List String) : List String :=
  noEntity :: entities.flatMap (tagsOfEntity boundaries)

theorem length_tagsOfEntity (boundaries : Bool) (entity : String) :
    (tagsOfEntity boundaries entity).length = tagsPerEntity boundaries := by
  cases boundaries <;> rfl

theorem length_tagsOf (boundaries : Bool) (entities : List String) :
    (tagsOf boundaries entities).length = tagsPerEntity boundaries * entities.length + 1 := by
  have hlen : ((entities.flatMap (tagsOfEntity boundaries))).length =
      tagsPerEntity boundaries * entities.length := by
    induction entities with
    | nil => rfl
    | cons e es ih =>
      rw [List.flatMap_cons, List.length_append, ih, length_tagsOfEntity, List.length_cons,
        Nat.mul_succ, Nat.add_comm]
  rw [tagsOf, List.length_cons, hlen]

/-- The tags of the entity at place `i` are numbered upwards from the first of its numbers. -/
theorem numberedTagsAt_eq_zipIdx (boundaries : Bool) (entity : String) (i : Nat) :
    numberedTagsAt boundaries entity i =
      (tagsOfEntity boundaries entity).zipIdx (i * tagsPerEntity boundaries + 1) := by
  cases boundaries with
  | false => simp [numberedTagsAt, tagsOfEntity, tagsPerEntity]
  | true =>
    simp [numberedTagsAt, tagsOfEntity, tagsPerEntity, Boundary.all, Nat.add_assoc]

/-- The tags of all entities are numbered by their places in the list, from 1 on. -/
theorem numberedTags_eq_zipIdx (boundaries : Bool) (entities : List String) :
    numberedTags boundaries entities =
      (entities.flatMap (tagsOfEntity boundaries)).zipIdx 1 := by
  have hnumbered := List.flatMap_zipIdx_of_length entities
    (fun e _ => length_tagsOfEntity boundaries e) 0 1
  simp only [Nat.zero_mul, Nat.zero_add] at hnumbered
  rw [← hnumbered]
  simp only [numberedTags, numberedTagsAt_eq_zipIdx]

/-! ## No tag stands in the list twice -/

theorem mem_tagsOfEntity_true {tag entity : String} :
    tag ∈ tagsOfEntity true entity ↔ ∃ b : Boundary, tag = b.tag entity := by
  simp only [tagsOfEntity, if_true, List.mem_map]
  constructor
  · intro hmem
    obtain ⟨b, _, htag⟩ := hmem
    exact ⟨b, htag.symm⟩
  · intro hmem
    obtain ⟨b, htag⟩ := hmem
    exact ⟨b, b.mem_all, htag.symm⟩

theorem mem_tagsOfEntity_false {tag entity : String} :
    tag ∈ tagsOfEntity false entity ↔ tag = entity := by
  simp [tagsOfEntity]

/-- A tag belongs to one entity only. -/
theorem eq_of_mem_tagsOfEntity {boundaries : Bool} {tag e f : String}
    (he : tag ∈ tagsOfEntity boundaries e) (hf : tag ∈ tagsOfEntity boundaries f) : e = f := by
  cases boundaries with
  | false => rw [← mem_tagsOfEntity_false.1 he, ← mem_tagsOfEntity_false.1 hf]
  | true =>
    obtain ⟨b, rfl⟩ := mem_tagsOfEntity_true.1 he
    obtain ⟨c, htag⟩ := mem_tagsOfEntity_true.1 hf
    exact (Boundary.tag_inj.1 htag).2

/-- The tags of one entity are different. -/
theorem nodup_tagsOfEntity (boundaries : Bool) (entity : String) :
    (tagsOfEntity boundaries entity).Nodup := by
  cases boundaries with
  | false => simp [tagsOfEntity]
  | true =>
    rw [tagsOfEntity, if_pos rfl, List.Nodup, List.pairwise_map]
    have hall : Boundary.all.Nodup := by decide
    exact hall.imp fun hne htag => hne (Boundary.tag_inj.1 htag).1

/-- The label of tokens outside every entity is a tag of no entity but one of that name, and under
the boundary scheme not even of that one. -/
theorem noEntity_not_mem_tagsOfEntity {boundaries : Bool} {entity : String}
    (h : entity ≠ noEntity) : noEntity ∉ tagsOfEntity boundaries entity := by
  intro hmem
  cases boundaries with
  | false => exact h (mem_tagsOfEntity_false.1 hmem).symm
  | true =>
    obtain ⟨b, htag⟩ := mem_tagsOfEntity_true.1 hmem
    exact b.tag_ne_noEntity entity htag.symm

/-- The tags of a vocabulary are all different. -/
theorem nodup_tagsOf {boundaries : Bool} {entities : List String} (hnodup : entities.Nodup)
    (hfree : noEntity ∉ entities) : (tagsOf boundaries entities).Nodup := by
  refine List.nodup_cons.2 ⟨?_, ?_⟩
  · -- no entity has the label for none among its tags
    rw [List.mem_flatMap]
    intro hmem
    obtain ⟨e, he, htag⟩ := hmem
    exact noEntity_not_mem_tagsOfEntity (fun heq => hfree (heq ▸ he)) htag
  · rw [List.Nodup, List.pairwise_flatMap]
    refine ⟨fun e _ => nodup_tagsOfEntity boundaries e, hnodup.imp ?_⟩
    -- a tag that two entities had would make them one
    intro e f hne tag he tag' hf heq
    exact hne (eq_of_mem_tagsOfEntity he (heq ▸ hf))

/-- A tag under the boundary scheme is known if its entity is. -/
theorem tag_mem_tagsOf_iff {entities : List String} {b : Boundary} {e : String} :
    b.tag e ∈ tagsOf true entities ↔ e ∈ entities := by
  rw [tagsOf, List.mem_cons, List.mem_flatMap]
  constructor
  · intro hknown
    obtain hnone | ⟨f, hf, hmem⟩ := hknown
    · exact absurd hnone (b.tag_ne_noEntity e)
    · obtain ⟨c, htag⟩ := mem_tagsOfEntity_true.1 hmem
      exact (Boundary.tag_inj.1 htag).2 ▸ hf
  · intro he
    exact .inr ⟨e, he, mem_tagsOfEntity_true.2 ⟨b, rfl⟩⟩

/-- Without boundaries the known tags are the entities and the label for none of them. -/
theorem mem_tagsOf_false_iff {entities : List String} {e : String} :
    e ∈ tagsOf false entities ↔ e = noEntity ∨ e ∈ entities := by
  simp [tagsOf, tagsOfEntity]

/-! ## What stands where -/

@[simp] theorem getElem?_tagsOf_zero (boundaries : Bool) (entities : List String) :
    (tagsOf boundaries entities)[0]? = some noEntity := rfl

/-- Tag `j` of the entity at place `i`. -/
theorem getElem?_tagsOf (boundaries : Bool) (entities : List String) {i j : Nat}
    (hj : j < tagsPerEntity boundaries) :
    (tagsOf boundaries entities)[tagsPerEntity boundaries * i + j + 1]? =
      entities[i]?.bind fun e => (tagsOfEntity boundaries e)[j]? := by
  rw [tagsOf, List.getElem?_cons_succ]
  exact List.getElem?_flatMap_of_length (fun e _ => length_tagsOfEntity boundaries e) hj

theorem getElem?_tagsOf_false (entities : List String) (i : Nat) :
    (tagsOf false entities)[i + 1]? = entities[i]? := by
  have hget := getElem?_tagsOf false entities (i := i) (j := 0) (by decide)
  simpa [tagsPerEntity, tagsOfEntity] using hget

/-- With boundaries the entity at place `i` has four numbers, one for each boundary. -/
theorem getElem?_tagsOf_true {entities : List String} {i j : Nat} {e : String} {b : Boundary}
    (he : entities[i]? = some e) (hb : Boundary.all[j]? = some b) :
    (tagsOf true entities)[4 * i + j + 1]? = some (b.tag e) := by
  have hj : j < tagsPerEntity true := (List.getElem?_eq_some_iff.1 hb).1
  have hget := getElem?_tagsOf true entities (i := i) hj
  simpa [tagsPerEntity, tagsOfEntity, he, hb] using hget

namespace TagTable

/-! ## Tables that number a list of tags -/

/-- The table gives each of the tags its place as its number, and knows no others. -/
structure Numbers (table : TagTable) (tags : List String) : Prop where
  idOf_iff : ∀ (tag : String) (n : Nat), table.idOf[tag]? = some n ↔ tags[n]? = some tag
  tagOf_iff : ∀ (n : Nat) (tag : String), table.tagOf[n]? = some tag ↔ tags[n]? = some tag
  numTags_eq : table.numTags = tags.length

/-- Different tags are different keys when they are listed with their places. -/
private theorem keys_zipIdx {tags : List String} (hnodup : tags.Nodup) (k : Nat) :
    (tags.zipIdx k).Pairwise fun a b => a.1 ≠ b.1 := by
  rw [← List.pairwise_map (f := Prod.fst) (R := (· ≠ ·)), List.zipIdx_map_fst]
  exact hnodup

section OfIds

variable {idOf : Std.ExtTreeMap String Nat} {tags : List String}
  (hid : ∀ (tag : String) (n : Nat), idOf[tag]? = some n ↔ tags[n]? = some tag)

include hid

/-- Numbers that are places are as many as there are tags. -/
private theorem size_of_idOf_iff (hnodup : tags.Nodup) : idOf.size = tags.length := by
  have heq : idOf = .ofList tags.zipIdx := by
    apply Std.ExtTreeMap.ext_getElem?
    intro tag
    apply Option.ext
    intro n
    rw [hid, Std.ExtTreeMap.getElem?_ofList_iff (keys_zipIdx hnodup 0),
      List.mk_mem_zipIdx_iff_getElem?]
  have hdistinct : tags.zipIdx.Pairwise fun a b => ¬ compare a.1 b.1 = .eq :=
    (keys_zipIdx hnodup 0).imp fun hne heq => hne (Std.LawfulEqCmp.eq_of_compare heq)
  rw [heq, Std.ExtTreeMap.size_ofList hdistinct, List.length_zipIdx]

/-- If the numbers are places in a list of tags, reading them backwards finds the tags again. -/
private theorem getElem?_tagOf_of_idOf_iff (n : Nat) (tag : String) :
    (ofIds idOf).tagOf[n]? = some tag ↔ tags[n]? = some tag := by
  -- at one place stands one tag only, so no number is given twice
  have hkeys : (idOf.toList.map Prod.swap).Pairwise fun a b => a.1 ≠ b.1 := by
    rw [List.pairwise_map]
    apply idOf.pairwise_ne_toList.imp_of_mem
    intro (tag, n) (tag', n') hmem hmem' hne hn
    rw [Std.ExtTreeMap.mem_toList_iff_getElem?_eq_some, hid] at hmem hmem'
    simp only [Prod.fst_swap] at hn
    rw [hn, hmem'] at hmem
    exact hne (Option.some.inj hmem).symm
  rw [← hid, ofIds, Std.ExtTreeMap.getElem?_ofList_iff hkeys, List.mem_map,
    ← Std.ExtTreeMap.mem_toList_iff_getElem?_eq_some]
  constructor
  · intro hswapped
    obtain ⟨⟨tag', n'⟩, hmem, heq⟩ := hswapped
    obtain ⟨rfl, rfl⟩ := Prod.mk.inj heq
    exact hmem
  · intro hmem
    exact ⟨(tag, n), hmem, rfl⟩

/-- A table of numbers that are places numbers the tags that stand there. -/
theorem numbers_ofIds (hnodup : tags.Nodup) : (ofIds idOf).Numbers tags where
  idOf_iff := hid
  tagOf_iff := getElem?_tagOf_of_idOf_iff hid
  numTags_eq := size_of_idOf_iff hid hnodup

end OfIds

/-- A table whose tags are numbered from 1 on, in a list that holds no tag twice, numbers the list
with the tag of number 0 in front. -/
theorem numbers_ofNumbered {tags : List String} (hnodup : (noEntity :: tags).Nodup) :
    (ofNumbered (tags.zipIdx 1)).Numbers (noEntity :: tags) := by
  obtain ⟨hfree, htags⟩ := List.nodup_cons.1 hnodup
  refine numbers_ofIds ?_ hnodup
  intro tag n
  rw [Std.ExtTreeMap.getElem?_insert]
  by_cases htag : noEntity = tag
  · -- number 0 is given last, and replaces nothing since the tag was not listed before
    subst htag
    cases n with
    | zero => simp [noEntityId]
    | succ n =>
      have hget : tags[n]? ≠ some noEntity := fun h => hfree (List.mem_of_getElem? h)
      simp [noEntityId, hget]
  · have hne : compare noEntity tag ≠ .eq := fun h => htag (Std.LawfulEqCmp.eq_of_compare h)
    rw [if_neg hne, Std.ExtTreeMap.getElem?_ofList_iff (keys_zipIdx htags 1),
      List.mk_mem_zipIdx_iff_le_and_getElem?_sub]
    cases n with
    | zero => simp [htag]
    | succ n => simp

/-! ## Numbers and back -/

namespace Numbers

variable {table : TagTable} {tags : List String} (h : table.Numbers tags)

include h

theorem mem_idOf_iff {tag : String} : tag ∈ table.idOf ↔ tag ∈ tags := by
  rw [Std.ExtTreeMap.mem_iff_isSome_getElem?, Option.isSome_iff_exists, List.mem_iff_getElem?]
  simp only [h.idOf_iff]

/-- The numbers of the table are those below the number of tags. -/
theorem mem_tagOf_iff {n : Nat} : n ∈ table.tagOf ↔ n < table.numTags := by
  rw [Std.ExtTreeMap.mem_iff_isSome_getElem?, Option.isSome_iff_exists, h.numTags_eq]
  simp only [h.tagOf_iff, ← Option.isSome_iff_exists, isSome_getElem?]

/-- The number of a tag is its place. -/
theorem idForTag_eq {tag : String} {n : Nat} (hn : tags[n]? = some tag) :
    table.idForTag tag = n := by
  rw [idForTag, Std.ExtTreeMap.getD_eq_getD_getElem?, (h.idOf_iff tag n).2 hn, Option.getD_some]

/-- A tag that is not listed counts as no entity. -/
theorem idForTag_of_not_mem {tag : String} (hn : tag ∉ tags) : table.idForTag tag = noEntityId :=
  Std.ExtTreeMap.getD_eq_fallback (mt h.mem_idOf_iff.1 hn)

/-- The tag of a number is the one that stands at this place. -/
theorem tagForId_eq {tag : String} {n : Nat} (hn : tags[n]? = some tag) :
    table.tagForId n = tag := by
  rw [tagForId, Std.ExtTreeMap.getD_eq_getD_getElem?, (h.tagOf_iff n tag).2 hn, Option.getD_some]

/-- A number that no tag has stands for no entity. -/
theorem tagForId_of_le {n : Nat} (hn : table.numTags ≤ n) : table.tagForId n = noEntity :=
  Std.ExtTreeMap.getD_eq_fallback (mt h.mem_tagOf_iff.1 (Nat.not_lt.2 hn))

variable (hzero : tags[0]? = some noEntity)

include hzero

/-- Every tag, listed or not, gets a number of the table. -/
theorem idForTag_lt (tag : String) : table.idForTag tag < table.numTags := by
  by_cases hmem : tag ∈ tags
  · obtain ⟨n, hn⟩ := List.mem_iff_getElem?.1 hmem
    rw [h.idForTag_eq hn, h.numTags_eq]
    exact (List.getElem?_eq_some_iff.1 hn).1
  · rw [h.idForTag_of_not_mem hmem, h.numTags_eq]
    exact (List.getElem?_eq_some_iff.1 hzero).1

/-- Decoding the number of a tag gives the tag, or no entity if the table does not know it. -/
theorem tagForId_idForTag (tag : String) :
    table.tagForId (table.idForTag tag) = if tag ∈ tags then tag else noEntity := by
  by_cases hmem : tag ∈ tags
  · obtain ⟨n, hn⟩ := List.mem_iff_getElem?.1 hmem
    rw [h.idForTag_eq hn, h.tagForId_eq hn, if_pos hmem]
  · rw [h.idForTag_of_not_mem hmem, if_neg hmem]
    exact h.tagForId_eq hzero

/-- Numbering the tag of a number gives the number, or 0 if no tag has it. -/
theorem idForTag_tagForId (n : Nat) :
    table.idForTag (table.tagForId n) = if n < table.numTags then n else noEntityId := by
  by_cases hlt : n < table.numTags
  · have hlen : n < tags.length := h.numTags_eq ▸ hlt
    have hn := List.getElem?_eq_getElem hlen
    rw [h.tagForId_eq hn, h.idForTag_eq hn, if_pos hlt]
  · rw [h.tagForId_of_le (Nat.not_lt.1 hlt), if_neg hlt]
    exact h.idForTag_eq hzero

end Numbers

/-! ## The table of a vocabulary -/

/-- There is no table exactly if an entity has the name that stands for none. -/
theorem ofEntities_eq_error_iff {entities : Std.ExtTreeSet String} {boundaries : Bool} :
    ofEntities entities boundaries = .error (.reservedEntity noEntity) ↔ noEntity ∈ entities := by
  rw [ofEntities, ← Std.ExtTreeSet.contains_iff_mem]
  split <;> simp_all

/-- Otherwise the table numbers the tags of the vocabulary. -/
theorem ofEntities_numbers {entities : Std.ExtTreeSet String} (boundaries : Bool)
    (hfree : noEntity ∉ entities) :
    ∃ table, ofEntities entities boundaries = .ok table ∧
      table.Numbers (tagsOf boundaries entities.toList) := by
  have hnodup : entities.toList.Nodup := by
    refine Std.ExtTreeSet.distinct_toList.imp ?_
    intro e f hne heq
    exact hne (heq ▸ Std.ReflCmp.compare_self)
  have hfree' : noEntity ∉ entities.toList := mt Std.ExtTreeSet.mem_toList.1 hfree
  refine ⟨ofNumbered (numberedTags boundaries entities.toList), ?_, ?_⟩
  · rw [ofEntities, if_neg (mt Std.ExtTreeSet.contains_iff_mem.1 hfree)]
  · rw [numberedTags_eq_zipIdx]
    exact numbers_ofNumbered (nodup_tagsOf hnodup hfree')

/-- Every table that is made of a vocabulary numbers its tags. -/
theorem numbers_of_ofEntities {entities : Std.ExtTreeSet String} {boundaries : Bool}
    {table : TagTable} (h : ofEntities entities boundaries = .ok table) :
    table.Numbers (tagsOf boundaries entities.toList) := by
  have hfree : noEntity ∉ entities := by
    intro hmem
    rw [ofEntities_eq_error_iff.2 hmem] at h
    exact nomatch h
  obtain ⟨table', hok, hnum⟩ := ofEntities_numbers boundaries hfree
  rw [h, Except.ok.injEq] at hok
  exact hok ▸ hnum

/-- What a table over ascending entity names is: its numbers are those from 0 on without a gap, the
two directions are inverse to each other, and the tag of each number follows from the order of the
names. -/
structure Layout (table : TagTable) (entities : List String) (boundaries : Bool) : Prop where
  numTags_eq : table.numTags = (if boundaries then 4 else 1) * entities.length + 1
  mem_tagOf_iff : ∀ n, n ∈ table.tagOf ↔ n < table.numTags
  inverse : ∀ (tag : String) (n : Nat), table.idOf[tag]? = some n ↔ table.tagOf[n]? = some tag
  tagOf_zero : table.tagOf[0]? = some noEntity
  tagOf_plain : boundaries = false →
    ∀ i e, entities[i]? = some e → table.tagOf[i + 1]? = some e
  tagOf_boundary : boundaries = true →
    ∀ i e, entities[i]? = some e →
      ∀ j b, Boundary.all[j]? = some b → table.tagOf[4 * i + j + 1]? = some (b.tag e)
  tagForId_idForTag : ∀ tag,
    table.tagForId (table.idForTag tag) = if tag ∈ table.idOf then tag else noEntity
  idForTag_tagForId : ∀ n,
    table.idForTag (table.tagForId n) = if n < table.numTags then n else 0
  withoutBoundary_tagForId : boundaries = true →
    ∀ n, 0 < n → n < table.numTags →
      entities[(n - 1) / 4]? = some (withoutBoundary (table.tagForId n))

/-- A number of a boundary tag is that of its entity and, within it, that of its boundary. -/
private theorem tagForId_boundary {table : TagTable} {entities : List String}
    (h : table.Numbers (tagsOf true entities)) {n : Nat} (hpos : 0 < n) (hlt : n < table.numTags) :
    ∃ e b, entities[(n - 1) / 4]? = some e ∧ table.tagForId n = Boundary.tag b e := by
  have hnum : table.numTags = 4 * entities.length + 1 := by
    rw [h.numTags_eq, length_tagsOf]; rfl
  -- the number counts the entities in steps of four, and the boundaries within a step
  have hi : (n - 1) / 4 < entities.length := by omega
  have hj : (n - 1) % 4 < Boundary.all.length := Nat.mod_lt _ (by decide)
  have hn : 4 * ((n - 1) / 4) + (n - 1) % 4 + 1 = n := by omega
  have htag := getElem?_tagsOf_true (List.getElem?_eq_getElem hi) (List.getElem?_eq_getElem hj)
  rw [hn] at htag
  exact ⟨_, _, List.getElem?_eq_getElem hi, h.tagForId_eq htag⟩

/-- A table that numbers the tags of a vocabulary is laid out by it. -/
theorem Numbers.layout {table : TagTable} {entities : List String} {boundaries : Bool}
    (h : table.Numbers (tagsOf boundaries entities)) : table.Layout entities boundaries where
  numTags_eq := by rw [h.numTags_eq, length_tagsOf, tagsPerEntity]
  mem_tagOf_iff _ := h.mem_tagOf_iff
  inverse tag n := by rw [h.idOf_iff, h.tagOf_iff]
  tagOf_zero := (h.tagOf_iff _ _).2 rfl
  tagOf_plain := by
    intro hplain i e he
    subst hplain
    rw [h.tagOf_iff, getElem?_tagsOf_false, he]
  tagOf_boundary := by
    intro hboundary i e he j b hb
    subst hboundary
    rw [h.tagOf_iff, getElem?_tagsOf_true he hb]
  tagForId_idForTag tag := by
    rw [h.tagForId_idForTag rfl]
    simp only [h.mem_idOf_iff]
  idForTag_tagForId := h.idForTag_tagForId rfl
  withoutBoundary_tagForId := by
    intro hboundary n hpos hlt
    subst hboundary
    obtain ⟨e, b, he, htag⟩ := tagForId_boundary h hpos hlt
    rw [htag, withoutBoundary_tag, he]

/-- The names of a vocabulary, each once and in ascending order. -/
theorem pairwise_lt_toList (entities : Std.ExtTreeSet String) :
    entities.toList.Pairwise (· < ·) := by
  refine Std.ExtTreeSet.ordered_toList.imp ?_
  intro e f hlt
  exact compareOfLessAndEq_eq_lt.1 hlt

/-- Names have a tag table exactly if none of them is the name that stands for no entity, and then
the table is laid out by the names in ascending order, each taken once. -/
theorem ofEntities_layout (names : List String) (boundaries : Bool) :
    (ofEntities (.ofList names) boundaries = .error (.reservedEntity noEntity) ↔
      noEntity ∈ names) ∧
    (noEntity ∉ names → ∃ table entities,
      ofEntities (.ofList names) boundaries = .ok table ∧
      entities.Pairwise (· < ·) ∧ (∀ e, e ∈ entities ↔ e ∈ names) ∧
      table.Layout entities boundaries) := by
  have hmem : ∀ e, e ∈ Std.ExtTreeSet.ofList names ↔ e ∈ names := by
    intro e
    rw [Std.ExtTreeSet.mem_ofList, List.contains_iff_mem]
  refine ⟨ofEntities_eq_error_iff.trans (hmem noEntity), ?_⟩
  intro hfree
  obtain ⟨table, hok, hnum⟩ := ofEntities_numbers boundaries (mt (hmem noEntity).1 hfree)
  refine ⟨table, _, hok, pairwise_lt_toList _, ?_, hnum.layout⟩
  intro e
  rw [Std.ExtTreeSet.mem_toList, hmem]

/-- Names that begin with a mark, the empty name and names that are given twice are no exception. -/
theorem ofEntities_layout_marked :
    noEntity ∉ ["x", "B-x", "", "x"] ∧ ∃ table entities,
      ofEntities (.ofList ["x", "B-x", "", "x"]) true = .ok table ∧
      (∀ e, e ∈ entities ↔ e ∈ ["x", "B-x", "", "x"]) ∧ table.Layout entities true := by
  have hfree : noEntity ∉ ["x", "B-x", "", "x"] := by decide
  obtain ⟨table, entities, hok, _, hmem, hlayout⟩ :=
    (ofEntities_layout ["x", "B-x", "", "x"] true).2 hfree
  exact ⟨hfree, table, entities, hok, hmem, hlayout⟩

end TagTable

end TargetEncoding
