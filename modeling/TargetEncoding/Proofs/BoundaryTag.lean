import TargetEncoding.BoundaryTag

/-!
# Boundary tags are read back

A boundary tag determines the boundary and the entity it was made of, whatever the entity is called:
an entity whose own name begins with a mark only makes the tag longer, since the four marks are
equally long and the first one is taken off.  No boundary tag is the label of a token outside every
entity, because that label begins with none of the marks.

## Key results

- `Boundary.tag_inj`: a tag determines its boundary and its entity
- `Boundary.tag_ne_noEntity`: a token of an entity is never labelled as if it had none
- `withoutBoundary_tag`: taking the mark off gives the entity
-/

namespace TargetEncoding

namespace Boundary

theorem toList_tag (b : Boundary) (entity : String) :
    (b.tag entity).toList = b.mark.toList ++ entity.toList := by
  rw [tag, String.toList_append]

theorem mark_toList_inj {b c : Boundary} (h : b.mark.toList = c.mark.toList) : b = c := by
  cases b <;> cases c <;> simp [mark] at h ⊢

/-- Two tags that begin alike, up to what follows, are of the same boundary. -/
private theorem eq_of_mark_append {b c : Boundary} {xs ys : List Char}
    (h : b.mark.toList ++ xs = c.mark.toList ++ ys) : b = c ∧ xs = ys := by
  have hlen : b.mark.toList.length = c.mark.toList.length := by
    rw [length_mark, length_mark]
  obtain ⟨hmark, hrest⟩ := List.append_inj h hlen
  exact ⟨mark_toList_inj hmark, hrest⟩

/-- A tag determines the boundary and the entity it was made of. -/
theorem tag_inj {b c : Boundary} {e f : String} : b.tag e = c.tag f ↔ b = c ∧ e = f := by
  constructor
  · intro h
    have hlist := congrArg String.toList h
    rw [toList_tag, toList_tag] at hlist
    obtain ⟨rfl, hrest⟩ := eq_of_mark_append hlist
    exact ⟨rfl, String.toList_inj.1 hrest⟩
  · intro hsame
    rw [hsame.1, hsame.2]

/-- The mark of a tag is the mark of the boundary it was made of. -/
theorem marks_tag (b c : Boundary) (entity : String) : b.marks (c.tag entity) = decide (b = c) := by
  rw [marks, toList_tag, Bool.eq_iff_iff, List.isPrefixOf_iff_prefix, decide_eq_true_iff]
  constructor
  · -- all marks are two characters long, so the mark is the whole beginning of the tag
    intro hprefix
    obtain ⟨rest, hrest⟩ := hprefix
    exact (eq_of_mark_append hrest).1
  · intro hsame
    subst hsame
    exact List.prefix_append _ _

/-- The label of a token outside every entity begins with no mark. -/
theorem marks_noEntity (b : Boundary) : b.marks noEntity = false := by
  cases b <;> decide

/-- A token of an entity never has the label of a token outside every entity. -/
theorem tag_ne_noEntity (b : Boundary) (entity : String) : b.tag entity ≠ noEntity := by
  intro h
  have hmarks := marks_tag b b entity
  rw [h, marks_noEntity] at hmarks
  simp at hmarks

theorem ofTag?_tag (b : Boundary) (entity : String) : ofTag? (b.tag entity) = some b := by
  have hmarks : (fun c : Boundary => c.marks (b.tag entity)) = fun c => decide (c = b) :=
    funext fun c => marks_tag c b entity
  rw [ofTag?, hmarks]
  cases b <;> rfl

theorem ofTag?_noEntity : ofTag? noEntity = none := by
  simp only [ofTag?, List.find?_eq_none]
  intro b _
  simp [marks_noEntity]

end Boundary

/-- Taking the mark off a boundary tag gives the entity, also if the name of the entity begins with
a mark itself. -/
theorem withoutBoundary_tag (b : Boundary) (entity : String) :
    withoutBoundary (b.tag entity) = entity := by
  have hlen : b.mark.length = b.mark.toList.length := by rw [String.length_toList]
  rw [withoutBoundary, Boundary.ofTag?_tag]
  simp only
  rw [Boundary.toList_tag, hlen, List.drop_left, String.ofList_toList]

/-- The label of a token outside every entity has no mark to take off. -/
theorem withoutBoundary_noEntity : withoutBoundary noEntity = noEntity := by
  rw [withoutBoundary, Boundary.ofTag?_noEntity]

end TargetEncoding
