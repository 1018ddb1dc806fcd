import TargetEncoding.Proofs.Alignment
import TargetEncoding.TagTable

/-!
# Mentions that do not compete

Mentions are laid over the tokens one after the other, and an earlier one may take a token that a
later one covers too.  Where no token overlaps two of the mentions this cannot happen: each mention
that covers some token is kept, whatever stands before it.  Another order of the mentions then gives
the same spans in another order, and since these are separate they write the same.

## Key results

- `Independent.keptSpans_eq`: of independent mentions those that cover some token are kept
- `Independent.keptSpans_perm`: another order gives the same spans in another order
- `Independent.tags_perm`: independent mentions give the same tags, labels and numbers in any order
-/

namespace TargetEncoding

/-- No token overlaps both of the mentions. -/
def Mention.Apart (tokens : List Token) (a b : Mention) : Prop :=
  ∀ t ∈ tokens, ¬ (t.overlaps a.start a.stop = true ∧ t.overlaps b.start b.stop = true)

instance (tokens : List Token) (a b : Mention) : Decidable (a.Apart tokens b) :=
  inferInstanceAs (Decidable (∀ t ∈ tokens, ¬ (_ ∧ _)))

/-- No token overlaps two of the mentions.  A mention that is listed twice counts as two. -/
def Independent (tokens : List Token) (mentions : List Mention) : Prop :=
  mentions.Pairwise (Mention.Apart tokens)

instance (tokens : List Token) (mentions : List Mention) :
    Decidable (Independent tokens mentions) :=
  inferInstanceAs (Decidable (mentions.Pairwise _))

section Independent

variable {tokens : List Token} {mentions mentions' : List Mention}

theorem Mention.Apart.symm {a b : Mention} (h : a.Apart tokens b) : b.Apart tokens a :=
  fun t ht hover => h t ht hover.symm

/-- Mentions that are apart cover different tokens. -/
theorem Mention.Apart.not_mem_cover {a b : Mention} (h : a.Apart tokens b) {i : Nat}
    (hi : i ∈ cover tokens a) : i ∉ cover tokens b := by
  intro hi'
  obtain ⟨t, ht, hover⟩ := mem_cover.1 hi
  obtain ⟨t', ht', hover'⟩ := mem_cover.1 hi'
  obtain rfl : t = t' := Option.some.inj (ht.symm.trans ht')
  exact h t (List.mem_of_getElem? ht) ⟨hover, hover'⟩

/-- The mention with all the tokens it covers, if there are any. -/
def spanOf? (tokens : List Token) (m : Mention) : Option Span :=
  if cover tokens m = [] then none else some ⟨m, cover tokens m⟩

/-- Independent mentions do not lose a token to each other, so those that cover some token are kept
if none of their tokens is gone before. -/
theorem Independent.spansFrom_eq (hind : Independent tokens mentions) {taken : List Nat}
    (hfree : ∀ m ∈ mentions, ∀ i ∈ cover tokens m, i ∉ taken) :
    spansFrom tokens taken mentions = mentions.filterMap (spanOf? tokens) := by
  induction mentions generalizing taken with
  | nil => rfl
  | cons m ms ih =>
    obtain ⟨hapart, hrest⟩ := List.pairwise_cons.1 hind
    obtain ⟨hfirst, hlater⟩ := List.forall_mem_cons.1 hfree
    rw [spansFrom]
    by_cases hnil : cover tokens m = []
    · have hspan : spanOf? tokens m = none := if_pos hnil
      rw [List.filterMap_cons_none hspan, hnil]
      exact ih hrest hlater
    · have hspan : spanOf? tokens m = some ⟨m, cover tokens m⟩ := if_neg hnil
      rw [List.filterMap_cons_some hspan, Placement.ofCover_eq_kept_iff.2 ⟨rfl, hnil, hfirst⟩]
      -- what this mention takes is not covered by any of the others
      have hfree' : ∀ m' ∈ ms, ∀ i ∈ cover tokens m', i ∉ taken ++ cover tokens m := by
        intro m' hm' i hi hgone
        rcases List.mem_append.1 hgone with htaken | hshared
        · exact hlater m' hm' i hi htaken
        · exact (hapart m' hm').not_mem_cover hshared hi
      exact congrArg _ (ih hrest hfree')

/-- Of independent mentions those that cover some token are kept. -/
theorem Independent.keptSpans_eq (hind : Independent tokens mentions) :
    keptSpans tokens mentions = mentions.filterMap (spanOf? tokens) := by
  rw [keptSpans_eq_spansFrom]
  exact hind.spansFrom_eq fun _ _ _ _ => List.not_mem_nil

theorem Independent.of_perm (hind : Independent tokens mentions)
    (hperm : mentions.Perm mentions') : Independent tokens mentions' :=
  hperm.pairwise hind Mention.Apart.symm

/-- In another order independent mentions give the same spans in another order. -/
theorem Independent.keptSpans_perm (hind : Independent tokens mentions)
    (hperm : mentions.Perm mentions') :
    (keptSpans tokens mentions').Perm (keptSpans tokens mentions) := by
  rw [hind.keptSpans_eq, (hind.of_perm hperm).keptSpans_eq]
  exact hperm.symm.filterMap _

/-- Whatever is written on the tokens of independent mentions, their order does not matter. -/
theorem Independent.writeSpans_keptSpans (hind : Independent tokens mentions)
    (hperm : mentions.Perm mentions') (label : Span → Nat → String) :
    writeSpans label tokens.length (keptSpans tokens mentions') =
      writeSpans label tokens.length (keptSpans tokens mentions) :=
  writeSpans_perm label _ (wellPlaced_keptSpans tokens mentions').separate
    (hind.keptSpans_perm hperm)

/-- Independent mentions give the same tags and the same labels in any order, and so the tags of a
message have the same numbers. -/
theorem Independent.tags_perm (hind : Independent tokens mentions)
    (hperm : mentions.Perm mentions') :
    boundaryTags tokens mentions' = boundaryTags tokens mentions ∧
      entityLabels tokens mentions' = entityLabels tokens mentions ∧
      ∀ m : Message, m.tokens.text = tokens → m.mentions = mentions →
        ∀ (table : TagTable) (boundaries : Bool),
          ({ m with mentions := mentions' } : Message).tagIds table boundaries =
            m.tagIds table boundaries := by
  have htags : boundaryTags tokens mentions' = boundaryTags tokens mentions :=
    hind.writeSpans_keptSpans hperm Span.boundaryTag
  have hlabels : entityLabels tokens mentions' = entityLabels tokens mentions :=
    hind.writeSpans_keptSpans hperm fun span _ => span.mention.entity
  refine ⟨htags, hlabels, ?_⟩
  rintro m rfl rfl table boundaries
  rw [Message.tagIds, Message.tagIds, Message.tokenTags, Message.tokenTags, htags, hlabels]

/-- A place and its kind stand apart, and a third mention is far from every token, so it does not
matter which of them is listed first. -/
theorem Independent.tags_perm_newYork :
    let m : Message := (Message.ofUtterance ⟨"new york city",
      [⟨0, 8, "new york", "place", none, none⟩, ⟨20, 25, "far", "place", none, none⟩,
        ⟨9, 13, "city", "kind", none, none⟩]⟩).setTokens .text
          [⟨"new", 0, 3⟩, ⟨"york", 4, 8⟩, ⟨"city", 9, 13⟩]
    let mentions' : List Mention := [⟨9, 13, "city", "kind", none, none⟩,
      ⟨0, 8, "new york", "place", none, none⟩, ⟨20, 25, "far", "place", none, none⟩]
    Independent m.tokens.text m.mentions ∧ m.mentions.Perm mentions' ∧
      boundaryTags m.tokens.text mentions' = ["B-place", "L-place", "U-kind"] ∧
      ∀ (table : TagTable) (boundaries : Bool),
        ({ m with mentions := mentions' } : Message).tagIds table boundaries =
          m.tagIds table boundaries := by
  intro m mentions'
  have hind : Independent m.tokens.text m.mentions := by decide
  have hperm : m.mentions.Perm mentions' := List.perm_append_singleton _ [_, _]
  obtain ⟨htags, _, hids⟩ := hind.tags_perm hperm
  refine ⟨hind, hperm, ?_, hids m rfl rfl⟩
  rw [htags]
  decide

/-- A token that two mentions overlap goes to the first of them. -/
example :
    entityLabels [⟨"york", 4, 8⟩]
        [⟨0, 8, "new york", "place", none, none⟩, ⟨4, 8, "york", "county", none, none⟩] =
          ["place"] ∧
      entityLabels [⟨"york", 4, 8⟩]
        [⟨4, 8, "york", "county", none, none⟩, ⟨0, 8, "new york", "place", none, none⟩] =
          ["county"] := by
  decide

end Independent

end TargetEncoding
