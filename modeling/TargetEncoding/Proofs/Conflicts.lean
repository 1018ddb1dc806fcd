import TargetEncoding.Interpreter
import TargetEncoding.Proofs.Alignment
import TargetEncoding.Proofs.ForStd

/-!
# Which mentions are kept

Mentions compete for tokens, and the earlier one wins: a mention is kept if it covers some token and
shares none with a mention kept before it.  So what happens to a mention follows from what it covers
and from which earlier ones are kept.  Here mentions go by their places in the list, since the same
mention may be listed twice and be kept once.

## Key results

- `getElem?_placementsFrom`: the decision on a mention sees what all mentions before it take
- `mem_takenBefore`: what is gone when a mention has its turn
- `isKeptAt_iff`: which mentions are kept
- `keptSpans_eq_map`: the spans are those of the kept mentions
- `forall₂_reported`: every mention that is not kept is reported, once and with its reason
- `keptSpans_greedy`: the choice of mentions, what they write, and what is reported
- `label_of_contested`: who gets a token that several mentions cover
- `not_label_of_first`: not always the first of them
-/

namespace TargetEncoding

/-- The mention is kept. -/
def Placement.isKept : Placement → Bool
  | .kept _ => true
  | _ => false

/-- A placement that is not kept says why. -/
theorem Placement.eq_of_not_isKept {p : Placement} (h : ¬ p.isKept = true) :
    p = .unaligned ∨ ∃ i, p = .contested i := by
  cases p with
  | kept taking => exact absurd rfl h
  | unaligned => exact .inl rfl
  | contested i => exact .inr ⟨i, rfl⟩

theorem Placement.ofCover_eq_unaligned {cover taken : List Nat}
    (h : ofCover cover taken = .unaligned) : cover = [] := by
  unfold ofCover at h
  split at h
  · rename_i hempty
    exact List.isEmpty_iff.1 hempty
  · split at h <;> exact nomatch h

/-- A mention is unaligned if it covers nothing, whatever is taken. -/
theorem Placement.ofCover_eq_unaligned_iff {cover taken : List Nat} :
    ofCover cover taken = .unaligned ↔ cover = [] := by
  constructor
  · exact ofCover_eq_unaligned
  · rintro rfl
    rfl

/-- A mention that is contested names the first of its tokens that is taken. -/
theorem Placement.ofCover_eq_contested {cover taken : List Nat} {i : Nat}
    (hasc : cover.Pairwise (· < ·)) (h : ofCover cover taken = .contested i) :
    i ∈ cover ∧ i ∈ taken ∧ ∀ j ∈ cover, j ∈ taken → i ≤ j := by
  unfold ofCover at h
  split at h
  · exact nomatch h
  · split at h
    · rename_i first hfind
      obtain rfl := Placement.contested.inj h
      -- the tokens before the one that is found are free, and those behind it are larger
      obtain ⟨htaken, before, behind, rfl, hfree⟩ := List.find?_eq_some_iff_append.1 hfind
      refine ⟨by simp, List.contains_iff_mem.1 htaken, ?_⟩
      intro j hj hjtaken
      rw [List.mem_append, List.mem_cons] at hj
      rcases hj with hbefore | rfl | hbehind
      · have hjfree := hfree j hbefore
        rw [List.contains_iff_mem.2 hjtaken] at hjfree
        exact nomatch hjfree
      · exact Nat.le_refl j
      · have hrest := (List.pairwise_append.1 hasc).2.1
        exact Nat.le_of_lt ((List.pairwise_cons.1 hrest).1 j hbehind)
    · exact nomatch h

/-- A mention is decided on when all the mentions before it have taken their tokens. -/
theorem getElem?_placementsFrom (tokens : List Token) (taken : List Nat) (mentions : List Mention)
    (k : Nat) :
    (placementsFrom tokens taken mentions)[k]? = mentions[k]?.map fun m =>
      Placement.ofCover (cover tokens m)
        (taken ++ ((placementsFrom tokens taken mentions).take k).flatMap Placement.takes) := by
  -- once the first mention has had its turn, what it took is gone for the others
  induction mentions generalizing taken k with
  | nil => rfl
  | cons m ms ih =>
    cases k with
    | zero => simp [placementsFrom]
    | succ k =>
      rw [placementsFrom, List.getElem?_cons_succ, List.getElem?_cons_succ, ih, List.take_succ_cons,
        List.flatMap_cons, List.append_assoc]

theorem getElem?_placements_eq_unaligned_iff {tokens : List Token} {mentions : List Mention}
    {k : Nat} {m : Mention} (hm : mentions[k]? = some m) :
    (placements tokens mentions)[k]? = some .unaligned ↔ cover tokens m = [] := by
  rw [placements, getElem?_placementsFrom, hm, Option.map_some, Option.some.injEq,
    Placement.ofCover_eq_unaligned_iff]

section Places

variable (tokens : List Token) (mentions : List Mention)

/-- The tokens that are gone when the mention at this place has its turn. -/
def takenBefore (k : Fin mentions.length) : List Nat :=
  ((placements tokens mentions).take k).flatMap Placement.takes

/-- What becomes of the mention at this place. -/
def placementAt (k : Fin mentions.length) : Placement :=
  .ofCover (cover tokens mentions[k]) (takenBefore tokens mentions k)

/-- The mention at this place is kept. -/
def isKeptAt (k : Fin mentions.length) : Bool :=
  (placementAt tokens mentions k).isKept

/-- What becomes of the mentions, place by place. -/
theorem placements_eq_map :
    placements tokens mentions =
      (List.finRange mentions.length).map (placementAt tokens mentions) := by
  have hlen : (placements tokens mentions).length = mentions.length := length_placementsFrom ..
  apply List.ext_getElem
  · rw [hlen, List.length_map, List.length_finRange]
  · intro k hk hk'
    have hlt : k < mentions.length := hlen ▸ hk
    have hget := getElem?_placementsFrom tokens [] mentions k
    rw [← placements, List.getElem?_eq_getElem hk, List.getElem?_eq_getElem hlt, Option.map_some,
      Option.some.injEq, List.nil_append] at hget
    rw [hget, List.getElem_map, List.getElem_finRange]
    rfl

variable {tokens mentions}

/-- What becomes of a mention that is kept: it takes all the tokens it covers. -/
theorem placementAt_of_isKeptAt {k : Fin mentions.length} (h : isKeptAt tokens mentions k = true) :
    placementAt tokens mentions k = .kept (cover tokens mentions[k]) := by
  rw [isKeptAt] at h
  cases hplace : placementAt tokens mentions k with
  | kept taking => rw [(Placement.ofCover_eq_kept_iff.1 hplace).1]
  | unaligned => exact absurd h (by simp [hplace, Placement.isKept])
  | contested i => exact absurd h (by simp [hplace, Placement.isKept])

/-- A mention that is not kept takes nothing. -/
theorem mem_takes_placementAt {k : Fin mentions.length} {i : Nat} :
    i ∈ (placementAt tokens mentions k).takes ↔
      isKeptAt tokens mentions k = true ∧ i ∈ cover tokens mentions[k] := by
  by_cases hkept : isKeptAt tokens mentions k = true
  · simp [placementAt_of_isKeptAt hkept, Placement.takes, hkept]
  · have htakes : (placementAt tokens mentions k).takes = [] := by
      obtain hplace | ⟨i, hplace⟩ := Placement.eq_of_not_isKept hkept <;> rw [hplace] <;> rfl
    simp [htakes, hkept]

/-- Gone are the tokens that the earlier mentions that are kept cover. -/
theorem mem_takenBefore {k : Fin mentions.length} {i : Nat} :
    i ∈ takenBefore tokens mentions k ↔
      ∃ j < k, isKeptAt tokens mentions j = true ∧ i ∈ cover tokens mentions[j] := by
  rw [takenBefore, placements_eq_map, ← List.map_take, List.flatMap_map, List.mem_flatMap]
  simp only [List.mem_take_finRange, mem_takes_placementAt, Fin.lt_def]

/-- A mention is kept if it covers some token and shares none with an earlier one that is kept. -/
theorem isKeptAt_iff {k : Fin mentions.length} :
    isKeptAt tokens mentions k = true ↔
      cover tokens mentions[k] ≠ [] ∧ ∀ j < k, isKeptAt tokens mentions j = true →
        (cover tokens mentions[j]).Disjoint (cover tokens mentions[k]) := by
  -- its tokens are not gone if no earlier kept mention covers one of them
  have hfree : (∀ i ∈ cover tokens mentions[k], i ∉ takenBefore tokens mentions k) ↔
      ∀ j < k, isKeptAt tokens mentions j = true →
        (cover tokens mentions[j]).Disjoint (cover tokens mentions[k]) := by
    simp only [mem_takenBefore]
    constructor
    · intro hfree j hjk hkept i hij hik
      exact hfree i hik ⟨j, hjk, hkept, hij⟩
    · intro hdisjoint i hik hgone
      obtain ⟨j, hjk, hkept, hij⟩ := hgone
      exact hdisjoint j hjk hkept hij hik
  rw [← hfree]
  constructor
  · intro hkept
    exact (Placement.ofCover_eq_kept_iff.1 (placementAt_of_isKeptAt hkept)).2
  · intro hfits
    rw [isKeptAt, placementAt, Placement.ofCover_eq_kept_iff.2 ⟨rfl, hfits⟩]
    rfl

/-- Two mentions that are kept share no token, unless they are at one place. -/
theorem eq_of_mem_cover {j k : Fin mentions.length} {i : Nat}
    (hj : isKeptAt tokens mentions j = true) (hk : isKeptAt tokens mentions k = true)
    (hij : i ∈ cover tokens mentions[j]) (hik : i ∈ cover tokens mentions[k]) : j = k := by
  -- the later of the two would not have been kept
  rcases Nat.lt_trichotomy j k with hlt | heq | hgt
  · exact absurd hik ((isKeptAt_iff.1 hk).2 j hlt hj hij)
  · exact Fin.ext heq
  · exact absurd hij ((isKeptAt_iff.1 hj).2 k hgt hk hik)

/-! ## What is kept -/

theorem zip_placements :
    mentions.zip (placements tokens mentions) = (List.finRange mentions.length).map
      fun k => (mentions[k], placementAt tokens mentions k) := by
  rw [placements_eq_map]
  have hmentions := List.map_getElem_finRange mentions
  exact (congrArg (List.zip · _) hmentions.symm).trans List.zip_map'

/-- The mention at this place, with the tokens it covers. -/
def spanAt (tokens : List Token) (mentions : List Mention) (k : Fin mentions.length) : Span :=
  ⟨mentions[k], cover tokens mentions[k]⟩

/-- The spans are those of the mentions that are kept, in order. -/
theorem keptSpans_eq_map :
    keptSpans tokens mentions =
      ((List.finRange mentions.length).filter (isKeptAt tokens mentions)).map
        (spanAt tokens mentions) := by
  rw [keptSpans, zip_placements, List.filterMap_map]
  apply List.filterMap_eq_map_filter
  intro k _
  simp only [Function.comp_apply]
  by_cases hkept : isKeptAt tokens mentions k = true
  · rw [placementAt_of_isKeptAt hkept, if_pos hkept]
    rfl
  · rw [if_neg hkept]
    obtain hplace | ⟨i, hplace⟩ := Placement.eq_of_not_isKept hkept <;> rw [hplace]

/-- The owner of a token that a kept mention covers. -/
theorem owner?_keptSpans_of_mem {k : Fin mentions.length} {i : Nat}
    (hkept : isKeptAt tokens mentions k = true) (hi : i ∈ cover tokens mentions[k]) :
    owner? (keptSpans tokens mentions) i = some (spanAt tokens mentions k) := by
  rw [owner?_eq_some_iff (wellPlaced_keptSpans tokens mentions).separate, keptSpans_eq_map]
  refine ⟨List.mem_map_of_mem (List.mem_filter.2 ⟨List.mem_finRange k, hkept⟩), hi⟩

/-- A token that no kept mention covers has no owner. -/
theorem owner?_keptSpans_eq_none {i : Nat}
    (h : ∀ k, isKeptAt tokens mentions k = true → i ∉ cover tokens mentions[k]) :
    owner? (keptSpans tokens mentions) i = none := by
  rw [owner?_eq_none_iff, keptSpans_eq_map]
  intro s hs
  obtain ⟨k, hk, rfl⟩ := List.mem_map.1 hs
  exact h k (List.mem_filter.1 hk).2

/-- What is written on a token that a kept mention covers is written by this mention. -/
theorem getElem?_writeSpans_of_isKeptAt (label : Span → Nat → String) {k : Fin mentions.length}
    {i : Nat} (hkept : isKeptAt tokens mentions k = true) (hi : i ∈ cover tokens mentions[k]) :
    (writeSpans label tokens.length (keptSpans tokens mentions))[i]? =
      some (label (spanAt tokens mentions k) i) := by
  rw [writeSpans_eq_map label _ (wellPlaced_keptSpans tokens mentions).separate, List.getElem?_map,
    List.getElem?_range (lt_length_of_mem_cover hi), Option.map_some,
    owner?_keptSpans_of_mem hkept hi, Option.elim_some]

/-- Nothing is written on a token that no kept mention covers. -/
theorem getElem?_writeSpans_of_free (label : Span → Nat → String) {i : Nat}
    (hi : i < tokens.length)
    (hfree : ∀ k, isKeptAt tokens mentions k = true → i ∉ cover tokens mentions[k]) :
    (writeSpans label tokens.length (keptSpans tokens mentions))[i]? = some noEntity := by
  rw [writeSpans_eq_map label _ (wellPlaced_keptSpans tokens mentions).separate, List.getElem?_map,
    List.getElem?_range hi, Option.map_some, owner?_keptSpans_eq_none hfree, Option.elim_none]

/-- A mention that is not kept, although it covers some token, shares one with an earlier mention
that is kept. -/
theorem exists_taken_of_not_isKeptAt {k : Fin mentions.length} {i : Nat}
    (hdropped : isKeptAt tokens mentions k = false) (hi : i ∈ cover tokens mentions[k]) :
    ∃ j < k, isKeptAt tokens mentions j = true ∧
      ∃ i' ∈ cover tokens mentions[k], i' ∈ cover tokens mentions[j] := by
  have hnot := mt isKeptAt_iff.2 (Bool.eq_false_iff.1 hdropped)
  rw [not_and] at hnot
  have hclash := hnot (List.ne_nil_of_mem hi)
  simp only [not_forall] at hclash
  obtain ⟨j, hjk, hj, hshared⟩ := hclash
  simp only [List.Disjoint, not_forall, not_false_eq_true] at hshared
  obtain ⟨i', hij, hik, _⟩ := hshared
  exact ⟨j, hjk, hj, i', hik, hij⟩

/-! ## What is reported -/

/-- The report on a mention that is not kept: it covers no token, or the first of its tokens that an
earlier kept mention covers is named. -/
inductive Reported (tokens : List Token) (mentions : List Mention)
    (kept : Fin mentions.length → Bool) : Fin mentions.length → AlignmentWarning → Prop
  | unaligned {k : Fin mentions.length} (hcover : cover tokens mentions[k] = []) :
      Reported tokens mentions kept k (.unaligned mentions[k])
  | contested {k j : Fin mentions.length} {i : Nat} {t : Token}
      (hi : i ∈ cover tokens mentions[k])
      (hj : j < k ∧ kept j = true ∧ i ∈ cover tokens mentions[j])
      (hleast : ∀ i' ∈ cover tokens mentions[k], ∀ j' < k, kept j' = true →
        i' ∈ cover tokens mentions[j'] → i ≤ i')
      (ht : tokens[i]? = some t) :
      Reported tokens mentions kept k (.contested mentions[k] t)

/-- Every mention that is not kept is reported, once and in order. -/
theorem forall₂_reported (tokens : List Token) (mentions : List Mention) :
    List.Forall₂ (Reported tokens mentions (isKeptAt tokens mentions))
      ((List.finRange mentions.length).filter (!isKeptAt tokens mentions ·))
      (alignmentWarnings tokens mentions) := by
  rw [alignmentWarnings, zip_placements, List.filterMap_map]
  apply List.forall₂_filterMap
  · intro k _ hkept
    simp only [Function.comp_apply, placementAt_of_isKeptAt hkept]
  · intro k _ hkept
    simp only [Function.comp_apply]
    have hkept' : ¬ (placementAt tokens mentions k).isKept = true := Bool.eq_false_iff.1 hkept
    obtain hplace | ⟨i, hplace⟩ := Placement.eq_of_not_isKept hkept'
    · rw [hplace]
      exact ⟨_, rfl, .unaligned (Placement.ofCover_eq_unaligned hplace)⟩
    · -- the token that is named is gone, so an earlier kept mention covers it
      rw [hplace]
      obtain ⟨hi, htaken, hleast⟩ :=
        Placement.ofCover_eq_contested (pairwise_cover tokens mentions[k]) hplace
      obtain ⟨t, ht, _⟩ := mem_cover.1 hi
      obtain ⟨j, hjk, hj, hij⟩ := mem_takenBefore.1 htaken
      refine ⟨.contested mentions[k] t, by simp only [ht, Option.map_some],
        .contested hi ⟨hjk, hj, hij⟩ ?_ ht⟩
      intro i' hi' j' hjk' hj' hij'
      exact hleast i' hi' (mem_takenBefore.2 ⟨j', hjk', hj', hij'⟩)

end Places

/-- Mentions are chosen one after the other: one is kept if it covers some token and shares none
with a mention kept before it.  Those that are kept take all the tokens they cover, the labels and
tags of a token are those of the one kept mention that covers it, and every mention that is not kept
is reported once. -/
theorem keptSpans_greedy (tokens : List Token) (mentions : List Mention) :
    (∀ m : Mention, (cover tokens m).Pairwise (· < ·) ∧ ∀ i, i ∈ cover tokens m ↔
      ∃ t, tokens[i]? = some t ∧ t.start < m.stop ∧ m.start < t.stop) ∧
    ∃ kept : Fin mentions.length → Bool,
      (∀ k, kept k = true ↔ cover tokens mentions[k] ≠ [] ∧ ∀ j < k, kept j = true →
        (cover tokens mentions[j]).Disjoint (cover tokens mentions[k])) ∧
      keptSpans tokens mentions =
        ((List.finRange mentions.length).filter kept).map
          (fun k => ⟨mentions[k], cover tokens mentions[k]⟩) ∧
      (∀ i < tokens.length,
        (∃ k, (kept k = true ∧ i ∈ cover tokens mentions[k]) ∧
          (∀ j, kept j = true ∧ i ∈ cover tokens mentions[j] → j = k) ∧
          (entityLabels tokens mentions)[i]? = some mentions[k].entity ∧
          ∃ b : Boundary, (boundaryTags tokens mentions)[i]? = some (b.tag mentions[k].entity)) ∨
        (∀ k, kept k = true → i ∉ cover tokens mentions[k]) ∧
          (entityLabels tokens mentions)[i]? = some noEntity ∧
          (boundaryTags tokens mentions)[i]? = some noEntity) ∧
      List.Forall₂ (Reported tokens mentions kept)
        ((List.finRange mentions.length).filter (!kept ·)) (alignmentWarnings tokens mentions) := by
  refine ⟨?_, isKeptAt tokens mentions, fun k => isKeptAt_iff, keptSpans_eq_map, ?_,
    forall₂_reported tokens mentions⟩
  · intro m
    refine ⟨pairwise_cover tokens m, ?_⟩
    intro i
    simp [mem_cover, Token.overlaps]
  · -- labels and tags are read off the owner of the token
    intro i hi
    rw [entityLabels_eq_map, boundaryTags_eq_map, List.getElem?_map, List.getElem?_map,
      List.getElem?_range hi, Option.map_some, Option.map_some]
    by_cases hcovered : ∃ k, isKeptAt tokens mentions k = true ∧ i ∈ cover tokens mentions[k]
    · obtain ⟨k, hkept, hik⟩ := hcovered
      refine .inl ⟨k, ⟨hkept, hik⟩, ?_, ?_⟩
      · intro j hj
        exact eq_of_mem_cover hj.1 hkept hj.2 hik
      · rw [owner?_keptSpans_of_mem hkept hik]
        exact ⟨rfl, _, rfl⟩
    · have hfree : ∀ k, isKeptAt tokens mentions k = true → i ∉ cover tokens mentions[k] :=
        fun k hkept hik => hcovered ⟨k, hkept, hik⟩
      rw [owner?_keptSpans_eq_none hfree]
      exact .inr ⟨hfree, rfl, rfl⟩

/-- A mention that is not kept blocks nobody: the second one loses a token to the first, and leaves
the other token it covers to the last.  The third covers no token. -/
theorem keptSpans_greedy_newYork :
    let tokens : List Token := [⟨"new", 0, 3⟩, ⟨"york", 4, 8⟩, ⟨"city", 9, 13⟩]
    let mentions : List Mention := [⟨0, 8, "new york", "place", none, none⟩,
      ⟨4, 13, "york city", "team", none, none⟩, ⟨20, 25, "far", "place", none, none⟩,
      ⟨9, 13, "city", "kind", none, none⟩]
    1 < tokens.length ∧ (entityLabels tokens mentions)[1]? = some "place" ∧
      ∃ kept : Fin mentions.length → Bool,
        (kept 0 = true ∧ kept 1 = false ∧ kept 2 = false ∧ kept 3 = true) ∧
        List.Forall₂ (Reported tokens mentions kept) [1, 2]
          (alignmentWarnings tokens mentions) := by
  intro tokens mentions
  obtain ⟨_, kept, hkept, _, hlabels, hreported⟩ := keptSpans_greedy tokens mentions
  have h0 : kept 0 = true := (hkept 0).2 ⟨by decide, fun j hj => absurd hj (Nat.not_lt_zero j)⟩
  have h1 : kept 1 = false := by
    refine Bool.eq_false_iff.2 fun h => ?_
    have hshared : 1 ∈ cover tokens mentions[0] := by decide
    exact ((hkept 1).1 h).2 0 (by decide) h0 hshared (by decide)
  have h2 : kept 2 = false := Bool.eq_false_iff.2 fun h => ((hkept 2).1 h).1 (by decide)
  have h3 : kept 3 = true := by
    refine (hkept 3).2 ⟨by decide, ?_⟩
    intro j hj hkeptj
    match j with
    | 0 =>
      have hapart : ∀ i ∈ cover tokens mentions[0], i ∉ cover tokens mentions[3] := by decide
      exact fun i => hapart i
    | 1 => exact absurd hkeptj (by simp [h1])
    | 2 => exact absurd hkeptj (by simp [h2])
    | 3 => exact absurd hj (Nat.lt_irrefl 3)
  have hlt : 1 < tokens.length := by decide
  refine ⟨hlt, ?_, kept, ⟨h0, h1, h2, h3⟩, ?_⟩
  · obtain ⟨k, _, hunique, hlabel, _⟩ | ⟨hfree, _⟩ := hlabels 1 hlt
    · rw [hlabel, ← hunique 0 ⟨h0, by decide⟩]
      rfl
    · exact absurd (by decide) (hfree 0 h0)
  · have hdropped : (List.finRange mentions.length).filter (!kept ·) = [1, 2] := by
      have hall : List.finRange mentions.length = [0, 1, 2, 3] := by decide
      simp [hall, h0, h1, h2, h3]
    rwa [hdropped] at hreported

/-! ## Tokens that several mentions cover

Such a token goes to the first of them that is kept.  That need not be the first one that covers it:
a mention that loses one of its tokens is dropped as a whole, and leaves the others to the mentions
behind it, or to none at all. -/

/-- The first place that has a property. -/
structure IsFirst {n : Nat} (P : Fin n → Prop) (k : Fin n) : Prop where
  holds : P k
  before : ∀ j < k, ¬ P j

section Contested

variable (tokens : List Token) (mentions : List Mention)

/-- At least two mentions cover the token. -/
def Contested (i : Nat) : Prop :=
  ∃ j k : Fin mentions.length, j < k ∧ i ∈ cover tokens mentions[j] ∧ i ∈ cover tokens mentions[k]

variable {tokens mentions} {i : Nat}

/-- A kept mention is the first one that is kept and covers the token, being the only one. -/
theorem isFirst_of_isKeptAt {k : Fin mentions.length}
    (hkept : isKeptAt tokens mentions k = true) (hi : i ∈ cover tokens mentions[k]) :
    IsFirst (fun k => isKeptAt tokens mentions k = true ∧ i ∈ cover tokens mentions[k]) k where
  holds := ⟨hkept, hi⟩
  before := by
    intro j hjk hj
    exact absurd (eq_of_mem_cover hj.1 hkept hj.2 hi) (Fin.ne_of_lt hjk)

/-- The first mention that covers a token gets it, unless it loses another of its tokens to an
earlier mention. -/
theorem label_of_isFirst {k : Fin mentions.length}
    (hfirst : IsFirst (fun k : Fin mentions.length => i ∈ cover tokens mentions[k]) k) :
    isKeptAt tokens mentions k = true ∧
        (entityLabels tokens mentions)[i]? = some mentions[k].entity ∨
      isKeptAt tokens mentions k = false ∧ ∃ j < k, isKeptAt tokens mentions j = true ∧
        ∃ i' ≠ i, i' ∈ cover tokens mentions[j] ∧ i' ∈ cover tokens mentions[k] := by
  obtain ⟨hi, hbefore⟩ := hfirst
  cases hkept : isKeptAt tokens mentions k with
  | true => exact .inl ⟨rfl, getElem?_writeSpans_of_isKeptAt _ hkept hi⟩
  | false =>
    obtain ⟨j, hjk, hj, i', hik, hij⟩ := exists_taken_of_not_isKeptAt hkept hi
    -- the earlier mention does not cover the token itself
    have hne : i' ≠ i := fun heq => hbefore j hjk (heq ▸ hij)
    exact .inr ⟨rfl, j, hjk, hj, i', hne, hij, hik⟩

end Contested

/-- A token that several mentions cover has the label of the first of them that is kept, and none if
they are all dropped.  A mention is kept if it covers some token and shares none with an earlier one
that is kept; so the first mention that covers the token gives the label, unless it shares another
of its tokens with an earlier one that is kept. -/
theorem label_of_contested (tokens : List Token) (mentions : List Mention) {i : Nat}
    (hcontested : Contested tokens mentions i) :
    ∃ kept : Fin mentions.length → Bool,
      (∀ k, kept k = true ↔ cover tokens mentions[k] ≠ [] ∧ ∀ j < k, kept j = true →
        (cover tokens mentions[j]).Disjoint (cover tokens mentions[k])) ∧
      ((∃ k, IsFirst (fun k => kept k = true ∧ i ∈ cover tokens mentions[k]) k ∧
          (entityLabels tokens mentions)[i]? = some mentions[k].entity) ∨
        (∀ k, i ∈ cover tokens mentions[k] → kept k = false) ∧
          (entityLabels tokens mentions)[i]? = some noEntity) ∧
      ∀ k, IsFirst (fun k : Fin mentions.length => i ∈ cover tokens mentions[k]) k →
        kept k = true ∧ (entityLabels tokens mentions)[i]? = some mentions[k].entity ∨
        kept k = false ∧ ∃ j < k, kept j = true ∧
          ∃ i' ≠ i, i' ∈ cover tokens mentions[j] ∧ i' ∈ cover tokens mentions[k] := by
  refine ⟨isKeptAt tokens mentions, fun k => isKeptAt_iff, ?_, fun k => label_of_isFirst⟩
  by_cases hkept : ∃ k, isKeptAt tokens mentions k = true ∧ i ∈ cover tokens mentions[k]
  · obtain ⟨k, hkept, hi⟩ := hkept
    exact .inl ⟨k, isFirst_of_isKeptAt hkept hi, getElem?_writeSpans_of_isKeptAt _ hkept hi⟩
  · have hfree : ∀ k, isKeptAt tokens mentions k = true → i ∉ cover tokens mentions[k] :=
      fun k hk hi => hkept ⟨k, hk, hi⟩
    obtain ⟨j, _, _, hij, _⟩ := hcontested
    refine .inr ⟨?_, getElem?_writeSpans_of_free _ (lt_length_of_mem_cover hij) hfree⟩
    intro k hi
    exact Bool.eq_false_iff.2 fun hk => hfree k hk hi

/-- Three mentions in "new york": the second one covers both words. -/
private abbrev newYork : List Mention :=
  [⟨0, 3, "new", "age", none, none⟩, ⟨0, 8, "new york", "city", none, none⟩,
    ⟨4, 8, "york", "county", none, none⟩]

/-- The first mention that covers the second word loses the first word, and leaves the second one to
the last mention. -/
theorem label_of_contested_newYork :
    let tokens : List Token := [⟨"new", 0, 3⟩, ⟨"york", 4, 8⟩]
    Contested tokens newYork 1 ∧ (entityLabels tokens newYork)[1]? = some "county" ∧
      ∃ kept : Fin newYork.length → Bool, kept 1 = false ∧
        ∃ k, IsFirst (fun k => kept k = true ∧ 1 ∈ cover tokens newYork[k]) k ∧
          newYork[k].entity = "county" := by
  intro tokens
  have hcontested : Contested tokens newYork 1 := ⟨1, 2, by decide, by decide, by decide⟩
  have hcounty : (entityLabels tokens newYork)[1]? = some "county" := by decide
  obtain ⟨kept, _, hlabel, hfirst⟩ := label_of_contested tokens newYork hcontested
  refine ⟨hcontested, hcounty, kept, ?_, ?_⟩
  · obtain ⟨_, hcity⟩ | ⟨hdropped, _⟩ := hfirst 1 ⟨by decide, by decide⟩
    · exact absurd (hcounty.symm.trans hcity) (by decide)
    · exact hdropped
  · obtain ⟨k, hk, hentity⟩ | ⟨_, hnone⟩ := hlabel
    · exact ⟨k, hk, Option.some.inj (hentity.symm.trans hcounty)⟩
    · exact absurd (hcounty.symm.trans hnone) (by decide)

/-- The first mention that covers a contested token need not give its label, even if every mention
fits into the text. -/
theorem not_label_of_first :
    ¬ ∀ (text : String) (mentions : List Mention), (∀ m ∈ mentions, m.FitsIn text.length) →
      ∀ (i : Nat) (k : Fin mentions.length), Contested (tokenize text []) mentions i →
        IsFirst (fun k : Fin mentions.length => i ∈ cover (tokenize text []) mentions[k]) k →
        (entityLabels (tokenize text []) mentions)[i]? = some mentions[k].entity := by
  intro hall
  have htokens : tokenize "new york" [] = [⟨"new", 0, 3⟩, ⟨"york", 4, 8⟩] := by decide +kernel
  have hlabel := hall "new york" newYork (by decide) 1 1
  rw [htokens] at hlabel
  have hcontested : Contested [⟨"new", 0, 3⟩, ⟨"york", 4, 8⟩] newYork 1 :=
    ⟨1, 2, by decide, by decide, by decide⟩
  exact absurd (hlabel hcontested ⟨by decide, by decide⟩) (by decide)

end TargetEncoding
