import TargetEncoding.BoundaryTag

/-!
# Spans and the tokens they own

The mentions that are kept never share a token, so the labels that spans write do not overwrite one
another and each token ends up with the label of the one span that takes it.  `WellPlaced` collects
what is known of the kept spans; everything about labels and tags below needs no more than that.

## Key results

- `mem_cover`: a mention covers the tokens that overlap it
- `wellPlaced_keptSpans`: what is known of the spans that are kept
- `owner?_eq_some_iff`: the owner of a token is the only span that takes it
- `writeSpans_eq_map`: after all spans are written, a token has the label of its owner
- `writeSpans_perm`: the order in which separate spans are written does not matter
- `entityLabels_eq_map`, `boundaryTags_eq_map`: the labels and the tags, token by token
-/

namespace TargetEncoding

/-! ## The tokens that a mention covers -/

/-- A mention covers the tokens that overlap it. -/
theorem mem_cover {tokens : List Token} {m : Mention} {i : Nat} :
    i ∈ cover tokens m ↔ ∃ t, tokens[i]? = some t ∧ t.overlaps m.start m.stop = true := by
  simp only [cover, List.mem_map, List.mem_filter, Prod.exists]
  constructor
  · intro hcovered
    obtain ⟨t, j, ⟨hmem, hover⟩, rfl⟩ := hcovered
    exact ⟨t, List.mk_mem_zipIdx_iff_getElem?.1 hmem, hover⟩
  · intro hover
    obtain ⟨t, hget, hover⟩ := hover
    exact ⟨t, i, ⟨List.mk_mem_zipIdx_iff_getElem?.2 hget, hover⟩, rfl⟩

theorem lt_length_of_mem_cover {tokens : List Token} {m : Mention} {i : Nat}
    (h : i ∈ cover tokens m) : i < tokens.length := by
  obtain ⟨t, hget, _⟩ := mem_cover.1 h
  exact (List.getElem?_eq_some_iff.1 hget).1

/-- The covered tokens are listed in ascending order. -/
theorem pairwise_cover (tokens : List Token) (m : Mention) :
    (cover tokens m).Pairwise (· < ·) := by
  have hsub : (cover tokens m).Sublist (tokens.zipIdx.map Prod.snd) :=
    List.filter_sublist.map Prod.snd
  rw [List.zipIdx_map_snd] at hsub
  exact List.Pairwise.sublist hsub List.pairwise_lt_range'

/-! ## The spans that are kept -/

/-- A mention is kept exactly if it covers some token and no taken one; then it takes them all. -/
theorem Placement.ofCover_eq_kept_iff {cover taken taking : List Nat} :
    Placement.ofCover cover taken = .kept taking ↔
      taking = cover ∧ cover ≠ [] ∧ ∀ i ∈ cover, i ∉ taken := by
  unfold Placement.ofCover
  split
  · rename_i hempty
    simp [List.isEmpty_iff.1 hempty]
  · rename_i hne
    split
    · rename_i i hfind
      have hi := List.find?_some hfind
      have hmem := List.mem_of_find?_eq_some hfind
      simp only [reduceCtorEq, false_iff, not_and]
      intro _ _ hfree
      exact hfree i hmem (List.contains_iff_mem.1 hi)
    · rename_i hfind
      have hfree : ∀ i ∈ cover, i ∉ taken := by
        simpa [List.find?_eq_none] using hfind
      have hne' : cover ≠ [] := fun h => hne (List.isEmpty_iff.2 h)
      simp only [Placement.kept.injEq]
      exact ⟨fun h => ⟨h.symm, hne', hfree⟩, fun h => h.1.symm⟩

/-- The spans that are kept when the tokens `taken` are gone already. -/
def spansFrom (tokens : List Token) (taken : List Nat) : List Mention → List Span
  | [] => []
  | m :: ms =>
    match Placement.ofCover (cover tokens m) taken with
    | .kept cover => ⟨m, cover⟩ :: spansFrom tokens (taken ++ cover) ms
    | _ => spansFrom tokens taken ms

/-- The kept spans, mention by mention. -/
theorem keptSpans_eq_spansFrom (tokens : List Token) (mentions : List Mention) :
    keptSpans tokens mentions = spansFrom tokens [] mentions := by
  rw [keptSpans, placements]
  -- induction on the mentions, over all sets of tokens that may be gone before
  generalize [] = taken
  induction mentions generalizing taken with
  | nil => rfl
  | cons m ms ih =>
    rw [placementsFrom, spansFrom, List.zip_cons_cons]
    cases hplace : Placement.ofCover (cover tokens m) taken with
    | kept cover => simp only [List.filterMap_cons, Placement.takes, ih]
    | unaligned => simp only [List.filterMap_cons, Placement.takes, List.append_nil, ih]
    | contested i => simp only [List.filterMap_cons, Placement.takes, List.append_nil, ih]

/-- No token belongs to two of the spans. -/
def Separate (spans : List Span) : Prop :=
  spans.Pairwise fun a b => ∀ i ∈ a.cover, i ∉ b.cover

/-- What is known of spans that are kept: each takes all the tokens it covers, and takes some, and
no token is taken twice. -/
structure WellPlaced (tokens : List Token) (spans : List Span) : Prop where
  cover_eq : ∀ s ∈ spans, s.cover = cover tokens s.mention
  cover_ne_nil : ∀ s ∈ spans, s.cover ≠ []
  separate : Separate spans

/-- Spans that are placed later stay clear of the tokens that are gone. -/
private theorem wellPlaced_spansFrom (tokens : List Token) (taken : List Nat)
    (mentions : List Mention) :
    WellPlaced tokens (spansFrom tokens taken mentions) ∧
      ∀ s ∈ spansFrom tokens taken mentions, ∀ i ∈ s.cover, i ∉ taken := by
  induction mentions generalizing taken with
  | nil => exact ⟨⟨nofun, nofun, List.Pairwise.nil⟩, nofun⟩
  | cons m ms ih =>
    rw [spansFrom]
    split
    · rename_i taking hkept
      obtain ⟨rfl, hne, hfree⟩ := Placement.ofCover_eq_kept_iff.1 hkept
      -- the later spans stay clear of the tokens gone before and of those taken now
      obtain ⟨hplaced, hclear⟩ := ih (taken ++ cover tokens m)
      have hclear' : ∀ s ∈ spansFrom tokens (taken ++ cover tokens m) ms, ∀ i ∈ s.cover,
          i ∉ taken ∧ i ∉ cover tokens m := by
        intro s hs i hi
        simpa using hclear s hs i hi
      refine ⟨⟨?_, ?_, ?_⟩, ?_⟩
      · exact List.forall_mem_cons.2 ⟨rfl, hplaced.cover_eq⟩
      · exact List.forall_mem_cons.2 ⟨hne, hplaced.cover_ne_nil⟩
      · refine List.Pairwise.cons ?_ hplaced.separate
        intro s hs i hi hi'
        exact (hclear' s hs i hi').2 hi
      · refine List.forall_mem_cons.2 ⟨hfree, ?_⟩
        intro s hs i hi
        exact (hclear' s hs i hi).1
    · exact ih taken

/-- The spans that are kept are well placed. -/
theorem wellPlaced_keptSpans (tokens : List Token) (mentions : List Mention) :
    WellPlaced tokens (keptSpans tokens mentions) := by
  rw [keptSpans_eq_spansFrom]
  exact (wellPlaced_spansFrom tokens [] mentions).1

/-! ## The owner of a token -/

/-- The span that takes the token with index `i`. -/
def owner? (spans : List Span) (i : Nat) : Option Span :=
  spans.find? (·.cover.contains i)

theorem owner?_eq_none_iff {spans : List Span} {i : Nat} :
    owner? spans i = none ↔ ∀ s ∈ spans, i ∉ s.cover := by
  simp [owner?, List.find?_eq_none]

theorem owner?_cons_of_mem {s : Span} {i : Nat} (spans : List Span) (hi : i ∈ s.cover) :
    owner? (s :: spans) i = some s := by
  simp [owner?, hi]

theorem owner?_cons_of_not_mem {s : Span} {i : Nat} (spans : List Span) (hi : i ∉ s.cover) :
    owner? (s :: spans) i = owner? spans i := by
  simp [owner?, hi]

/-- The owner of a token is the only span that takes it. -/
theorem owner?_eq_some_iff {spans : List Span} (hsep : Separate spans) {i : Nat} {s : Span} :
    owner? spans i = some s ↔ s ∈ spans ∧ i ∈ s.cover := by
  induction spans with
  | nil => simp [owner?]
  | cons a spans ih =>
    obtain ⟨hclear, hrest⟩ := List.pairwise_cons.1 hsep
    by_cases hi : i ∈ a.cover
    · -- the first span takes the token, so none of the later ones does
      rw [owner?_cons_of_mem spans hi]
      constructor
      · intro hown
        obtain rfl := Option.some.inj hown
        exact ⟨List.mem_cons_self, hi⟩
      · intro htakes
        obtain ⟨hs, his⟩ := htakes
        obtain rfl | hs := List.mem_cons.1 hs
        · rfl
        · exact absurd his (hclear s hs i hi)
    · -- the first span does not take the token, so the owner is further back
      rw [owner?_cons_of_not_mem spans hi, ih hrest, List.mem_cons]
      constructor
      · intro htakes
        exact ⟨.inr htakes.1, htakes.2⟩
      · intro htakes
        obtain ⟨rfl | hs, his⟩ := htakes
        · exact absurd his hi
        · exact ⟨hs, his⟩

theorem Separate.perm {spans spans' : List Span} (hsep : Separate spans)
    (hperm : spans.Perm spans') : Separate spans' :=
  hperm.pairwise hsep fun h i hi hi' => h i hi' hi

/-- Which span owns a token does not depend on the order of the spans. -/
theorem owner?_perm {spans spans' : List Span} (hsep : Separate spans)
    (hperm : spans.Perm spans') (i : Nat) : owner? spans i = owner? spans' i := by
  apply Option.ext
  intro s
  rw [owner?_eq_some_iff hsep, owner?_eq_some_iff (hsep.perm hperm), hperm.mem_iff]

/-! ## What the spans write -/

/-- Writing a span changes the labels of the tokens it takes, and no others. -/
theorem getElem?_writeSpan (label : Span → Nat → String) (labels : List String) (span : Span)
    (j : Nat) :
    (writeSpan label labels span)[j]? =
      if j ∈ span.cover then labels[j]?.map fun _ => label span j else labels[j]? := by
  unfold writeSpan
  induction span.cover generalizing labels with
  | nil => simp
  | cons i is ih =>
    rw [List.foldl_cons, ih, List.getElem?_set]
    by_cases hij : i = j
    · -- this token is written now; writing it again later changes nothing
      subst hij
      by_cases hlt : i < labels.length <;> simp [hlt]
    · have hji : j ≠ i := Ne.symm hij
      simp [hij, hji]

/-- What separate spans write stays: a token ends up with the label of its owner. -/
private theorem getElem?_foldl_writeSpan (label : Span → Nat → String) {spans : List Span}
    (hsep : Separate spans) (labels : List String) (j : Nat) :
    (spans.foldl (writeSpan label) labels)[j]? =
      match owner? spans j with
      | some s => labels[j]?.map fun _ => label s j
      | none => labels[j]? := by
  induction spans generalizing labels with
  | nil => rfl
  | cons a spans ih =>
    obtain ⟨hclear, hrest⟩ := List.pairwise_cons.1 hsep
    rw [List.foldl_cons, ih hrest, getElem?_writeSpan]
    by_cases hj : j ∈ a.cover
    · -- the later spans leave the label that the first one writes alone
      have hnone : owner? spans j = none :=
        owner?_eq_none_iff.2 fun s hs => hclear s hs j hj
      simp only [hnone, owner?_cons_of_mem spans hj, if_pos hj]
    · simp only [owner?_cons_of_not_mem spans hj, if_neg hj]

/-- After all spans are written, a token has the label of its owner. -/
theorem writeSpans_eq_map (label : Span → Nat → String) (count : Nat) {spans : List Span}
    (hsep : Separate spans) :
    writeSpans label count spans =
      (List.range count).map fun i => (owner? spans i).elim noEntity (label · i) := by
  apply List.ext_getElem?
  intro j
  rw [writeSpans, getElem?_foldl_writeSpan label hsep]
  by_cases hj : j < count
  · cases howner : owner? spans j <;> simp [hj, howner]
  · cases owner? spans j <;> simp [hj]

/-- Separate spans write the same in any order. -/
theorem writeSpans_perm (label : Span → Nat → String) (count : Nat) {spans spans' : List Span}
    (hsep : Separate spans) (hperm : spans.Perm spans') :
    writeSpans label count spans = writeSpans label count spans' := by
  rw [writeSpans_eq_map label count hsep, writeSpans_eq_map label count (hsep.perm hperm)]
  simp only [owner?_perm hsep hperm]

/-- The entity of each token, token by token. -/
theorem entityLabels_eq_map (tokens : List Token) (mentions : List Mention) :
    entityLabels tokens mentions =
      (List.range tokens.length).map fun i =>
        (owner? (keptSpans tokens mentions) i).elim noEntity (·.mention.entity) :=
  writeSpans_eq_map _ _ (wellPlaced_keptSpans tokens mentions).separate

/-- The boundary tag of each token, token by token. -/
theorem boundaryTags_eq_map (tokens : List Token) (mentions : List Mention) :
    boundaryTags tokens mentions =
      (List.range tokens.length).map fun i =>
        (owner? (keptSpans tokens mentions) i).elim noEntity (·.boundaryTag i) :=
  writeSpans_eq_map _ _ (wellPlaced_keptSpans tokens mentions).separate

end TargetEncoding
