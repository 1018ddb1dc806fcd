import TargetEncoding.Proofs.Alignment
import TargetEncoding.Proofs.BoundaryTag
import TargetEncoding.Proofs.ForStd
import TargetEncoding.Proofs.Token

/-!
# Boundary tags as rows of blocks

A row of boundary tags is a row of blocks, each of them one token outside every entity or all the
tokens of one entity.  Blocks can be told from their tags without looking ahead, so a row of tags is
cut into blocks in one way at most.  The tags that are computed for tokens in order can be cut:
there a mention covers a stretch without gaps, so the kept spans lie one behind the other, and each
of them is a block.

## Key results

- `Block.flatMap_tags_inj`: the blocks are determined by their tags
- `exists_cover_eq_range'`: tokens in order are covered without gaps
- `exists_blocks`: spans that lie one behind the other are the entities of a row of blocks
- `boundaryTags_blocks`: boundary tags are cut into blocks, and the entities are the kept mentions
-/

namespace TargetEncoding

/-! ## Blocks -/

/-- A stretch of tokens that is tagged as a whole. -/
inductive Block where
  /-- One token outside every entity. -/
  | outside
  /-- An entity of one token. -/
  | single (entity : String)
  /-- An entity of several tokens, with so many between the first and the last. -/
  | several (entity : String) (inside : Nat)
deriving DecidableEq

namespace Block

/-- The tags of the tokens. -/
def tags : Block → List String
  | outside => [noEntity]
  | single e => [Boundary.unit.tag e]
  | several e inside =>
    Boundary.first.tag e ::
      (List.replicate inside (Boundary.inside.tag e) ++ [Boundary.last.tag e])

/-- The number of tokens. -/
def size : Block → Nat
  | outside => 1
  | single _ => 1
  | several _ inside => inside + 2

/-- The entity that the tokens belong to. -/
def entity? : Block → Option String
  | outside => none
  | single e => some e
  | several e _ => some e

/-- The entities of a row of blocks that begins at token `offset`: their names, from left to right,
with the indices of their tokens. -/
def entitiesFrom (offset : Nat) : List Block → List (String × List Nat)
  | [] => []
  | b :: bs =>
    match b.entity? with
    | none => entitiesFrom (offset + b.size) bs
    | some e => (e, List.range' offset b.size) :: entitiesFrom (offset + b.size) bs

theorem entitiesFrom_replicate_append (offset n : Nat) (bs : List Block) :
    entitiesFrom offset (List.replicate n outside ++ bs) = entitiesFrom (offset + n) bs := by
  induction n generalizing offset with
  | zero => rfl
  | succ n ih =>
    have hnext : offset + 1 + n = offset + (n + 1) := by omega
    rw [List.replicate_succ, List.cons_append, ← hnext, ← ih]
    rfl

theorem entitiesFrom_cons_of_entity {b : Block} {e : String} (h : b.entity? = some e)
    (offset : Nat) (bs : List Block) :
    entitiesFrom offset (b :: bs) =
      (e, List.range' offset b.size) :: entitiesFrom (offset + b.size) bs := by
  simp only [entitiesFrom, h]

theorem flatMap_replicate_outside (n : Nat) :
    (List.replicate n outside).flatMap tags = List.replicate n noEntity := by
  induction n with
  | zero => rfl
  | succ n ih => rw [List.replicate_succ, List.flatMap_cons, ih]; rfl

/-! ## Blocks are determined by their tags -/

theorem tags_ne_nil (b : Block) : b.tags ≠ [] := by
  cases b <;> simp [tags]

/-- Where a block ends shows in its tags. -/
theorem tags_append_inj {b c : Block} {xs ys : List String}
    (h : b.tags ++ xs = c.tags ++ ys) : b = c ∧ xs = ys := by
  -- the first tag tells the three kinds of block apart
  cases b with
  | outside =>
    cases c with
    | outside => exact ⟨rfl, (List.cons.inj h).2⟩
    | single f => exact absurd (List.cons.inj h).1.symm (Boundary.tag_ne_noEntity _ f)
    | several f n => exact absurd (List.cons.inj h).1.symm (Boundary.tag_ne_noEntity _ f)
  | single e =>
    cases c with
    | outside => exact absurd (List.cons.inj h).1 (Boundary.tag_ne_noEntity _ e)
    | single f =>
      obtain ⟨htag, hrest⟩ := List.cons.inj h
      obtain ⟨-, rfl⟩ := Boundary.tag_inj.1 htag
      exact ⟨rfl, hrest⟩
    | several f n => exact absurd (Boundary.tag_inj.1 (List.cons.inj h).1).1 (by decide)
  | several e m =>
    cases c with
    | outside => exact absurd (List.cons.inj h).1 (Boundary.tag_ne_noEntity _ e)
    | single f => exact absurd (Boundary.tag_inj.1 (List.cons.inj h).1).1 (by decide)
    | several f n =>
      simp only [tags, List.cons_append, List.append_assoc, List.cons.injEq] at h
      obtain ⟨htag, hrest⟩ := h
      obtain ⟨-, rfl⟩ := Boundary.tag_inj.1 htag
      -- and the last tag of an entity is none of those before it
      have hne : Boundary.inside.tag e ≠ Boundary.last.tag e :=
        fun heq => absurd (Boundary.tag_inj.1 heq).1 (by decide)
      obtain ⟨rfl, hxs⟩ := List.replicate_append_cons_inj hne hrest
      exact ⟨rfl, hxs⟩

/-- A row of tags is cut into blocks in one way at most. -/
theorem flatMap_tags_inj {bs cs : List Block} (h : bs.flatMap tags = cs.flatMap tags) :
    bs = cs := by
  -- induction on one row: the other one must begin with the same block
  induction bs generalizing cs with
  | nil =>
    cases cs with
    | nil => rfl
    | cons c cs =>
      rw [List.flatMap_nil, List.flatMap_cons] at h
      exact absurd (List.append_eq_nil_iff.1 h.symm).1 c.tags_ne_nil
  | cons b bs ih =>
    cases cs with
    | nil =>
      rw [List.flatMap_nil, List.flatMap_cons] at h
      exact absurd (List.append_eq_nil_iff.1 h).1 b.tags_ne_nil
    | cons c cs =>
      rw [List.flatMap_cons, List.flatMap_cons] at h
      obtain ⟨rfl, hrest⟩ := tags_append_inj h
      rw [ih hrest]

end Block

/-! ## Tokens in order are covered without gaps -/

/-- What holds between the elements of a list in order, and of each with itself, holds also if the
first place is the second. -/
private theorem rel_getElem_of_le {tokens : List Token} {r : Token → Token → Prop}
    (hrefl : ∀ t, r t t) (hpair : tokens.Pairwise r) {i j : Nat} {s t : Token} (hij : i ≤ j)
    (hs : tokens[i]? = some s) (ht : tokens[j]? = some t) : r s t := by
  obtain ⟨hi, rfl⟩ := List.getElem?_eq_some_iff.1 hs
  obtain ⟨hj, rfl⟩ := List.getElem?_eq_some_iff.1 ht
  by_cases heq : i = j
  · subst heq
    exact hrefl _
  · exact List.pairwise_iff_getElem.1 hpair i j hi hj (by omega)

/-- If two tokens are covered by a mention, so are those between them. -/
theorem mem_cover_of_between {tokens : List Token} (horder : InOrder tokens) {m : Mention}
    {i j x : Nat} (hi : i ∈ cover tokens m) (hj : j ∈ cover tokens m) (hix : i ≤ x)
    (hxj : x ≤ j) : x ∈ cover tokens m := by
  obtain ⟨s, hs, hsover⟩ := mem_cover.1 hi
  obtain ⟨t, ht, htover⟩ := mem_cover.1 hj
  have hx : x < tokens.length := Nat.lt_of_le_of_lt hxj (lt_length_of_mem_cover hj)
  have hu := List.getElem?_eq_getElem hx
  -- the token starts no later than the second one, and stops no earlier than the first one
  have hstart : tokens[x].start ≤ t.start :=
    rel_getElem_of_le (fun t => Nat.le_refl t.start) horder.starts hxj hu ht
  have hstop : s.stop ≤ tokens[x].stop :=
    rel_getElem_of_le (fun t => Nat.le_refl t.stop) horder.stops hix hs hu
  refine mem_cover.2 ⟨tokens[x], hu, ?_⟩
  simp only [Token.overlaps, Bool.and_eq_true, decide_eq_true_eq] at hsover htover ⊢
  omega

/-- Tokens in order are covered without gaps. -/
theorem exists_cover_eq_range' {tokens : List Token} (horder : InOrder tokens) {m : Mention}
    (hne : cover tokens m ≠ []) : ∃ a k, cover tokens m = List.range' a (k + 1) :=
  List.eq_range'_of_pairwise_of_convex (pairwise_cover tokens m)
    (fun _ hi _ hj _ => mem_cover_of_between horder hi hj) hne

/-! ## The block of a span -/

/-- The boundary of a token in a stretch without gaps. -/
theorem Boundary.within_range' (a k i : Nat) :
    Boundary.within (List.range' a (k + 1)) i =
      if k = 0 then .unit
      else if a = i then .first
      else if a + k = i then .last
      else .inside := by
  have hhead : (List.range' a (k + 1)).head? = some a := by simp [List.head?_range']
  have hlast : (List.range' a (k + 1)).getLast? = some (a + k) := by
    simp [List.getLast?_range']
  have hone : a = a + k ↔ k = 0 := by omega
  simp only [Boundary.within, hhead, hlast, Option.some.injEq, hone]

/-- A span without gaps is tagged as a block. -/
theorem exists_block {s : Span} {a k : Nat} (hcover : s.cover = List.range' a (k + 1)) :
    ∃ b : Block, b.entity? = some s.mention.entity ∧ b.size = k + 1 ∧
      b.tags = s.cover.map s.boundaryTag := by
  have htag : ∀ i, s.boundaryTag i =
      (if k = 0 then Boundary.unit else if a = i then .first else if a + k = i then .last
        else .inside).tag s.mention.entity := by
    intro i
    rw [Span.boundaryTag, hcover, Boundary.within_range']
  rw [hcover]
  cases k with
  | zero => exact ⟨.single s.mention.entity, rfl, rfl, by simp [Block.tags, htag]⟩
  | succ k =>
    refine ⟨.several s.mention.entity k, rfl, rfl, ?_⟩
    have hsplit : List.range' a (k + 1 + 1) = a :: (List.range' (a + 1) k ++ [a + 1 + k]) := by
      rw [List.range'_succ, List.range'_1_concat]
    -- between the first and the last token the mark is always the same
    have hinside : (List.range' (a + 1) k).map s.boundaryTag =
        List.replicate k (Boundary.inside.tag s.mention.entity) := by
      rw [List.eq_replicate_iff, List.length_map, List.length_range']
      refine ⟨rfl, ?_⟩
      intro tag hmem
      obtain ⟨i, hi, rfl⟩ := List.mem_map.1 hmem
      have hbounds := List.mem_range'_1.1 hi
      have hfirst : a ≠ i := by omega
      have hlast : a + (k + 1) ≠ i := by omega
      simp [htag, hfirst, hlast]
    have hfirst : s.boundaryTag a = Boundary.first.tag s.mention.entity := by simp [htag]
    have hlast : s.boundaryTag (a + 1 + k) = Boundary.last.tag s.mention.entity := by
      have hne : a ≠ a + 1 + k := by omega
      have heq : a + (k + 1) = a + 1 + k := by omega
      simp [htag, hne, heq]
    rw [hsplit, List.map_cons, List.map_append, hinside, List.map_singleton, hfirst, hlast]
    rfl

/-! ## The blocks of spans that lie one behind the other -/

/-- All tokens of the first span are before those of the second. -/
def Span.Before (s t : Span) : Prop :=
  ∀ i ∈ s.cover, ∀ j ∈ t.cover, i < j

/-- The tag of a token: its boundary tag in the span that owns it. -/
def tagAt (spans : List Span) (i : Nat) : String :=
  (owner? spans i).elim noEntity (·.boundaryTag i)

/-- Where no span reaches, tokens are outside every entity. -/
private theorem map_tagAt_of_forall_not_mem {spans : List Span} {p n : Nat}
    (hfree : ∀ i, p ≤ i → i < p + n → ∀ s ∈ spans, i ∉ s.cover) :
    (List.range' p n).map (tagAt spans) = List.replicate n noEntity := by
  rw [List.eq_replicate_iff, List.length_map, List.length_range']
  refine ⟨rfl, ?_⟩
  intro tag hmem
  obtain ⟨i, hi, rfl⟩ := List.mem_map.1 hmem
  obtain ⟨hle, hlt⟩ := List.mem_range'_1.1 hi
  rw [tagAt, owner?_eq_none_iff.2 (hfree i hle hlt)]
  rfl

/-- The first span tags its own tokens. -/
private theorem map_tagAt_cover (s : Span) (spans : List Span) :
    s.cover.map (tagAt (s :: spans)) = s.cover.map s.boundaryTag := by
  apply List.map_congr_left
  intro i hi
  rw [tagAt, owner?_cons_of_mem spans hi]
  rfl

/-- The first span leaves other tokens alone. -/
private theorem map_tagAt_cons_of_forall_not_mem {s : Span} {indices : List Nat}
    (hfree : ∀ i ∈ indices, i ∉ s.cover) (spans : List Span) :
    indices.map (tagAt (s :: spans)) = indices.map (tagAt spans) := by
  apply List.map_congr_left
  intro i hi
  rw [tagAt, owner?_cons_of_not_mem spans (hfree i hi)]
  rfl

/-- Spans that lie one behind the other between the tokens `p` and `p + n` are the entities of a row
of blocks. -/
theorem exists_blocks {spans : List Span} {p n : Nat}
    (hrange : ∀ s ∈ spans, ∃ a k, s.cover = List.range' a (k + 1))
    (hbefore : spans.Pairwise Span.Before)
    (hbounds : ∀ s ∈ spans, ∀ i ∈ s.cover, p ≤ i ∧ i < p + n) :
    ∃ blocks : List Block,
      blocks.flatMap Block.tags = (List.range' p n).map (tagAt spans) ∧
      Block.entitiesFrom p blocks = spans.map fun s => (s.mention.entity, s.cover) := by
  -- induction on the spans; the tokens still to be cut are those behind the first span
  induction spans generalizing p n with
  | nil =>
    refine ⟨List.replicate n .outside, ?_, ?_⟩
    · have hfree : ∀ i, p ≤ i → i < p + n → ∀ s ∈ ([] : List Span), i ∉ s.cover := by simp
      rw [map_tagAt_of_forall_not_mem hfree, Block.flatMap_replicate_outside]
    · have hnil := Block.entitiesFrom_replicate_append p n []
      rwa [List.append_nil] at hnil
  | cons s spans ih =>
    obtain ⟨a, k, hcover⟩ := hrange s List.mem_cons_self
    obtain ⟨hfirst, hrest⟩ := List.pairwise_cons.1 hbefore
    have hmem : ∀ i, i ∈ s.cover ↔ a ≤ i ∧ i < a + (k + 1) := by
      intro i
      rw [hcover, List.mem_range'_1]
    have hlast : a + k ∈ s.cover := (hmem _).2 (by omega)
    have hpa := hbounds s List.mem_cons_self a ((hmem _).2 (by omega))
    have hpk := hbounds s List.mem_cons_self (a + k) hlast
    -- the later spans lie behind this one
    have hbehind : ∀ t ∈ spans, ∀ i ∈ t.cover,
        a + (k + 1) ≤ i ∧ i < a + (k + 1) + (p + n - (a + (k + 1))) := by
      intro t ht i hi
      have hafter := hfirst t ht (a + k) hlast i hi
      have hwithin := hbounds t (List.mem_cons_of_mem s ht) i hi
      omega
    obtain ⟨blocks, htags, hentities⟩ :=
      ih (fun t ht => hrange t (List.mem_cons_of_mem s ht)) hrest hbehind
    obtain ⟨b, hentity, hsize, hblock⟩ := exists_block hcover
    refine ⟨List.replicate (a - p) .outside ++ b :: blocks, ?_, ?_⟩
    · -- the tokens before the span, those of the span, and those behind it
      have hsplit := List.range'_eq_append_append (p := p) (n := n) (a := a) (l := k + 1)
        hpa.1 (by omega)
      have hgap : (List.range' p (a - p)).map (tagAt (s :: spans)) =
          List.replicate (a - p) noEntity := by
        refine map_tagAt_of_forall_not_mem ?_
        intro i hpi hia t ht hi
        obtain rfl | ht := List.mem_cons.1 ht
        · have := (hmem i).1 hi
          omega
        · have := hbehind t ht i hi
          omega
      have htail : ∀ i ∈ List.range' (a + (k + 1)) (p + n - (a + (k + 1))), i ∉ s.cover := by
        intro i hi
        have := (List.mem_range'_1.1 hi).1
        rw [hmem]
        omega
      rw [hsplit, List.map_append, List.map_append, hgap, ← hcover, map_tagAt_cover,
        map_tagAt_cons_of_forall_not_mem htail, List.flatMap_append, List.flatMap_cons,
        Block.flatMap_replicate_outside, hblock, htags]
    · have hgap : p + (a - p) = a := by omega
      rw [Block.entitiesFrom_replicate_append, hgap, Block.entitiesFrom_cons_of_entity hentity,
        hsize, hentities, List.map_cons, hcover]

/-- Separate spans without gaps can be put one behind the other. -/
theorem exists_perm_before {spans : List Span}
    (hrange : ∀ s ∈ spans, ∃ a k, s.cover = List.range' a (k + 1)) (hsep : Separate spans) :
    ∃ sorted : List Span, sorted.Perm spans ∧ sorted.Pairwise Span.Before := by
  -- sort by the first token
  let le (s t : Span) : Bool := decide (s.cover.headD 0 ≤ t.cover.headD 0)
  have hperm : (spans.mergeSort le).Perm spans := List.mergeSort_perm spans le
  have hsorted : (spans.mergeSort le).Pairwise fun s t => le s t :=
    List.pairwise_mergeSort (by simp only [le, decide_eq_true_eq]; omega)
      (by simp only [le, Bool.or_eq_true, decide_eq_true_eq]; omega) spans
  refine ⟨spans.mergeSort le, hperm, ?_⟩
  refine (hsorted.and (hsep.perm hperm.symm)).imp_of_mem ?_
  intro s t hs ht hboth i hi j hj
  obtain ⟨hle, hclear⟩ := hboth
  obtain ⟨a, k, hs⟩ := hrange s (hperm.mem_iff.1 hs)
  obtain ⟨b, l, ht⟩ := hrange t (hperm.mem_iff.1 ht)
  simp only [le, decide_eq_true_eq, hs, ht, List.range'_succ, List.headD_cons] at hle
  -- the second span begins later, and its first token is none of the first span
  have hb : b ∉ s.cover := fun hmem => hclear b hmem (by simp [ht])
  rw [hs, List.mem_range'_1] at hb hi
  rw [ht, List.mem_range'_1] at hj
  omega

/-- For tokens in order, as those of every text are, boundary tags are cut into blocks in exactly
one way, and the entities of the blocks are the mentions that are kept, each on exactly the tokens
that it covers. -/
theorem boundaryTags_blocks :
    (∀ text extra, InOrder (tokenize text extra)) ∧
    ∀ tokens, InOrder tokens → ∀ mentions,
      (boundaryTags tokens mentions).length = tokens.length ∧
      ∃ blocks : List Block,
        blocks.flatMap Block.tags = boundaryTags tokens mentions ∧
        (∀ blocks' : List Block,
          blocks'.flatMap Block.tags = boundaryTags tokens mentions → blocks' = blocks) ∧
        (Block.entitiesFrom 0 blocks).Perm ((keptSpans tokens mentions).map fun s =>
          (s.mention.entity, cover tokens s.mention)) := by
  refine ⟨inOrder_tokenize, ?_⟩
  intro tokens horder mentions
  refine ⟨length_boundaryTags tokens mentions, ?_⟩
  have hplaced := wellPlaced_keptSpans tokens mentions
  -- the kept spans have no gaps, so they can be put one behind the other and cut into blocks
  have hrange : ∀ s ∈ keptSpans tokens mentions, ∃ a k, s.cover = List.range' a (k + 1) := by
    intro s hs
    have hne := hplaced.cover_ne_nil s hs
    rw [hplaced.cover_eq s hs] at hne ⊢
    exact exists_cover_eq_range' horder hne
  obtain ⟨sorted, hperm, hbefore⟩ := exists_perm_before hrange hplaced.separate
  obtain ⟨blocks, htags, hentities⟩ := exists_blocks (p := 0) (n := tokens.length)
    (fun s hs => hrange s (hperm.mem_iff.1 hs)) hbefore (by
      intro s hs i hi
      rw [hplaced.cover_eq s (hperm.mem_iff.1 hs)] at hi
      have := lt_length_of_mem_cover hi
      omega)
  have hblocks : blocks.flatMap Block.tags = boundaryTags tokens mentions := by
    rw [htags, boundaryTags_eq_map, List.range_eq_range']
    apply List.map_congr_left
    intro i _
    -- sorting the spans does not change who owns a token
    rw [tagAt, owner?_perm (hplaced.separate.perm hperm.symm) hperm]
  refine ⟨blocks, hblocks, ?_, ?_⟩
  · intro blocks' hblocks'
    exact Block.flatMap_tags_inj (hblocks'.trans hblocks.symm)
  · have hcover : (keptSpans tokens mentions).map (fun s => (s.mention.entity, s.cover)) =
        (keptSpans tokens mentions).map fun s => (s.mention.entity, cover tokens s.mention) := by
      apply List.map_congr_left
      intro s hs
      rw [hplaced.cover_eq s hs]
    rw [hentities, ← hcover]
    exact hperm.map _

/-- Neighbouring entities of one name remain two, and the mention between them is not kept. -/
theorem boundaryTags_blocks_neighbours :
    let tokens : List Token := [⟨"a", 0, 1⟩, ⟨"b", 2, 3⟩, ⟨"c", 4, 5⟩]
    let mentions : List Mention := [⟨0, 3, "a b", "x", none, none⟩, ⟨2, 5, "b c", "y", none, none⟩,
      ⟨4, 5, "c", "x", none, none⟩]
    InOrder tokens ∧ ∃ blocks : List Block,
      blocks.flatMap Block.tags = boundaryTags tokens mentions ∧
      (Block.entitiesFrom 0 blocks).Perm [("x", [0, 1]), ("x", [2])] := by
  intro tokens mentions
  have horder : InOrder tokens := ⟨by decide, by decide⟩
  obtain ⟨_, blocks, htags, _, hentities⟩ := boundaryTags_blocks.2 tokens horder mentions
  exact ⟨horder, blocks, htags, hentities⟩

end TargetEncoding
