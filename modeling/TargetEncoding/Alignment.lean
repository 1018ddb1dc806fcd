import TargetEncoding.Mention
import TargetEncoding.Token

/-! # Alignment of mentions with tokens

Mentions are laid over the tokens one after the other.  A mention is kept when it covers some token
and none of the tokens it covers is taken by a mention kept before it; then it takes all of them.
A mention that is not kept takes nothing and is reported.

* `placements`      what becomes of each mention
* `keptSpans`       the mentions that are kept, with the tokens they take
* `entityLabels`    the entity of each token
* `alignmentWarnings`  the mentions that are not kept, with the reason -/

namespace TargetEncoding

/-- The label of a token that belongs to no entity. -/
def noEntity : String := "no entity"

/-- What becomes of a mention. -/
inductive Placement where
  /-- It takes the tokens at these indices. -/
  | kept (cover : List Nat)
  /-- It covers no token. -/
  | unaligned
  /-- The token at this index, the first of its kind, is already taken. -/
  | contested (token : Nat)
deriving DecidableEq

/-- The indices, in ascending order, of the tokens that overlap a mention. -/
def cover (tokens : List Token) (m : Mention) : List Nat :=
  (tokens.zipIdx.filter fun (t, _) => t.overlaps m.start m.stop).map (·.2)

namespace Placement

/-- Decides on a mention from the tokens it covers and the tokens that are taken. -/
def ofCover (cover taken : List Nat) : Placement :=
  if cover.isEmpty then .unaligned
  else match cover.find? taken.contains with
    | some i => .contested i
    | none => .kept cover

/-- The tokens that the mention takes. -/
def takes : Placement → List Nat
  | .kept cover => cover
  | _ => []

end Placement

/-- What becomes of each mention when the tokens `taken` are gone already. -/
def placementsFrom (tokens : List Token) (taken : List Nat) : List Mention → List Placement
  | [] => []
  | m :: ms =>
    let placement := Placement.ofCover (cover tokens m) taken
    placement :: placementsFrom tokens (taken ++ placement.takes) ms

/-- What becomes of each mention, earlier mentions going first. -/
def placements (tokens : List Token) (mentions : List Mention) : List Placement :=
  placementsFrom tokens [] mentions

/-- A mention together with the tokens it takes. -/
structure Span where
  mention : Mention
  cover : List Nat
deriving DecidableEq

/-- The mentions that are kept, in order. -/
def keptSpans (tokens : List Token) (mentions : List Mention) : List Span :=
  (mentions.zip (placements tokens mentions)).filterMap fun
    | (m, .kept cover) => some ⟨m, cover⟩
    | _ => none

/-- Writes a label on every token that a span takes. -/
def writeSpan (label : Span → Nat → String) (labels : List String) (span : Span) : List String :=
  span.cover.foldl (fun labels i => labels.set i (label span i)) labels

/-- The labels of so many tokens when the spans write theirs one after the other. -/
def writeSpans (label : Span → Nat → String) (count : Nat) (spans : List Span) : List String :=
  spans.foldl (writeSpan label) (List.replicate count noEntity)

/-- The name of the entity that each token belongs to. -/
def entityLabels (tokens : List Token) (mentions : List Mention) : List String :=
  writeSpans (fun span _ => span.mention.entity) tokens.length (keptSpans tokens mentions)

/-- Why a mention is not kept. -/
inductive AlignmentWarning where
  | unaligned (m : Mention)
  | contested (m : Mention) (token : Token)
deriving DecidableEq

/-- The text of the report. -/
def AlignmentWarning.message : AlignmentWarning → String
  | .unaligned _ => "entity span is not aligned with any token"
  | .contested _ _ => "token is part of overlapping entities, keeping the first"

/-- A report for each mention that is not kept, in order. -/
def alignmentWarnings (tokens : List Token) (mentions : List Mention) : List AlignmentWarning :=
  (mentions.zip (placements tokens mentions)).filterMap fun
    | (_, .kept _) => none
    | (m, .unaligned) => some (.unaligned m)
    | (m, .contested i) => tokens[i]?.map (.contested m)

@[simp] theorem length_placementsFrom (tokens : List Token) (taken : List Nat)
    (mentions : List Mention) :
    (placementsFrom tokens taken mentions).length = mentions.length := by
  induction mentions generalizing taken with
  | nil => rfl
  | cons m ms ih => simp [placementsFrom, ih]

@[simp] theorem length_writeSpan (label : Span → Nat → String) (labels : List String)
    (span : Span) : (writeSpan label labels span).length = labels.length := by
  unfold writeSpan
  induction span.cover generalizing labels with
  | nil => rfl
  | cons i is ih => rw [List.foldl_cons, ih, List.length_set]

@[simp] theorem length_writeSpans (label : Span → Nat → String) (count : Nat)
    (spans : List Span) : (writeSpans label count spans).length = count := by
  suffices ∀ labels, (spans.foldl (writeSpan label) labels).length = labels.length by
    simp [writeSpans, this]
  intro labels
  induction spans generalizing labels with
  | nil => rfl
  | cons span spans ih => rw [List.foldl_cons, ih, length_writeSpan]

@[simp] theorem length_entityLabels (tokens : List Token) (mentions : List Mention) :
    (entityLabels tokens mentions).length = tokens.length := by
  simp [entityLabels]

end TargetEncoding
