import TargetEncoding.Alignment

/-! # Boundary tags

The BILOU scheme marks where an entity begins and ends.  In an entity of several tokens the first is
tagged `B-`, the last `L-` and those between `I-`; an entity of one token is tagged `U-`.  The mark
is followed by the name of the entity, and a token outside every entity keeps the plain label.

* `boundaryTags`     the tag of each token
* `withoutBoundary`  the tag with its mark taken off -/

namespace TargetEncoding

/-- Where in its entity a token stands. -/
inductive Boundary where
  | first
  | inside
  | last
  | unit
deriving DecidableEq

namespace Boundary

/-- The mark in front of the entity. -/
def mark : Boundary → String
  | .first => "B-"
  | .inside => "I-"
  | .last => "L-"
  | .unit => "U-"

/-- The boundaries in the order in which tags are numbered. -/
def all : List Boundary := [.first, .inside, .last, .unit]

/-- The tag of a token of the given entity. -/
def tag (b : Boundary) (entity : String) : String :=
  b.mark ++ entity

/-- The tag begins with the mark. -/
def marks (b : Boundary) (tag : String) : Bool :=
  b.mark.toList.isPrefixOf tag.toList

/-- The boundary whose mark a tag begins with. -/
def ofTag? (tag : String) : Option Boundary :=
  all.find? (·.marks tag)

/-- The boundary of token `i` in an entity that takes the tokens `cover`. -/
def within (cover : List Nat) (i : Nat) : Boundary :=
  if cover.head? = cover.getLast? then .unit
  else if cover.head? = some i then .first
  else if cover.getLast? = some i then .last
  else .inside

theorem mem_all (b : Boundary) : b ∈ all := by
  cases b <;> simp [all]

@[simp] theorem length_mark (b : Boundary) : b.mark.toList.length = 2 := by
  cases b <;> rfl

end Boundary

/-- The tag without its mark, or the whole tag if it begins with none. -/
def withoutBoundary (tag : String) : String :=
  match Boundary.ofTag? tag with
  | some b => String.ofList (tag.toList.drop b.mark.length)
  | none => tag

/-- The boundary tag of a token of a span. -/
def Span.boundaryTag (span : Span) (i : Nat) : String :=
  (Boundary.within span.cover i).tag span.mention.entity

/-- The boundary tag of each token. -/
def boundaryTags (tokens : List Token) (mentions : List Mention) : List String :=
  writeSpans Span.boundaryTag tokens.length (keptSpans tokens mentions)

@[simp] theorem length_boundaryTags (tokens : List Token) (mentions : List Mention) :
    (boundaryTags tokens mentions).length = tokens.length := by
  simp [boundaryTags]

end TargetEncoding
