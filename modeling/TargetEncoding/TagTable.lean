import Std.Data.ExtTreeSet
import TargetEncoding.EncodeError

/-! # Tag tables

A tag table numbers the tags that tokens can have.  Number 0 is the tag of tokens outside every
entity; the entities follow in ascending order of their names, with one tag each or, under the
boundary scheme, with four.  A table that was read from outside need not be consistent, so the two
directions are held side by side.

* `numberedTags`         the tags of a vocabulary with their numbers
* `TagTable.ofEntities`  the table of a vocabulary
* `TagTable.decode`      back from numbers to tags -/

namespace TargetEncoding

/-- The number of the tag `noEntity`. -/
def noEntityId : Nat := 0

/-- Tags and their numbers. -/
structure TagTable where
  /-- What the tags describe. -/
  name : String
  idOf : Std.ExtTreeMap String Nat
  tagOf : Std.ExtTreeMap Nat String
  numTags : Nat
deriving DecidableEq

/-- The tags, with their numbers, of the entity at place `i` of a vocabulary. -/
def numberedTagsAt (boundaries : Bool) (entity : String) (i : Nat) : List (String × Nat) :=
  if boundaries then
    Boundary.all.zipIdx.map fun (b, j) => (b.tag entity, i * Boundary.all.length + j + 1)
  else [(entity, i + 1)]

/-- The tags of a vocabulary with their numbers; number 0 is left free. -/
def numberedTags (boundaries : Bool) (entities : List String) : List (String × Nat) :=
  entities.zipIdx.flatMap fun (entity, i) => numberedTagsAt boundaries entity i

namespace TagTable

/-- What the tags of a table made here describe. -/
def entityTagName : String := "entity"

/-- The table of the given numbers.  It has as many tags as are numbered. -/
def ofIds (idOf : Std.ExtTreeMap String Nat) : TagTable where
  name := entityTagName
  idOf := idOf
  tagOf := .ofList (idOf.toList.map Prod.swap)
  numTags := idOf.size

/-- The table of tags that are numbered one after the other, a later number replacing an earlier one
of the same tag.  Number 0 is given last. -/
def ofNumbered (tags : List (String × Nat)) : TagTable :=
  ofIds ((Std.ExtTreeMap.ofList tags).insert noEntity noEntityId)

/-- The table of a vocabulary, in which no entity may have the name that stands for none. -/
def ofEntities (entities : Std.ExtTreeSet String) (boundaries : Bool) :
    Except SetupError TagTable :=
  if entities.contains noEntity then .error (.reservedEntity noEntity)
  else .ok (ofNumbered (numberedTags boundaries entities.toList))

/-- The number of a tag; a tag that is not in the table counts as no entity. -/
def idForTag (t : TagTable) (tag : String) : Nat := t.idOf.getD tag noEntityId

/-- The tag of a number; a number that is not in the table stands for no entity. -/
def tagForId (t : TagTable) (id : Nat) : String := t.tagOf.getD id noEntity

/-- The tags of the given numbers. -/
def decode (t : TagTable) (ids : List Nat) : List String := ids.map t.tagForId

end TagTable

/-- The tag of each token of the spoken text.  Under the boundary scheme tags that are stored on the
message go before tags that would have to be computed. -/
def Message.tokenTags (m : Message) (boundaries : Bool) : List String :=
  if boundaries then m.storedTags.getD (boundaryTags m.tokens.text m.mentions)
  else entityLabels m.tokens.text m.mentions

/-- The numbers of the tags of a message. -/
def Message.tagIds (m : Message) (table : TagTable) (boundaries : Bool) : List Nat :=
  (m.tokenTags boundaries).map table.idForTag

end TargetEncoding
