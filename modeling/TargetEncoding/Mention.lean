/-! # Entity mentions

A mention says that a span of a text names an entity.  An utterance is a text with its mentions;
nothing ties the spans to the text until an interpreter looks at both. -/

namespace TargetEncoding

/-- The characters from `start` up to but not including `stop` name an entity. -/
structure Mention where
  start : Nat
  stop : Nat
  value : String
  entity : String
  role : Option String
  group : Option String
deriving DecidableEq

/-- A text with the entities mentioned in it. -/
structure Utterance where
  text : String
  mentions : List Mention
deriving DecidableEq

/-- Nothing was said and nothing is mentioned. -/
def Utterance.isEmpty (u : Utterance) : Bool :=
  u.text.isEmpty && u.mentions.isEmpty

end TargetEncoding
