import TargetEncoding.BoundaryTag
import TargetEncoding.Feature

/-! # Messages

A message is what an interpreter reads and completes: texts, the tokens found in them, features, and
the entity mentions of the spoken text.  Boundary tags may be stored on it; nothing keeps them in
step with the tokens when those change later. -/

namespace TargetEncoding

/-- A message on its way through an interpreter. -/
structure Message where
  texts : PerAttribute (Option String)
  tokens : PerAttribute (List Token)
  features : List Feature
  mentions : List Mention
  storedTags : Option (List String)

namespace Message

/-- The message that carries nothing. -/
def empty : Message where
  texts := .replicate none
  tokens := .replicate []
  features := []
  mentions := []
  storedTags := none

/-- Replaces the text of an attribute. -/
def setText (m : Message) (attr : Attribute) (text : String) : Message :=
  { m with texts := m.texts.set attr (some text) }

/-- Replaces the tokens of an attribute. -/
def setTokens (m : Message) (attr : Attribute) (tokens : List Token) : Message :=
  { m with tokens := m.tokens.set attr tokens }

/-- Adds a feature behind those that are there. -/
def addFeature (m : Message) (f : Feature) : Message :=
  { m with features := m.features ++ [f] }

/-- Stores boundary tags, replacing older ones. -/
def storeTags (m : Message) (tags : List String) : Message :=
  { m with storedTags := some tags }

/-- The message that carries one text. -/
def ofText (attr : Attribute) (text : String) : Message :=
  empty.setText attr text

/-- The message that carries an utterance. -/
def ofUtterance (u : Utterance) : Message :=
  { ofText .text u.text with mentions := u.mentions }

/-- The attributes that carry text. -/
def attributes (m : Message) : List Attribute :=
  Attribute.all.filter fun attr => (m.texts.get attr).isSome

/-- The features of one attribute, in order. -/
def featuresOf (m : Message) (attr : Attribute) : List Feature :=
  m.features.filter (·.attr == attr)

/-- Computes the boundary tags of the spoken text and stores them. -/
def applyBoundaryTags (m : Message) : Message :=
  m.storeTags (boundaryTags m.tokens.text m.mentions)

end Message

end TargetEncoding
