import TargetEncoding.Encoder
import TargetEncoding.TagTable

/-! # Encoding entities

The entities of an utterance become one tag number for each token.  The encoder can be set up from a
domain or be given a table that was made elsewhere; in the second case it has no state encoder, and
so no interpreter to fall back on. -/

namespace TargetEncoding

/-- What an entity encoder takes over when it is set up. -/
structure EntityEncoder.Config where
  table : TagTable
  /-- Where a missing interpreter is looked for. -/
  stateEncoder : Option StateEncoder

/-- Encodes the entities of an utterance, with or without boundaries. -/
structure EntityEncoder where
  boundaries : Bool
  config : Option EntityEncoder.Config

namespace EntityEncoder

/-- The encoder before it is set up. -/
def unconfigured (boundaries : Bool) : EntityEncoder := ⟨boundaries, none⟩

/-- The encoder over a table that was made elsewhere. -/
def ofTable (boundaries : Bool) (table : TagTable) : EntityEncoder :=
  ⟨boundaries, some ⟨table, none⟩⟩

instance : Encoder EntityEncoder where
  component := .entityEncoder
  isReady e := e.config.isSome
  configure d s := do
    let table ← TagTable.ofEntities d.entityNames (← get).boundaries
    modify ({ · with config := some ⟨table, some s⟩ })

/-- The table of tags, once the encoder has one. -/
def table? (e : EntityEncoder) : Option TagTable := e.config.map (·.table)

/-- The supplied interpreter, or else the default one of the state encoder. -/
def Config.resolve (c : Config) (supplied : Option Interpreter) : Option Interpreter :=
  match c.stateEncoder with
  | some s => s.resolve supplied
  | none => supplied

/-- The name of the group of tag numbers. -/
def groupName : String := "entity_tags"

/-- The group that holds the given tag numbers. -/
def group (ids : List Nat) : FeatureGroups :=
  (∅ : FeatureGroups).insert groupName [.ofTagIds ids]

/-- Tags the message that an interpreter answered.  Boundary tags are computed from its tokens, also
when it has some stored. -/
def encodeAnswer (boundaries : Bool) (table : TagTable) (answer : Option Message) : FeatureGroups :=
  match answer with
  | none => ∅
  | some m =>
    if m.tokens.text.isEmpty then ∅
    else
      let m := if boundaries then m.applyBoundaryTags else m
      group (m.tagIds table boundaries)

/-- The tag numbers of an utterance.  There are none without a configuration, without anything said,
or with fewer than two tags to choose from. -/
def encode (e : EntityEncoder) (u : Utterance) (supplied : Option Interpreter) :
    Except EncodeError FeatureGroups :=
  match e.config with
  | none => return ∅
  | some c =>
    if u.isEmpty || c.table.numTags < 2 then return ∅
    else match c.resolve supplied with
      | none => throw (.setup (.missingInterpreter .entityEncoder))
      | some interpreter => do
        let answer ← interpreter (.ofUtterance u)
        return encodeAnswer e.boundaries c.table answer

end EntityEncoder

end TargetEncoding
