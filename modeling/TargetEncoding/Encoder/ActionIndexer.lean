import TargetEncoding.Encoder

/-! # Numbering actions

For classification an action is a number, its first position among the actions of the domain.  The
indexer takes the positions over when it is set up. -/

namespace TargetEncoding

/-- Encodes the next action as a number. -/
structure ActionIndexer where
  positions : Option (Std.ExtTreeMap String Nat)

namespace ActionIndexer

/-- The indexer before it is set up. -/
def unconfigured : ActionIndexer := ⟨none⟩

/-- The number of distinct actions that are known. -/
def numActions (e : ActionIndexer) : Nat :=
  e.positions.elim 0 (·.size)

instance : Encoder ActionIndexer where
  component := .actionIndexer
  isReady e := 0 < e.numActions
  configure d _ := set (ActionIndexer.mk (some (firstPositions d.actions)))

/-- The number of an action. -/
def encode (e : ActionIndexer) (action : String) : Except EncodeError Nat := do
  Encoder.requireReady e
  match e.positions.bind (·[action]?) with
  | some i => return i
  | none => throw (.unknownAction ⟨action⟩)

end ActionIndexer

end TargetEncoding
