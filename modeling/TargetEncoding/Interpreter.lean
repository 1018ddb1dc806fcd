import TargetEncoding.Decimal.Natural
import TargetEncoding.Message

/-! # Interpreters

An interpreter cuts the texts of a message into tokens and adds features.  Encoders take any
function of this type, and ask nothing of the message it answers. -/

namespace TargetEncoding

/-- Why a message cannot be interpreted. -/
inductive InterpretError where
  /-- A mention is empty, runs backwards, or ends behind the text. -/
  | invalidSpan (entity : String) (start stop length : Nat)
  /-- There are mentions, but no text they could speak of. -/
  | missingText
deriving DecidableEq

/-- The text of the error. -/
def InterpretError.message : InterpretError → String
  | .invalidSpan entity start stop length =>
    "entity '" ++ entity ++ "' has invalid span [" ++ decimal start ++ ", " ++ decimal stop ++
      ") for text of length " ++ decimal length
  | .missingText => "message has entities but no text"

/-- Completes a message.  The answer is `none` when there was nothing to interpret. -/
abbrev Interpreter := Message → Except InterpretError (Option Message)

/-- The mention is not empty and lies inside a text of the given length. -/
def Mention.FitsIn (m : Mention) (length : Nat) : Prop :=
  m.start < m.stop ∧ m.stop ≤ length

instance (m : Mention) (length : Nat) : Decidable (m.FitsIn length) :=
  inferInstanceAs (Decidable (_ ∧ _))

/-- Refuses a message with the first mention that does not fit into the spoken text. -/
def Message.checkMentions (m : Message) : Except InterpretError Unit :=
  if m.mentions.isEmpty then .ok ()
  else match m.texts.text with
    | none => .error .missingText
    | some text =>
      match m.mentions.find? fun mention => ¬ mention.FitsIn text.length with
      | some mention =>
        .error (.invalidSpan mention.entity mention.start mention.stop text.length)
      | none => .ok ()

end TargetEncoding
