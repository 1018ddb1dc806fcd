import TargetEncoding.StateEncoder

/-! # The life of an encoder

An encoder starts unconfigured.  Setting it up takes what it needs from a domain and a state
encoder; once it is ready it refuses to be set up again.  Readiness is more than having been
configured: an encoder whose configuration is unusable is not ready and may be set up anew. -/

namespace TargetEncoding

/-- A step that sets up a value of type `ε`.  What it has changed stays so if it fails. -/
abbrev SetupM (ε : Type) : Type → Type := EStateM SetupError ε

instance {ε : Type} : MonadLift (Except SetupError) (SetupM ε) := ⟨ofExcept⟩

/-- An encoder of one kind of target. -/
class Encoder (ε : Type) where
  /-- How errors call it. -/
  component : Component
  /-- It can encode. -/
  isReady : ε → Bool
  /-- Replaces its configuration, ready or not. -/
  configure : Domain → StateEncoder → SetupM ε Unit

namespace Encoder

variable {ε : Type} [Encoder ε]

/-- Fails unless the encoder is ready. -/
def requireReady (e : ε) : Except SetupError Unit :=
  if isReady e then .ok () else .error (.notReady (component ε))

/-- Fails if the encoder is ready. -/
def requireUnready (e : ε) : Except SetupError Unit :=
  if isReady e then .error (.alreadyConfigured (component ε)) else .ok ()

/-- Configures an encoder that is not ready yet. -/
def setup (d : Domain) (s : StateEncoder) : SetupM ε Unit := do
  requireUnready (← get)
  configure d s

/-- A copy of an encoder that is set up in place of it. -/
def setupCopy (e : ε) (d : Domain) (s : StateEncoder) : Except SetupError ε :=
  match (setup d s).run e with
  | .ok _ copy => .ok copy
  | .error error _ => .error error

variable {e e' : ε} {d : Domain} {s : StateEncoder} {error : SetupError}

/-- An encoder that is ready refuses to be set up. -/
theorem setup_of_ready (h : isReady e = true) (d : Domain) (s : StateEncoder) :
    (setup d s).run e = .error (.alreadyConfigured (component ε)) e := by
  have hrefused : requireUnready e = .error (.alreadyConfigured (component ε)) := if_pos h
  show ((liftM (requireUnready e) : SetupM ε Unit) >>= fun _ => configure d s).run e = _
  rw [hrefused]
  rfl

/-- An encoder that is not ready is configured. -/
theorem setup_of_unready (h : isReady e = false) (d : Domain) (s : StateEncoder) :
    (setup d s).run e = (configure d s).run e := by
  have hlet : requireUnready e = .ok () := if_neg (Bool.eq_false_iff.1 h)
  show ((liftM (requireUnready e) : SetupM ε Unit) >>= fun _ => configure d s).run e = _
  rw [hlet]
  rfl

/-- Only an encoder that is not ready can be set up. -/
theorem isReady_of_setup (h : (setup d s).run e = .ok () e') : isReady e = false := by
  cases hready : isReady e with
  | false => rfl
  | true =>
    rw [setup_of_ready hready] at h
    cases h

theorem configure_of_setup (h : (setup d s).run e = .ok () e') :
    (configure d s).run e = .ok () e' := by
  rwa [setup_of_unready (isReady_of_setup h)] at h

theorem setupCopy_eq_ok_iff : setupCopy e d s = .ok e' ↔ (setup d s).run e = .ok () e' := by
  unfold setupCopy
  cases (setup d s).run e <;> simp

end Encoder

end TargetEncoding
