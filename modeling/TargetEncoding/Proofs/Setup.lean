import TargetEncoding.Proofs.EntityEncoding
import TargetEncoding.Proofs.ForStd
import TargetEncoding.TargetEncoder

/-!
# Setting up, call after call

An encoder may be set up many times, from different domains, and each call either takes effect or
changes nothing.  What a sequence of calls leads to follows from what a single call does
(`setup_induction`).  For a target encoder this is that all its parts are set up from the same call,
the last one that succeeded, so its parts never come from two domains.

## Key results

- `setup_induction`: what every call that succeeds carries on holds after all calls
- `ActionEncoder.isReady_of_setup_iff`: what makes an action encoder ready
- `TargetEncoder.setup_eq_ok_iff`: a target encoder is set up if each of its parts is
- `TargetEncoder.setup_eq_error_iff`: it fails as a part does, and is then as it was
- `TargetEncoder.setUpFrom_of_setup`: a call that succeeds replaces every part
- `TargetEncoder.setups_all_or_nothing`: what a sequence of calls leads to
-/

namespace TargetEncoding

/-! ## Sequences of calls -/

/-- A domain and a state encoder to set something up with. -/
structure SetupCall where
  domain : Domain
  stateEncoder : StateEncoder

section Runs

variable {ε : Type} (setup : Domain → StateEncoder → SetupM ε Unit)

/-- What a call leaves behind, whether it succeeds or fails. -/
def attempt (e : ε) (call : SetupCall) : ε :=
  match (setup call.domain call.stateEncoder).run e with
  | .ok _ e' => e'
  | .error _ e' => e'

/-- What a sequence of calls leaves behind. -/
def attempts (e : ε) (calls : List SetupCall) : ε :=
  calls.foldl (attempt setup) e

/-- The calls of a sequence that succeed, in order. -/
def succeeding (e : ε) : List SetupCall → List SetupCall
  | [] => []
  | call :: calls =>
    match (setup call.domain call.stateEncoder).run e with
    | .ok _ e' => call :: succeeding e' calls
    | .error _ e' => succeeding e' calls

variable {setup} {e e' : ε} {call : SetupCall} {error : SetupError}

theorem attempt_of_ok (h : (setup call.domain call.stateEncoder).run e = .ok () e') :
    attempt setup e call = e' := by
  rw [attempt, h]

theorem attempt_of_error (h : (setup call.domain call.stateEncoder).run e = .error error e') :
    attempt setup e call = e' := by
  rw [attempt, h]

theorem succeeding_of_ok (h : (setup call.domain call.stateEncoder).run e = .ok () e')
    (calls : List SetupCall) :
    succeeding setup e (call :: calls) = call :: succeeding setup e' calls := by
  rw [succeeding, h]

theorem succeeding_of_error (h : (setup call.domain call.stateEncoder).run e = .error error e')
    (calls : List SetupCall) :
    succeeding setup e (call :: calls) = succeeding setup e' calls := by
  rw [succeeding, h]

/-- What holds at first, and is carried on by every call that succeeds and kept up by every call
that fails, holds after all calls, along with the calls that succeeded. -/
theorem setup_induction {P : List SetupCall → ε → Prop} {start : ε} (hnil : P [] start)
    (hok : ∀ done e call e', P done e →
      (setup call.domain call.stateEncoder).run e = .ok () e' → P (done ++ [call]) e')
    (herror : ∀ done e (call : SetupCall) error e', P done e →
      (setup call.domain call.stateEncoder).run e = .error error e' → P done e')
    (calls : List SetupCall) : P (succeeding setup start calls) (attempts setup start calls) := by
  suffices ∀ done e, P done e → P (done ++ succeeding setup e calls) (attempts setup e calls) from
    this [] start hnil
  -- a call that succeeds goes over from those to come to those that are done
  intro done e hdone
  induction calls generalizing done e with
  | nil => rwa [succeeding, List.append_nil]
  | cons call calls ih =>
    rw [attempts, List.foldl_cons, ← attempts]
    cases hcall : (setup call.domain call.stateEncoder).run e with
    | ok u e' =>
      have hnext := ih (done ++ [call]) e' (hok done e call e' hdone hcall)
      rwa [List.append_assoc, List.singleton_append, ← succeeding_of_ok hcall,
        ← attempt_of_ok hcall] at hnext
    | error error e' =>
      have hnext := ih done e' (herror done e call error e' hdone hcall)
      rwa [← succeeding_of_error hcall, ← attempt_of_error hcall] at hnext

end Runs

/-! ## One call -/

/-- An action encoder that is set up holds the state encoder and the texts of the domain. -/
theorem ActionEncoder.setup_ok {e e' : ActionEncoder} {d : Domain} {s : StateEncoder}
    (h : (Encoder.setup d s).run e = .ok () e') : e' = ofConfig s d.actionTexts :=
  (EStateM.Result.ok.inj (Encoder.configure_of_setup h)).2.symm

/-- It is ready then if the state encoder is, and if there are texts. -/
theorem ActionEncoder.isReady_of_setup_iff {e e' : ActionEncoder} {d : Domain} {s : StateEncoder}
    (h : (Encoder.setup d s).run e = .ok () e') :
    Encoder.isReady e' = true ↔ s.ready = true ∧ d.actionTexts ≠ [] := by
  rw [setup_ok h]
  show Config.isUsable ⟨s, .ofList d.actionTexts⟩ = true ↔ _
  simp [Config.isUsable, Std.ExtTreeSet.isEmpty_ofList]

namespace TargetEncoder

/-- A part that is there is set up, and a part that is missing stays so. -/
theorem setupPart_eq_ok_iff {ε : Type} [Encoder ε] {part part' : Option ε} {d : Domain}
    {s : StateEncoder} :
    setupPart part d s = .ok part' ↔ part = none ∧ part' = none ∨
      ∃ e e', part = some e ∧ (Encoder.setup d s).run e = .ok () e' ∧ part' = some e' := by
  simp only [setupPart, Option.mapM_eq_ok_iff, Encoder.setupCopy_eq_ok_iff]

/-- Until all parts are set up, nothing is written. -/
theorem run_setup (e : TargetEncoder) (d : Domain) (s : StateEncoder) :
    (setup d s).run e =
      ((liftM (setupPart e.action d s) : SetupM TargetEncoder _) >>= fun action =>
        (liftM (setupPart e.entity d s) : SetupM TargetEncoder _) >>= fun entity =>
        set { e with action, entity }).run e := rfl

/-- A target encoder is set up if each of its parts is. -/
theorem setup_eq_ok_iff {e e' : TargetEncoder} {d : Domain} {s : StateEncoder} :
    (setup d s).run e = .ok () e' ↔ ∃ action entity,
      setupPart e.action d s = .ok action ∧ setupPart e.entity d s = .ok entity ∧
      e' = { e with action, entity } := by
  rw [run_setup]
  cases haction : setupPart e.action d s with
  | error error => exact iff_of_false nofun fun ⟨_, _, h, _⟩ => nomatch h
  | ok action =>
    cases hentity : setupPart e.entity d s with
    | error error => exact iff_of_false nofun fun ⟨_, _, _, h, _⟩ => nomatch h
    | ok entity =>
      constructor
      · intro h
        exact ⟨action, entity, rfl, rfl, (EStateM.Result.ok.inj h).2.symm⟩
      · intro h
        obtain ⟨_, _, haction', hentity', rfl⟩ := h
        cases haction'
        cases hentity'
        rfl

/-- It fails as the first of its parts that does, and then all of them are as they were. -/
theorem setup_eq_error_iff {e e' : TargetEncoder} {d : Domain} {s : StateEncoder}
    {error : SetupError} :
    (setup d s).run e = .error error e' ↔ e' = e ∧ (setupPart e.action d s = .error error ∨
      (∃ action, setupPart e.action d s = .ok action) ∧ setupPart e.entity d s = .error error) := by
  rw [run_setup]
  cases haction : setupPart e.action d s with
  | error error' =>
    show EStateM.Result.error error' e = _ ↔ _
    simp [eq_comm, and_comm]
  | ok action =>
    cases hentity : setupPart e.entity d s with
    | error error' =>
      show EStateM.Result.error error' e = _ ↔ _
      simp [eq_comm, and_comm]
    | ok entity =>
      show EStateM.Result.ok () { e with action, entity } = _ ↔ _
      simp

/-- The encoder has the parts that a configuration asks for. -/
structure HasParts (c : Config) (e : TargetEncoder) : Prop where
  action : e.action.isSome = c.actions
  entity : e.entity.map (·.boundaries) = if c.entities then some c.boundaries else none

/-- The parts that a configuration asks for are all set up from one call. -/
structure SetUpFrom (c : Config) (call : SetupCall) (e : TargetEncoder) : Prop where
  action : e.action = if c.actions then
    some ⟨some ⟨call.stateEncoder, .ofList call.domain.actionTexts⟩⟩ else none
  entity : c.entities = true → ∃ table,
    TagTable.ofEntities call.domain.entityNames c.boundaries = .ok table ∧
    e.entity = some ⟨c.boundaries, some ⟨table, some call.stateEncoder⟩⟩
  no_entity : c.entities = false → e.entity = none

variable {c : Config} {e e' : TargetEncoder} {call : SetupCall}

theorem hasParts_ofConfig (c : Config) : (ofConfig c).HasParts c where
  action := by cases h : c.actions <;> simp [ofConfig, h]
  entity := by cases h : c.entities <;> simp [ofConfig, h, EntityEncoder.unconfigured]

theorem SetUpFrom.hasParts (h : e.SetUpFrom c call) : e.HasParts c where
  action := by
    rw [h.action]
    cases c.actions <;> rfl
  entity := by
    cases hc : c.entities with
    | false => rw [h.no_entity hc]; rfl
    | true =>
      obtain ⟨table, _, hentity⟩ := h.entity hc
      rw [hentity]
      rfl

/-- A call that succeeds sets up all parts from its domain and state encoder, whatever they held. -/
theorem setUpFrom_of_setup (hparts : e.HasParts c)
    (h : (setup call.domain call.stateEncoder).run e = .ok () e') : e'.SetUpFrom c call := by
  obtain ⟨action, entity, haction, hentity, rfl⟩ := setup_eq_ok_iff.1 h
  have hactions := hparts.action
  have hentities := hparts.entity
  -- each part is there before and after the call, or neither time
  refine ⟨?_, ?_, ?_⟩
  · obtain ⟨hnone, rfl⟩ | ⟨a, b, hsome, hsetup, rfl⟩ := setupPart_eq_ok_iff.1 haction
    · rw [hnone, Option.isSome_none] at hactions
      rw [← hactions]
      rfl
    · rw [hsome, Option.isSome_some] at hactions
      rw [← hactions, ActionEncoder.setup_ok hsetup]
      rfl
  · intro hc
    rw [if_pos hc] at hentities
    obtain ⟨hnone, _⟩ | ⟨a, b, hsome, hsetup, rfl⟩ := setupPart_eq_ok_iff.1 hentity
    · rw [hnone] at hentities
      exact nomatch hentities
    · rw [hsome, Option.map_some, Option.some.injEq] at hentities
      -- the table is made for the tags that the part was configured for
      obtain ⟨table, htable, rfl⟩ := EntityEncoder.setup_ok hsetup
      rw [hentities] at htable
      exact ⟨table, htable, by rw [hentities]⟩
  · intro hc
    rw [if_neg (Bool.eq_false_iff.1 hc), Option.map_eq_none_iff] at hentities
    obtain ⟨_, rfl⟩ | ⟨a, b, hsome, _⟩ := setupPart_eq_ok_iff.1 hentity
    · rfl
    · rw [hentities] at hsome
      exact nomatch hsome

/-- With its entity encoder set up, a target encoder is not set up again. -/
theorem not_setup_of_setUpFrom (hset : e.SetUpFrom c call) (hc : c.entities = true) {d : Domain}
    {s : StateEncoder} : (setup d s).run e ≠ .ok () e' := by
  intro h
  obtain ⟨table, _, hentity⟩ := hset.entity hc
  obtain ⟨_, _, _, hagain, _⟩ := setup_eq_ok_iff.1 h
  rw [hentity] at hagain
  obtain ⟨hnone, _⟩ | ⟨a, b, hsome, hsetup, _⟩ := setupPart_eq_ok_iff.1 hagain
  · exact nomatch hnone
  · -- it has a table, and so is ready
    have hunready := Encoder.isReady_of_setup hsetup
    rw [← Option.some.inj hsome] at hunready
    exact nomatch hunready

/-- What the calls that succeeded made of an encoder that was not set up: nothing if there were
none, and otherwise all its parts are set up from the last of them.  There was at most one if it
encodes entities. -/
structure After (c : Config) (done : List SetupCall) (e : TargetEncoder) : Prop where
  setUp : done = [] ∧ e = ofConfig c ∨
    ∃ earlier call, done = earlier ++ [call] ∧ e.SetUpFrom c call
  once : c.entities = true → done.length ≤ 1

theorem After.hasParts {done : List SetupCall} (h : After c done e) : e.HasParts c := by
  obtain ⟨_, rfl⟩ | ⟨_, _, _, hset⟩ := h.setUp
  · exact hasParts_ofConfig c
  · exact hset.hasParts

/-- One more call that succeeds. -/
theorem After.step {done : List SetupCall} (h : After c done e)
    (hsetup : (setup call.domain call.stateEncoder).run e = .ok () e') :
    After c (done ++ [call]) e' where
  setUp := .inr ⟨done, call, rfl, setUpFrom_of_setup h.hasParts hsetup⟩
  once := by
    -- a call before this one would have been the last to succeed
    intro hc
    obtain ⟨rfl, _⟩ | ⟨_, _, _, hset⟩ := h.setUp
    · exact Nat.le_refl 1
    · exact absurd hsetup (not_setup_of_setUpFrom hset hc)

theorem after_attempts (c : Config) (calls : List SetupCall) :
    After c (succeeding setup (ofConfig c) calls) (attempts setup (ofConfig c) calls) := by
  refine setup_induction ⟨.inl ⟨rfl, rfl⟩, fun _ => Nat.zero_le 1⟩ ?_ ?_ calls
  · intro done e call e' h hsetup
    exact h.step hsetup
  · intro done e call error e' h herror
    rwa [(setup_eq_error_iff.1 herror).1]

/-- A call that fails changes nothing.  After any sequence of calls on an encoder that a
configuration makes, either no call succeeded and no part is set up, or all its parts are set up
from the last call that succeeded.  At most one call succeeds if entities are encoded. -/
theorem setups_all_or_nothing (c : Config) (calls : List SetupCall) :
    (∀ (e : TargetEncoder) (call : SetupCall) (error : SetupError) (e' : TargetEncoder),
      (setup call.domain call.stateEncoder).run e = .error error e' → e' = e) ∧
    (succeeding setup (ofConfig c) calls = [] ∧
        attempts setup (ofConfig c) calls = ofConfig c ∨
      ∃ earlier call, succeeding setup (ofConfig c) calls = earlier ++ [call] ∧
        (attempts setup (ofConfig c) calls).SetUpFrom c call) ∧
    (c.entities = true → (succeeding setup (ofConfig c) calls).length ≤ 1) := by
  refine ⟨?_, ?_⟩
  · intro e call error e' herror
    exact (setup_eq_error_iff.1 herror).1
  · exact ⟨(after_attempts c calls).setUp, (after_attempts c calls).once⟩

/-- Of three calls the first fails since an entity has the name for none, and the last since the
entity encoder is set up.  Either time the action encoder, which is not ready, would have been set
up, and is left as it was. -/
theorem setups_all_or_nothing_reserved :
    let s : StateEncoder := ⟨false, id, fun _ _ => .ok ∅⟩
    let reserved : SetupCall := ⟨.ofLists ["greet"] ["Bye"] ["no entity"], s⟩
    let travel : SetupCall := ⟨.ofLists ["greet"] ["Hi"] ["city"], s⟩
    let weather : SetupCall := ⟨.ofLists ["tell"] ["Sunny"] ["day"], s⟩
    let calls := [reserved, travel, weather]
    (setup reserved.domain s).run (ofConfig .default) =
        .error (.reservedEntity "no entity") (ofConfig .default) ∧
      attempt setup (ofConfig .default) reserved = ofConfig .default ∧
      Config.default.entities = true ∧
      (succeeding setup (ofConfig .default) calls).length ≤ 1 ∧
      succeeding setup (ofConfig .default) calls = [travel] ∧
      (attempts setup (ofConfig .default) calls).SetUpFrom .default travel := by
  intro s reserved travel weather calls
  obtain ⟨hfail, hset, honce⟩ := setups_all_or_nothing .default calls
  have herror : (setup reserved.domain s).run (ofConfig .default) =
      .error (.reservedEntity "no entity") (attempt setup (ofConfig .default) reserved) := rfl
  have hsame := hfail _ reserved _ _ herror
  have hdone : succeeding setup (ofConfig .default) calls = [travel] := rfl
  rw [hsame] at herror
  refine ⟨herror, hsame, rfl, honce rfl, hdone, ?_⟩
  obtain ⟨hnone, _⟩ | ⟨earlier, call, hlast, hset⟩ := hset
  · rw [hdone] at hnone
    exact nomatch hnone
  · -- the last call that succeeded is the only one
    rw [hdone] at hlast
    obtain ⟨rfl, hcall⟩ := List.append_inj' (show [] ++ [travel] = earlier ++ [call] from hlast) rfl
    rwa [List.cons.inj hcall |>.1]

end TargetEncoder

end TargetEncoding
