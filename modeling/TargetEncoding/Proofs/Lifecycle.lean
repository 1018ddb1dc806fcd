import TargetEncoding.Proofs.ActionLabels
import TargetEncoding.Proofs.Setup

/-!
# Encoders are set up once

An encoder that is ready refuses every call, and no call that fails changes an encoder.  Until it is
ready a call that succeeds replaces its configuration, even one that does not make it ready: an
indexer without actions, or an action encoder without texts or with a state encoder that is not
ready, is set up anew.  So the call that counts is the first one that made the encoder ready, or
else the last one that succeeded.

## Key results

- `attempts_of_ready`: no sequence of calls changes an encoder that is ready
- `exists_first_ready`: the call that makes an encoder ready
- `Encoder.TakesOver.eq_of_setup_error`: a call that fails changes nothing
- `Encoder.TakesOver.setUpOnce`: what a sequence of calls does to an encoder of any kind
- `encoders_setUpOnce`: the three kinds of encoders
-/

namespace TargetEncoding

section Runs

variable {ε : Type} {setup : Domain → StateEncoder → SetupM ε Unit} {e : ε}

theorem attempts_append (calls more : List SetupCall) :
    attempts setup e (calls ++ more) = attempts setup (attempts setup e calls) more :=
  List.foldl_append ..

theorem attempts_concat (calls : List SetupCall) (call : SetupCall) :
    attempts setup e (calls ++ [call]) = attempt setup (attempts setup e calls) call :=
  attempts_append calls [call]

end Runs

open Encoder (isReady)

section Ready

variable {ε : Type} [Encoder ε] {e : ε}

/-- Calls leave an encoder that is ready as it is. -/
theorem attempts_of_ready (h : isReady e = true) (calls : List SetupCall) :
    attempts Encoder.setup e calls = e := by
  induction calls with
  | nil => rfl
  | cons call calls ih =>
    have hsame := attempt_of_error (Encoder.setup_of_ready h call.domain call.stateEncoder)
    rw [attempts, List.foldl_cons, hsame]
    exact ih

/-- What has been ready after some of the calls is what there is after all of them. -/
theorem attempts_append_of_ready {calls : List SetupCall}
    (h : isReady (attempts Encoder.setup e calls) = true) (more : List SetupCall) :
    attempts Encoder.setup e (calls ++ more) = attempts Encoder.setup e calls := by
  rw [attempts_append, attempts_of_ready h]

/-- If calls make an encoder ready, then one of them does. -/
theorem exists_first_ready (hstart : isReady e = false) {calls : List SetupCall}
    (h : isReady (attempts Encoder.setup e calls) = true) :
    ∃ before call after, calls = before ++ call :: after ∧
      isReady (attempts Encoder.setup e before) = false ∧
      isReady (attempts Encoder.setup e (before ++ [call])) = true := by
  induction calls generalizing e with
  | nil => exact nomatch hstart.symm.trans h
  | cons call calls ih =>
    cases hnext : isReady (attempt Encoder.setup e call) with
    | true => exact ⟨[], call, calls, rfl, hstart, hnext⟩
    | false =>
      obtain ⟨before, call', after, rfl, hbefore, hcall'⟩ := ih hnext h
      exact ⟨call :: before, call', after, rfl, hbefore, hcall'⟩

end Ready

/-! ## Taking over a configuration -/

/-- How an encoder that begins as `start` gets its configuration: `Holds call e` says that `e` holds
what it takes over from the call, whatever it held before. -/
structure Encoder.TakesOver {ε : Type} [Encoder ε] (start : ε) (Holds : SetupCall → ε → Prop) :
    Prop where
  unready : isReady start = false
  holds_of_configure : ∀ {e : ε} {call : SetupCall} {e' : ε},
    (e = start ∨ ∃ earlier, Holds earlier e) →
      (Encoder.configure call.domain call.stateEncoder).run e = .ok () e' → Holds call e'
  unchanged_of_error : ∀ {e : ε} {call : SetupCall} {error : SetupError} {e' : ε},
    (Encoder.configure call.domain call.stateEncoder).run e = .error error e' → e' = e
  configure_ne_notReady : ∀ (e : ε) (call : SetupCall) (c : Component) (e' : ε),
    (Encoder.configure call.domain call.stateEncoder).run e ≠ .error (.notReady c) e'

/-- An encoder that begins as `start` can be set up until it is ready, and not again: it holds what
it took over from the first call that made it ready or, if there is none, from the last one that
succeeded. -/
structure SetUpOnce {ε : Type} [Encoder ε] (start : ε) (component : Component)
    (Holds : SetupCall → ε → Prop) : Prop where
  decided : ∀ calls : List SetupCall,
    (∃ before call after, calls = before ++ call :: after ∧
      isReady (attempts Encoder.setup start before) = false ∧
      isReady (attempts Encoder.setup start (before ++ [call])) = true ∧
      attempts Encoder.setup start calls = attempts Encoder.setup start (before ++ [call]) ∧
      Holds call (attempts Encoder.setup start calls)) ∨
    (∀ before, before <+: calls → isReady (attempts Encoder.setup start before) = false) ∧
      (succeeding Encoder.setup start calls = [] ∧ attempts Encoder.setup start calls = start ∨
        ∃ earlier call, succeeding Encoder.setup start calls = earlier ++ [call] ∧
          Holds call (attempts Encoder.setup start calls))
  refused : ∀ calls : List SetupCall, isReady (attempts Encoder.setup start calls) = true →
    ∀ call : SetupCall,
      (Encoder.setup call.domain call.stateEncoder).run (attempts Encoder.setup start calls) =
        .error (.alreadyConfigured component) (attempts Encoder.setup start calls)
  unchanged : ∀ (calls : List SetupCall) (call : SetupCall) (error : SetupError) (e' : ε),
    (Encoder.setup call.domain call.stateEncoder).run (attempts Encoder.setup start calls) =
        .error error e' →
      e' = attempts Encoder.setup start calls ∧
      attempts Encoder.setup start (calls ++ [call]) = attempts Encoder.setup start calls
  stays_ready : ∀ calls more : List SetupCall,
    isReady (attempts Encoder.setup start calls) = true →
      isReady (attempts Encoder.setup start (calls ++ more)) = true
  never_notReady : ∀ (calls : List SetupCall) (call : SetupCall) (c : Component) (e' : ε),
    (Encoder.setup call.domain call.stateEncoder).run (attempts Encoder.setup start calls) ≠
      .error (.notReady c) e'

namespace Encoder.TakesOver

variable {ε : Type} [Encoder ε] {start : ε} {Holds : SetupCall → ε → Prop}

/-- A call that succeeds on what other calls have left. -/
theorem holds_of_setup (h : TakesOver start Holds) {e e' : ε} {call : SetupCall}
    (he : e = start ∨ ∃ earlier, Holds earlier e)
    (hsetup : (Encoder.setup call.domain call.stateEncoder).run e = .ok () e') : Holds call e' :=
  h.holds_of_configure he (configure_of_setup hsetup)

/-- A call that fails leaves the encoder as it was. -/
theorem eq_of_setup_error (h : TakesOver start Holds) {e e' : ε} {call : SetupCall}
    {error : SetupError}
    (hsetup : (Encoder.setup call.domain call.stateEncoder).run e = .error error e') : e' = e := by
  cases hready : isReady e with
  | true =>
    rw [setup_of_ready hready] at hsetup
    exact (EStateM.Result.error.inj hsetup).2.symm
  | false =>
    rw [setup_of_unready hready] at hsetup
    exact h.unchanged_of_error hsetup

/-- After any calls an encoder is as it began, or holds what it took over from the last call that
succeeded. -/
theorem after (h : TakesOver start Holds) (calls : List SetupCall) :
    succeeding Encoder.setup start calls = [] ∧ attempts Encoder.setup start calls = start ∨
      ∃ earlier call, succeeding Encoder.setup start calls = earlier ++ [call] ∧
        Holds call (attempts Encoder.setup start calls) := by
  refine setup_induction (P := fun done e =>
    done = [] ∧ e = start ∨ ∃ earlier call, done = earlier ++ [call] ∧ Holds call e)
    (.inl ⟨rfl, rfl⟩) ?_ ?_ calls
  · intro done e call e' hdone hsetup
    refine .inr ⟨done, call, rfl, h.holds_of_setup ?_ hsetup⟩
    rcases hdone with ⟨_, rfl⟩ | ⟨_, earlier, _, hholds⟩
    · exact .inl rfl
    · exact .inr ⟨earlier, hholds⟩
  · intro done e call error e' hdone herror
    rwa [h.eq_of_setup_error herror]

/-- A call that makes an encoder ready has succeeded. -/
theorem holds_of_ready (h : TakesOver start Holds) {calls : List SetupCall} {call : SetupCall}
    (hbefore : isReady (attempts Encoder.setup start calls) = false)
    (hready : isReady (attempts Encoder.setup start (calls ++ [call])) = true) :
    Holds call (attempts Encoder.setup start (calls ++ [call])) := by
  have hheld : attempts Encoder.setup start calls = start ∨
      ∃ earlier, Holds earlier (attempts Encoder.setup start calls) := by
    rcases h.after calls with ⟨_, hstart⟩ | ⟨_, earlier, _, hholds⟩
    · exact .inl hstart
    · exact .inr ⟨earlier, hholds⟩
  rw [attempts_concat] at hready ⊢
  cases hcall : (Encoder.setup call.domain call.stateEncoder).run
      (attempts Encoder.setup start calls) with
  | ok _ e' =>
    rw [attempt_of_ok hcall]
    exact h.holds_of_setup hheld hcall
  | error error e' =>
    -- a call that fails would have left the encoder as it was
    rw [attempt_of_error hcall, h.eq_of_setup_error hcall] at hready
    exact absurd (hbefore.symm.trans hready) Bool.false_ne_true

theorem setUpOnce (h : TakesOver start Holds) : SetUpOnce start (component ε) Holds where
  decided := by
    intro calls
    cases hready : isReady (attempts Encoder.setup start calls) with
    | true =>
      obtain ⟨before, call, after, rfl, hbefore, hcall⟩ := exists_first_ready h.unready hready
      have hsame : attempts Encoder.setup start (before ++ call :: after) =
          attempts Encoder.setup start (before ++ [call]) := by
        rw [List.append_cons, attempts_append_of_ready hcall]
      refine .inl ⟨before, call, after, rfl, hbefore, hcall, hsame, ?_⟩
      rw [hsame]
      exact h.holds_of_ready hbefore hcall
    | false =>
      refine .inr ⟨?_, h.after calls⟩
      -- what was ready before would still be
      rintro before ⟨more, rfl⟩
      rw [Bool.eq_false_iff]
      intro hbefore
      rw [attempts_append_of_ready hbefore, hbefore] at hready
      exact nomatch hready
  refused calls hready call := setup_of_ready hready call.domain call.stateEncoder
  unchanged calls call error e' herror := by
    have hsame := h.eq_of_setup_error herror
    refine ⟨hsame, ?_⟩
    rw [attempts_concat, attempt_of_error herror, hsame]
  stays_ready calls more hready := by rwa [attempts_append_of_ready hready]
  never_notReady calls call c e' := by
    intro herror
    cases hready : isReady (attempts Encoder.setup start calls) with
    | true =>
      rw [setup_of_ready hready] at herror
      exact nomatch herror
    | false =>
      rw [setup_of_unready hready] at herror
      exact h.configure_ne_notReady _ call c e' herror

end Encoder.TakesOver

/-! ## The kinds of encoders -/

/-- An indexer takes over the first positions of the actions. -/
def ActionIndexer.Holds (call : SetupCall) (e : ActionIndexer) : Prop :=
  e = ⟨some (firstPositions call.domain.actions)⟩

theorem ActionIndexer.takesOver : Encoder.TakesOver ActionIndexer.unconfigured ActionIndexer.Holds
    where
  unready := rfl
  holds_of_configure _ hconfigure := (EStateM.Result.ok.inj hconfigure).2.symm
  unchanged_of_error := nofun
  configure_ne_notReady _ _ _ _ := nofun

/-- An action encoder takes over the state encoder and the texts, ready or not. -/
def ActionEncoder.Holds (call : SetupCall) (e : ActionEncoder) : Prop :=
  e = ⟨some ⟨call.stateEncoder, .ofList call.domain.actionTexts⟩⟩

theorem ActionEncoder.takesOver : Encoder.TakesOver ActionEncoder.unconfigured ActionEncoder.Holds
    where
  unready := rfl
  holds_of_configure _ hconfigure := (EStateM.Result.ok.inj hconfigure).2.symm
  unchanged_of_error := nofun
  configure_ne_notReady _ _ _ _ := nofun

/-- An entity encoder takes over the state encoder and the table of the names under which entities
are tagged, in the mode that it has from the beginning. -/
def EntityEncoder.Holds (boundaries : Bool) (call : SetupCall) (e : EntityEncoder) : Prop :=
  ∃ table, TagTable.ofEntities call.domain.entityNames boundaries = .ok table ∧
    e = ⟨boundaries, some ⟨table, some call.stateEncoder⟩⟩

theorem EntityEncoder.takesOver (boundaries : Bool) :
    Encoder.TakesOver (EntityEncoder.unconfigured boundaries) (EntityEncoder.Holds boundaries) where
  unready := rfl
  holds_of_configure := by
    intro e call e' he hconfigure
    have hmode : e.boundaries = boundaries := by
      rcases he with rfl | ⟨_, _, _, rfl⟩ <;> rfl
    obtain ⟨table, htable, rfl⟩ := configure_eq_ok_iff.1 hconfigure
    rw [hmode] at htable ⊢
    exact ⟨table, htable, rfl⟩
  unchanged_of_error herror := (configure_eq_error_iff.1 herror).2
  configure_ne_notReady := by
    intro e call c e' herror
    have htable := (configure_eq_error_iff.1 herror).1
    -- the only error of a table is about a name
    rw [TagTable.ofEntities] at htable
    split at htable <;> cases htable

/-- Each kind of encoder is set up until it is ready, and refuses by its name to be set up again. -/
theorem encoders_setUpOnce :
    (SetUpOnce ActionIndexer.unconfigured .actionIndexer ActionIndexer.Holds ∧
      Component.actionIndexer.title = "ActionIndexer") ∧
    (SetUpOnce ActionEncoder.unconfigured .actionEncoder ActionEncoder.Holds ∧
      Component.actionEncoder.title = "ActionFeaturizer") ∧
    ∀ boundaries, SetUpOnce (EntityEncoder.unconfigured boundaries) .entityEncoder
        (EntityEncoder.Holds boundaries) ∧
      Component.entityEncoder.title = "EntityTagFeaturizer" :=
  ⟨⟨ActionIndexer.takesOver.setUpOnce, rfl⟩, ⟨ActionEncoder.takesOver.setUpOnce, rfl⟩,
    fun boundaries => ⟨(EntityEncoder.takesOver boundaries).setUpOnce, rfl⟩⟩

/-- Of four calls the first two succeed without making the encoder ready, one for lack of texts and
one for lack of a state encoder that is.  The third one counts, and the fourth is refused. -/
theorem encoders_setUpOnce_third :
    let s (ready : Bool) : StateEncoder := ⟨ready, id, fun _ _ => .ok ∅⟩
    let silent : SetupCall := ⟨.ofLists ["greet"] [] [], s true⟩
    let early : SetupCall := ⟨.ofLists ["greet"] ["Bye"] [], s false⟩
    let travel : SetupCall := ⟨.ofLists ["greet"] ["Hi"] [], s true⟩
    let weather : SetupCall := ⟨.ofLists ["tell"] ["Sunny"] [], s true⟩
    let after := attempts Encoder.setup ActionEncoder.unconfigured
    isReady (after [silent, early]) = false ∧
      isReady (after [silent, early, travel]) = true ∧
      isReady (after [silent, early, travel, weather]) = true ∧
      (after [silent, early, travel]).Holds travel ∧
      (Encoder.setup weather.domain weather.stateEncoder).run (after [silent, early, travel]) =
        .error (.alreadyConfigured .actionEncoder) (after [silent, early, travel]) ∧
      after [silent, early, travel, weather] = after [silent, early, travel] := by
  intro s silent early travel weather after
  obtain ⟨⟨_, _⟩, ⟨honce, _⟩, _⟩ := encoders_setUpOnce
  have hready : isReady (after [silent, early, travel]) = true := rfl
  have hrefused := honce.refused [silent, early, travel] hready weather
  exact ⟨rfl, hready, honce.stays_ready _ [weather] hready, rfl, hrefused,
    (honce.unchanged _ weather _ _ hrefused).2⟩

end TargetEncoding
