import TargetEncoding.Proofs.Lifecycle
import TargetEncoding.Proofs.Vocabulary

/-!
# Becoming ready

Setting up a target encoder can succeed without making it ready: a domain without texts configures
the action encoder, which is not ready then, and the entity encoder, which is.  From then on the
entity encoder refuses every call, and with it the target encoder does, so it never becomes ready.
Before any call has succeeded, or without an entity encoder, a domain and a state encoder that leave
nothing to be desired make it ready.

## Key results

- `TargetEncoder.setup_of_unready_parts`: parts that are not ready are made ready
- `TargetEncoder.setup_of_ready_entity`: an entity encoder that is ready stands in the way
- `TargetEncoder.setup_of_unready_iff`: when a target encoder that is not ready can be made ready
- `TargetEncoder.not_setup_after_silent`: it cannot always
-/

namespace TargetEncoding

/-- The call has all that encoders need: a state encoder that is ready, a text, and no entity with
the name for none. -/
structure SetupCall.Suffices (call : SetupCall) : Prop where
  ready : call.stateEncoder.ready = true
  texts : call.domain.actionTexts ≠ []
  unreserved : noEntity ∉ call.domain.entities

variable {call : SetupCall}

theorem ActionEncoder.setup_of_unready {e : ActionEncoder} (hunready : Encoder.isReady e = false)
    (d : Domain) (s : StateEncoder) :
    (Encoder.setup d s).run e = .ok () (ofConfig s d.actionTexts) :=
  Encoder.setup_of_unready hunready d s

theorem ActionEncoder.exists_setup_ready {e : ActionEncoder} (hunready : Encoder.isReady e = false)
    (h : call.Suffices) :
    ∃ e', (Encoder.setup call.domain call.stateEncoder).run e = .ok () e' ∧
      Encoder.isReady e' = true := by
  have hsetup := setup_of_unready hunready call.domain call.stateEncoder
  exact ⟨_, hsetup, (isReady_of_setup_iff hsetup).2 ⟨h.ready, h.texts⟩⟩

theorem EntityEncoder.exists_setup_ready {e : EntityEncoder} (hunready : Encoder.isReady e = false)
    (h : call.Suffices) :
    ∃ e', (Encoder.setup call.domain call.stateEncoder).run e = .ok () e' ∧
      Encoder.isReady e' = true := by
  obtain ⟨table, htable, _⟩ := TagTable.ofEntities_numbers e.boundaries
    (mt Domain.noEntity_mem_entityNames_iff.1 h.unreserved)
  exact ⟨_, setup_of_table hunready htable call.stateEncoder, rfl⟩

namespace TargetEncoder

variable {e : TargetEncoder}

/-- A part that can be made ready is, and a part that is missing does not stand in the way. -/
theorem exists_setupPart_ready {ε : Type} [Encoder ε] {part : Option ε}
    (h : ∀ a, part = some a → ∃ a', (Encoder.setup call.domain call.stateEncoder).run a =
      .ok () a' ∧ Encoder.isReady a' = true) :
    ∃ part', setupPart part call.domain call.stateEncoder = .ok part' ∧
      part'.all Encoder.isReady = true := by
  cases part with
  | none => exact ⟨none, rfl, rfl⟩
  | some a =>
    obtain ⟨a', hsetup, hready⟩ := h a rfl
    exact ⟨some a', setupPart_eq_ok_iff.2 (.inr ⟨a, a', rfl, hsetup, rfl⟩), hready⟩

/-- If neither part is ready, a call that has all they need makes them ready. -/
theorem setup_of_unready_parts (haction : ∀ a, e.action = some a → Encoder.isReady a = false)
    (hentity : ∀ b, e.entity = some b → Encoder.isReady b = false) (h : call.Suffices) :
    ∃ e', (setup call.domain call.stateEncoder).run e = .ok () e' ∧ e'.isReady = true := by
  obtain ⟨action, haction', hreadyAction⟩ := exists_setupPart_ready fun a ha =>
    ActionEncoder.exists_setup_ready (haction a ha) h
  obtain ⟨entity, hentity', hreadyEntity⟩ := exists_setupPart_ready fun b hb =>
    EntityEncoder.exists_setup_ready (hentity b hb) h
  refine ⟨_, setup_eq_ok_iff.2 ⟨action, entity, haction', hentity', rfl⟩, ?_⟩
  rw [isReady, hreadyAction, hreadyEntity]
  rfl

/-- If only the action encoder is not ready, the entity encoder refuses every call. -/
theorem setup_of_ready_entity {b : EntityEncoder} (hb : e.entity = some b)
    (hready : Encoder.isReady b = true) (hunready : e.isReady = false) (d : Domain)
    (s : StateEncoder) :
    (setup d s).run e = .error (.alreadyConfigured .entityEncoder) e := by
  rw [isReady, hb, Option.all_some, hready, Bool.and_true] at hunready
  have haction : ∃ action, setupPart e.action d s = .ok action := by
    cases ha : e.action with
    | none => exact ⟨none, rfl⟩
    | some a =>
      rw [ha, Option.all_some] at hunready
      have hsetup := ActionEncoder.setup_of_unready hunready d s
      exact ⟨some (.ofConfig s d.actionTexts),
        setupPart_eq_ok_iff.2 (.inr ⟨a, _, rfl, hsetup, rfl⟩)⟩
  have hrefused : setupPart e.entity d s = .error (.alreadyConfigured .entityEncoder) := by
    rw [hb, setupPart, Option.mapM_some, Encoder.setupCopy, Encoder.setup_of_ready hready]
    rfl
  exact setup_eq_error_iff.2 ⟨rfl, .inr ⟨haction, hrefused⟩⟩

/-- Calls that are refused one and all change nothing. -/
theorem attempts_of_ready_entity {b : EntityEncoder} (hb : e.entity = some b)
    (hready : Encoder.isReady b = true) (hunready : e.isReady = false) (calls : List SetupCall) :
    attempts setup e calls = e := by
  induction calls with
  | nil => rfl
  | cons call calls ih =>
    have hsame := attempt_of_error
      (setup_of_ready_entity hb hready hunready call.domain call.stateEncoder)
    rw [attempts, List.foldl_cons, hsame]
    exact ih

theorem unready_action_ofConfig (c : Config) :
    ∀ a, (ofConfig c).action = some a → Encoder.isReady a = false := by
  intro a ha
  obtain ⟨_, h⟩ := Option.ite_none_right_eq_some.1 ha
  rw [← Option.some.inj h]
  rfl

theorem unready_entity_ofConfig (c : Config) :
    ∀ b, (ofConfig c).entity = some b → Encoder.isReady b = false := by
  intro b hb
  obtain ⟨_, h⟩ := Option.ite_none_right_eq_some.1 hb
  rw [← Option.some.inj h]
  rfl

/-- A target encoder that is not ready after some calls is made ready by a call that has all that is
needed exactly if it has no entity encoder or none of the calls has succeeded.  Otherwise that call
is refused, and no call ever changes anything again. -/
theorem setup_of_unready_iff (c : Config) (calls : List SetupCall) (call : SetupCall)
    (hunready : (attempts setup (ofConfig c) calls).isReady = false) (h : call.Suffices) :
    ((∃ e', (setup call.domain call.stateEncoder).run (attempts setup (ofConfig c) calls) =
          .ok () e' ∧ e'.isReady = true) ↔
      c.entities = false ∨ succeeding setup (ofConfig c) calls = []) ∧
    (¬ (c.entities = false ∨ succeeding setup (ofConfig c) calls = []) →
      (setup call.domain call.stateEncoder).run (attempts setup (ofConfig c) calls) =
        .error (.alreadyConfigured .entityEncoder) (attempts setup (ofConfig c) calls) ∧
      ∀ more, attempts setup (ofConfig c) (calls ++ more) = attempts setup (ofConfig c) calls) := by
  have hafter := after_attempts c calls
  have hnever := fun (b : EntityEncoder) hb hready =>
    attempts_of_ready_entity (e := attempts setup (ofConfig c) calls) (b := b) hb hready hunready
  simp only [attempts_append]
  generalize succeeding setup (ofConfig c) calls = done at hafter ⊢
  generalize attempts setup (ofConfig c) calls = e at hafter hunready hnever ⊢
  rcases hafter.setUp with ⟨rfl, rfl⟩ | ⟨earlier, call', rfl, hset⟩
  · -- no part is set up yet
    have hmade := setup_of_unready_parts (unready_action_ofConfig c) (unready_entity_ofConfig c) h
    exact ⟨iff_of_true hmade (.inr rfl), fun hnot => absurd (.inr rfl) hnot⟩
  · cases hc : c.entities with
    | false =>
      have hnone := hset.no_entity hc
      have haction : ∀ a, e.action = some a → Encoder.isReady a = false := by
        intro a ha
        rwa [isReady, ha, hnone, Option.all_some, Option.all_none, Bool.and_true] at hunready
      have hmade := setup_of_unready_parts haction (fun b hb => nomatch hnone.symm.trans hb) h
      exact ⟨iff_of_true hmade (.inl rfl), fun hnot => absurd (.inl rfl) hnot⟩
    | true =>
      -- the entity encoder has a table, and so is ready
      obtain ⟨table, _, hentity⟩ := hset.entity hc
      have hrefused := setup_of_ready_entity hentity rfl hunready call.domain call.stateEncoder
      have hnot : ¬ (true = false ∨ earlier ++ [call'] = []) := by simp
      refine ⟨iff_of_false ?_ hnot, fun _ => ⟨hrefused, hnever _ hentity rfl⟩⟩
      rintro ⟨e', he', _⟩
      exact nomatch hrefused.symm.trans he'

/-- A target encoder is not always made ready by a call that has all that is needed: not after it
was set up from a domain without texts. -/
theorem not_setup_after_silent :
    ¬ ∀ (c : Config) (calls : List SetupCall) (call : SetupCall),
      (attempts setup (ofConfig c) calls).isReady = false → call.Suffices →
      ∃ e', (setup call.domain call.stateEncoder).run (attempts setup (ofConfig c) calls) =
        .ok () e' ∧ e'.isReady = true := by
  intro hall
  let s : StateEncoder := ⟨true, id, fun _ _ => .ok ∅⟩
  let silent : SetupCall := ⟨.ofLists ["greet"] [] ["city"], s⟩
  let travel : SetupCall := ⟨.ofLists ["greet"] ["Hi"] ["city"], s⟩
  have hsuffices : travel.Suffices := ⟨rfl, by decide, by decide⟩
  obtain ⟨e', he', _⟩ := hall .default [silent] travel rfl hsuffices
  let after := attempts setup (ofConfig .default) [silent]
  have hrefused : (setup travel.domain s).run after =
      .error (.alreadyConfigured .entityEncoder) after := rfl
  exact nomatch hrefused.symm.trans he'

/-- Before and after a call that succeeds on a domain without texts. -/
theorem setup_of_unready_iff_silent :
    let s : StateEncoder := ⟨true, id, fun _ _ => .ok ∅⟩
    let silent : SetupCall := ⟨.ofLists ["greet"] [] ["city"], s⟩
    let travel : SetupCall := ⟨.ofLists ["greet"] ["Hi"] ["city"], s⟩
    let after := attempts setup (ofConfig .default)
    travel.Suffices ∧ (after []).isReady = false ∧ (after [silent]).isReady = false ∧
      succeeding setup (ofConfig .default) [silent] = [silent] ∧
      (∃ e', (setup travel.domain s).run (after []) = .ok () e' ∧ e'.isReady = true) ∧
      (setup travel.domain s).run (after [silent]) =
        .error (.alreadyConfigured .entityEncoder) (after [silent]) ∧
      ∀ more, after (silent :: more) = after [silent] := by
  intro s silent travel after
  have hsuffices : travel.Suffices := ⟨rfl, by decide, by decide⟩
  have hbefore : (after []).isReady = false := rfl
  have hafter : (after [silent]).isReady = false := rfl
  have hdone : succeeding setup (ofConfig .default) [silent] = [silent] := rfl
  obtain ⟨hmade, _⟩ := setup_of_unready_iff .default [] travel hbefore hsuffices
  obtain ⟨_, hstuck⟩ := setup_of_unready_iff .default [silent] travel hafter hsuffices
  have hnot : ¬ (Config.default.entities = false ∨
      succeeding setup (ofConfig .default) [silent] = []) := by
    rw [hdone]
    decide
  obtain ⟨hrefused, hnever⟩ := hstuck hnot
  exact ⟨hsuffices, hbefore, hafter, hdone, hmade.2 (.inr rfl), hrefused, hnever⟩

end TargetEncoder

end TargetEncoding
