import TargetEncoding.Proofs.ActionEncoding
import TargetEncoding.Proofs.Batch
import TargetEncoding.Proofs.EntityOutcomes

/-!
# What becomes of an example

The action of an example is encoded first and what was said after it, each by its own part of the
encoder.  A part is asked whether it is ready before it is given anything, and neither part sees
what the other one does.  So an example succeeds if both parts succeed on their own, and fails as
the first one that fails: because it is not ready, or over an interpreter.

## Key results

- `Encoder.mapM_requireReady`: a part that is not ready is found out before it is used
- `ActionEncoder.overInterpreter_of_encode`, `EntityEncoder.overInterpreter_of_encode`: how a part
  that is ready fails
- `TargetEncoder.encode_eq_ok_iff`, `TargetEncoder.encode_eq_error_iff`: an example, part by part
- `TargetEncoder.exampleOutcome_encode`: all that can become of an example
-/

namespace TargetEncoding

/-! ## One part -/

/-- How a part that is ready fails: it finds no interpreter, or the one it finds complains. -/
inductive EncodeError.OverInterpreter (c : Component) : EncodeError → Prop
  | missing : OverInterpreter c (.setup (.missingInterpreter c))
  | complaint (err : InterpretError) : OverInterpreter c (.interpret err)

/-- A part that is there has to be ready before anything else. -/
theorem Encoder.mapM_requireReady {ε α : Type} [Encoder ε] (part : Option ε)
    (f : ε → Except EncodeError α) :
    (part.mapM fun e => do requireReady e; f e) =
      if part.all isReady then part.mapM f
      else .error (.setup (.notReady (component ε))) := by
  cases part with
  | none => rfl
  | some e =>
    rw [Option.mapM_some, Option.mapM_some, Option.all_some, requireReady]
    cases isReady e <;> rfl

/-- A part that is ready adds what it makes of an example. -/
theorem Encoder.mapM_requireReady_of_ok {ε α : Type} [Encoder ε] {e : ε}
    {f : ε → Except EncodeError α} {a : α} (hready : isReady e = true) (hok : f e = .ok a) :
    ((some e).mapM fun e => do requireReady e; f e : Except EncodeError _) = .ok (some a) := by
  rw [mapM_requireReady, Option.all_some, hready, if_pos rfl, Option.mapM_some, hok]
  rfl

/-- How a part fails on an example. -/
inductive Encoder.PartFailure {ε : Type} [Encoder ε] (part : Option ε) : EncodeError → Prop
  | notReady (h : part.all isReady = false) : PartFailure part (.setup (.notReady (component ε)))
  | overInterpreter {err : EncodeError} (hready : part.all isReady = true)
      (h : err.OverInterpreter (component ε)) : PartFailure part err

theorem Encoder.partFailure_of_mapM {ε α : Type} [Encoder ε] {part : Option ε}
    {f : ε → Except EncodeError α} {err : EncodeError}
    (hover : ∀ e err, isReady e = true → f e = .error err → err.OverInterpreter (component ε))
    (h : (part.mapM fun e => do requireReady e; f e : Except EncodeError (Option α)) = .error err) :
    PartFailure part err := by
  rw [mapM_requireReady] at h
  cases hready : part.all isReady with
  | false =>
    rw [hready, if_neg Bool.false_ne_true] at h
    rw [← Except.error.inj h]
    exact .notReady hready
  | true =>
    rw [hready, if_pos rfl] at h
    obtain ⟨e, rfl, herr⟩ := Option.mapM_eq_error_iff.1 h
    exact .overInterpreter hready (hover e err hready herr)

theorem ActionEncoder.overInterpreter_of_encode {e : ActionEncoder}
    (hready : Encoder.isReady e = true) {action : String} {supplied : Option Interpreter}
    {err : EncodeError} (h : e.encode action supplied = .error err) :
    err.OverInterpreter .actionEncoder := by
  obtain ⟨config⟩ := e
  cases config with
  | none => exact nomatch hready
  | some c =>
    rw [encode_of_isUsable hready] at h
    cases hfound : c.stateEncoder.resolve supplied with
    | none =>
      rw [hfound] at h
      rw [← Except.error.inj h]
      exact .missing
    | some interpreter =>
      rw [hfound] at h
      -- whatever the state encoder complains of comes from the interpreter
      cases hencode : c.stateEncoder.encode (c.form action) interpreter with
      | ok groups =>
        simp only [hencode] at h
        cases h
      | error complaint =>
        simp only [hencode] at h
        rw [← Except.error.inj h]
        exact .complaint complaint

theorem EntityEncoder.overInterpreter_of_encode {e : EntityEncoder} {u : Utterance}
    {supplied : Option Interpreter} {err : EncodeError} (h : e.encode u supplied = .error err) :
    err.OverInterpreter .entityEncoder := by
  obtain ⟨boundaries, config⟩ := e
  cases config with
  | none => cases h
  | some c =>
    by_cases hskips : c.table.Skips u
    · rw [encode_of_skips hskips] at h
      cases h
    cases hfound : c.resolve supplied with
    | none =>
      rw [encode_eq_missingInterpreter_iff.2 ⟨hskips, hfound⟩] at h
      rw [← Except.error.inj h]
      exact .missing
    | some interpreter =>
      cases hanswer : interpreter (.ofUtterance u) with
      | ok answer =>
        rw [encode_of_not_skips hskips] at h
        simp only [hfound, hanswer] at h
        cases h
      | error complaint =>
        rw [encode_of_interpret_error hskips hfound hanswer] at h
        rw [← Except.error.inj h]
        exact .complaint complaint

/-- An entity encoder is ready once it is configured. -/
theorem EntityEncoder.isReady_eq_false_iff {e : EntityEncoder} :
    Encoder.isReady e = false ↔ e.config = none := by
  show e.config.isSome = false ↔ e.config = none
  cases e.config <;> simp

/-! ## Both parts -/

namespace TargetEncoder

/-- The features of what was said, if anything was and there is an encoder for it. -/
def encodeSaid (e : TargetEncoder) (said : Option Utterance) (supplied : Option Interpreter) :
    Except EncodeError (Option FeatureGroups) :=
  match said with
  | some u => e.encodeUtterance u supplied
  | none => .ok none

variable {e : TargetEncoder} {t : Target} {supplied : Option Interpreter} {err : EncodeError}

theorem encode_eq (e : TargetEncoder) (t : Target) (supplied : Option Interpreter) :
    e.encode t supplied = e.encodeAction t.action supplied >>= fun action =>
      e.encodeSaid t.utterance supplied >>= fun entities => .ok ⟨action, entities⟩ := by
  rw [encode]
  cases t.utterance <;> rfl

/-- An example succeeds if both of its parts do. -/
theorem encode_eq_ok_iff {features : TargetFeatures} :
    e.encode t supplied = .ok features ↔
      e.encodeAction t.action supplied = .ok features.action ∧
        e.encodeSaid t.utterance supplied = .ok features.entities := by
  simp only [encode_eq, Except.bind_eq_ok_iff, Except.ok.injEq]
  constructor
  · rintro ⟨action, haction, entities, hentities, rfl⟩
    exact ⟨haction, hentities⟩
  · intro h
    exact ⟨_, h.1, _, h.2, rfl⟩

/-- An example fails as its action does, or else as what was said does. -/
theorem encode_eq_error_iff :
    e.encode t supplied = .error err ↔
      e.encodeAction t.action supplied = .error err ∨
        (∃ action, e.encodeAction t.action supplied = .ok action) ∧
          e.encodeSaid t.utterance supplied = .error err := by
  rw [encode_eq]
  cases e.encodeAction t.action supplied with
  | error err' => simp [bind, Except.bind]
  | ok action =>
    cases e.encodeSaid t.utterance supplied <;> simp [bind, Except.bind]

theorem partFailure_of_encodeAction {action : String}
    (h : e.encodeAction action supplied = .error err) : Encoder.PartFailure e.action err :=
  Encoder.partFailure_of_mapM
    (fun _ _ hready herr => ActionEncoder.overInterpreter_of_encode hready herr) h

theorem partFailure_of_encodeSaid {said : Option Utterance}
    (h : e.encodeSaid said supplied = .error err) :
    said.isSome ∧ Encoder.PartFailure e.entity err := by
  cases said with
  | none => cases h
  | some u =>
    exact ⟨rfl, Encoder.partFailure_of_mapM
      (fun _ _ _ herr => EntityEncoder.overInterpreter_of_encode herr) h⟩

/-- An action encoder that is not ready is found out, whatever the example. -/
theorem encode_of_unready_action (h : e.action.all Encoder.isReady = false) :
    e.encode t supplied = .error (.setup (.notReady .actionEncoder)) := by
  rw [encode_eq_error_iff, encodeAction, Encoder.mapM_requireReady, h]
  exact .inl rfl

/-- An entity encoder that is not ready is found out where there is something for it to encode. -/
theorem encodeSaid_of_unready_entity (h : e.entity.all Encoder.isReady = false) (u : Utterance) :
    e.encodeSaid (some u) supplied = .error (.setup (.notReady .entityEncoder)) := by
  rw [encodeSaid, encodeUtterance, Encoder.mapM_requireReady, h]
  rfl

/-- There are features of the action if there is an encoder for it. -/
theorem eq_none_iff_of_encodeAction {action : String} {features : Option FeatureGroups}
    (h : e.encodeAction action supplied = .ok features) : features = none ↔ e.action = none := by
  obtain ⟨hnone, rfl⟩ | ⟨_, _, hsome, _, rfl⟩ := Option.mapM_eq_ok_iff.1 h
  · simp [hnone]
  · simp [hsome]

/-- There are features of what was said if anything was and there is an encoder for it. -/
theorem eq_none_iff_of_encodeSaid {said : Option Utterance} {features : Option FeatureGroups}
    (h : e.encodeSaid said supplied = .ok features) :
    features = none ↔ e.entity = none ∨ said = none := by
  cases said with
  | none => simpa using (Except.ok.inj h).symm
  | some u =>
    obtain ⟨hnone, rfl⟩ | ⟨_, _, hsome, _, rfl⟩ := Option.mapM_eq_ok_iff.1 h
    · simp [hnone]
    · simp [hsome]

/-! ## The whole example -/

/-- What is known of the result of encoding an example. -/
structure ExampleOutcome (e : TargetEncoder) (t : Target) (supplied : Option Interpreter)
    (result : Except EncodeError TargetFeatures) : Prop where
  /-- The action encoder is asked first. -/
  notReady_action_iff : result = .error (.setup (.notReady .actionEncoder)) ↔
    ∃ a, e.action = some a ∧ Encoder.isReady a = false
  /-- The entity encoder is asked after the action is encoded, and only if something was said. -/
  notReady_entity_iff : result = .error (.setup (.notReady .entityEncoder)) ↔
    (∃ features, e.encodeAction t.action supplied = .ok features) ∧
      (∃ u, t.utterance = some u) ∧ ∃ b, e.entity = some b ∧ b.config = none
  ne_alreadyConfigured : ∀ c, result ≠ .error (.setup (.alreadyConfigured c))
  ne_reservedEntity : ∀ entity, result ≠ .error (.setup (.reservedEntity entity))
  ne_unknownAction : ∀ action, result ≠ .error (.unknownAction action)
  ne_notReady : e.isReady = true → ∀ c, result ≠ .error (.setup (.notReady c))
  /-- Each part makes the same of the example as an encoder that has no other part. -/
  eq_ok_iff : ∀ features, result = .ok features ↔
    { e with entity := none }.encode t supplied = .ok ⟨features.action, none⟩ ∧
      { e with action := none }.encode t supplied = .ok ⟨none, features.entities⟩
  action_eq_none_iff : ∀ features, result = .ok features →
    (features.action = none ↔ e.action = none)
  entities_eq_none_iff : ∀ features, result = .ok features →
    (features.entities = none ↔ e.entity = none ∨ t.utterance = none)

/-- How an example fails. -/
inductive ExampleFailure (e : TargetEncoder) (t : Target) (supplied : Option Interpreter) :
    EncodeError → Prop
  | unreadyAction (h : e.action.all Encoder.isReady = false) :
      ExampleFailure e t supplied (.setup (.notReady .actionEncoder))
  | unreadyEntity (haction : ∃ features, e.encodeAction t.action supplied = .ok features)
      (hsaid : ∃ u, t.utterance = some u) (h : e.entity.all Encoder.isReady = false) :
      ExampleFailure e t supplied (.setup (.notReady .entityEncoder))
  | overInterpreter {c : Component} {err : EncodeError} (h : err.OverInterpreter c) :
      ExampleFailure e t supplied err

theorem exampleFailure_of_encode (h : e.encode t supplied = .error err) :
    ExampleFailure e t supplied err := by
  obtain haction | ⟨hok, hsaid⟩ := encode_eq_error_iff.1 h
  · cases partFailure_of_encodeAction haction with
    | notReady hunready => exact .unreadyAction hunready
    | overInterpreter _ hover => exact .overInterpreter hover
  · obtain ⟨hsome, hpart⟩ := partFailure_of_encodeSaid hsaid
    cases hpart with
    | notReady hunready => exact .unreadyEntity hok (Option.isSome_iff_exists.1 hsome) hunready
    | overInterpreter _ hover => exact .overInterpreter hover

/-- An example fails with the first part that is asked and is not ready, or over an interpreter.  If
it succeeds, each part of its features is what an encoder without the other part makes of it. -/
theorem exampleOutcome_encode (e : TargetEncoder) (t : Target) (supplied : Option Interpreter) :
    ExampleOutcome e t supplied (e.encode t supplied) where
  notReady_action_iff := by
    rw [← Option.all_eq_false]
    constructor
    · intro h
      cases exampleFailure_of_encode h with
      | unreadyAction hunready => exact hunready
      | overInterpreter hover => cases hover
    · exact encode_of_unready_action
  notReady_entity_iff := by
    constructor
    · intro h
      cases exampleFailure_of_encode h with
      | unreadyEntity haction hsaid hunready =>
        obtain ⟨b, hb, hunready⟩ := (Option.all_eq_false _ _).1 hunready
        exact ⟨haction, hsaid, b, hb, EntityEncoder.isReady_eq_false_iff.1 hunready⟩
      | overInterpreter hover => cases hover
    · rintro ⟨haction, ⟨u, hu⟩, b, hb, hconfig⟩
      have hunready : e.entity.all Encoder.isReady = false := by
        rw [hb, Option.all_some, EntityEncoder.isReady_eq_false_iff, hconfig]
      rw [encode_eq_error_iff, hu]
      exact .inr ⟨haction, encodeSaid_of_unready_entity hunready u⟩
  ne_alreadyConfigured c h := by
    cases exampleFailure_of_encode h with
    | overInterpreter hover => cases hover
  ne_reservedEntity entity h := by
    cases exampleFailure_of_encode h with
    | overInterpreter hover => cases hover
  ne_unknownAction action h := by
    cases exampleFailure_of_encode h with
    | overInterpreter hover => cases hover
  ne_notReady hready c h := by
    rw [isReady, Bool.and_eq_true] at hready
    cases exampleFailure_of_encode h with
    | unreadyAction hunready => exact Bool.false_ne_true (hunready.symm.trans hready.1)
    | unreadyEntity _ _ hunready => exact Bool.false_ne_true (hunready.symm.trans hready.2)
    | overInterpreter hover => cases hover
  eq_ok_iff features := by
    -- the encoder without the other part makes nothing of it
    have hsaid : encodeSaid { e with entity := none } t.utterance supplied = .ok none := by
      cases t.utterance <;> rfl
    rw [encode_eq_ok_iff, encode_eq_ok_iff, encode_eq_ok_iff, hsaid]
    exact and_congr (and_iff_left rfl).symm (and_iff_right rfl).symm
  action_eq_none_iff features h := eq_none_iff_of_encodeAction (encode_eq_ok_iff.1 h).1
  entities_eq_none_iff features h := eq_none_iff_of_encodeSaid (encode_eq_ok_iff.1 h).2

/-- Of two parts the one for entities is not set up.  That is found out on what was said, unless the
action fails before; if nothing was said, it is not found out. -/
theorem exampleOutcome_encode_halfReady :
    let knowsHi : StateEncoder := ⟨true, (· <|> some fun m => .ok (some m)), fun form _ =>
      if form.action = "Hi" then .ok ∅ else .error .missingText⟩
    let e : TargetEncoder := ⟨some (.ofConfig knowsHi ["Hi"]), some (.unconfigured true), 1⟩
    let said : Utterance := ⟨"to paris", []⟩
    e.encode ⟨"Hi", said⟩ none = .error (.setup (.notReady .entityEncoder)) ∧
      e.encode ⟨"Bye", said⟩ none = .error (.interpret .missingText) ∧
      e.encode ⟨"Hi", none⟩ none = .ok ⟨some ∅, none⟩ := by
  intro knowsHi e said
  have hunready := (exampleOutcome_encode e ⟨"Hi", said⟩ none).notReady_entity_iff
  have halone := (exampleOutcome_encode e ⟨"Hi", none⟩ none).eq_ok_iff ⟨some ∅, none⟩
  have hhi : e.encodeAction "Hi" none = .ok (some ∅) := rfl
  have hbye : e.encodeAction "Bye" none = .error (.interpret .missingText) := rfl
  exact ⟨hunready.2 ⟨⟨_, hhi⟩, ⟨_, rfl⟩, _, rfl, rfl⟩, encode_eq_error_iff.2 (.inl hbye),
    halone.2 ⟨rfl, rfl⟩⟩

end TargetEncoder

end TargetEncoding
