import TargetEncoding.Proofs.ExampleOutcomes
import TargetEncoding.Proofs.Vocabulary

/-!
# The interpreter to fall back on

Both parts of a target encoder look for an interpreter in the same way: the one that is supplied
goes first, and the state encoder has one for callers who supply none.  So supplying that one makes
no difference, and once one is supplied it does not matter which one the state encoder has.  The
parts differ in when they look: the action encoder always does, the entity encoder only if it has
something to tag.

## Key results

- `TargetEncoder.runsOn_of_setup`: after a call that succeeds all parts share its state encoder
- `TargetEncoder.encode_resolve`: the interpreter that is found may as well be supplied
- `TargetEncoder.encode_replaceDefault`: a supplied interpreter leaves the default one unused
- `TargetEncoder.setup_replaceDefault`: setting up does not look at the default interpreter
- `TargetEncoder.defaultInterpreter_stands_in`: the three laws together, for examples and batches
-/

namespace TargetEncoding

/-! ## Finding an interpreter -/

namespace StateEncoder

variable (s : StateEncoder) (other : Option Interpreter)

/-- The state encoder with another interpreter to fall back on, or with none. -/
def replaceDefault : StateEncoder :=
  { s with resolve := (· <|> other) }

variable {s}

/-- What is found is found again when it is supplied. -/
theorem PrefersSupplied.resolve_resolve (h : s.PrefersSupplied) (supplied : Option Interpreter) :
    s.resolve (s.resolve supplied) = s.resolve supplied := by
  rw [h.resolve_eq (s.resolve supplied), h.resolve_eq]
  cases supplied <;> cases s.defaultInterpreter <;> rfl

end StateEncoder

theorem FallbackEncoder.replaceDefault_toStateEncoder (f : FallbackEncoder)
    (other : Option Interpreter) :
    f.toStateEncoder.replaceDefault other =
      { f with defaultInterpreter := other }.toStateEncoder := rfl

/-! ## Setting up a part -/

namespace TargetEncoder

variable {ε : Type} [Encoder ε] {part part' : Option ε} {d : Domain} {s : StateEncoder}

/-- What every call that succeeds brings about holds of the part that it leaves behind. -/
theorem forall_of_setupPart {P : ε → Prop}
    (hstep : ∀ a b, (Encoder.setup d s).run a = .ok () b → P b)
    (h : setupPart part d s = .ok part') : ∀ b, part' = some b → P b := by
  intro b hb
  obtain ⟨_, rfl⟩ | ⟨a, b', _, hsetup, rfl⟩ := setupPart_eq_ok_iff.1 h
  · cases hb
  · rw [← Option.some.inj hb]
    exact hstep a b' hsetup

/-- Two state encoders with which every call succeeds alike set up a part alike. -/
theorem setupPart_of_setup {s' : StateEncoder} {g : ε → ε}
    (hstep : ∀ a b, (Encoder.setup d s).run a = .ok () b →
      (Encoder.setup d s').run a = .ok () (g b))
    (h : setupPart part d s = .ok part') : setupPart part d s' = .ok (part'.map g) := by
  obtain ⟨rfl, rfl⟩ | ⟨a, b, rfl, hsetup, rfl⟩ := setupPart_eq_ok_iff.1 h
  · rfl
  · exact setupPart_eq_ok_iff.2 (.inr ⟨a, g b, rfl, hstep a b hsetup, rfl⟩)

end TargetEncoder

/-! ## The action encoder -/

namespace ActionEncoder

variable {e e' : ActionEncoder} {d : Domain} {s : StateEncoder} {action : String}
  {supplied supplied' : Option Interpreter}

/-- The state encoder that the encoder holds, if it is configured. -/
def RunsOn (s : StateEncoder) (e : ActionEncoder) : Prop :=
  ∀ c, e.config = some c → c.stateEncoder = s

/-- The encoder with another interpreter to fall back on. -/
def replaceDefault (other : Option Interpreter) (e : ActionEncoder) : ActionEncoder :=
  ⟨e.config.map fun c => { c with stateEncoder := c.stateEncoder.replaceDefault other }⟩

theorem encode_of_not_isUsable {c : Config} (h : c.isUsable = false) :
    encode ⟨some c⟩ action supplied = .error (.setup (.notReady .actionEncoder)) := by
  simp only [encode, readyConfig, h, Bool.false_eq_true, if_false]
  rfl

/-- Encoders whose state encoders do the same agree as far as they find the same interpreter. -/
theorem encode_eq_of_resolve_eq {c c' : Config} (husable : c.isUsable = c'.isUsable)
    (hform : c.form action = c'.form action)
    (hencode : c.stateEncoder.encode = c'.stateEncoder.encode)
    (hresolve : c.stateEncoder.resolve supplied = c'.stateEncoder.resolve supplied') :
    encode ⟨some c⟩ action supplied = encode ⟨some c'⟩ action supplied' := by
  cases h : c'.isUsable with
  | false => rw [encode_of_not_isUsable (husable.trans h), encode_of_not_isUsable h]
  | true =>
    rw [encode_of_isUsable (husable.trans h), encode_of_isUsable h, hform, hencode, hresolve]

theorem encode_resolve (h : e.RunsOn s) (hs : s.PrefersSupplied) (action : String)
    (supplied : Option Interpreter) :
    e.encode action (s.resolve supplied) = e.encode action supplied := by
  obtain ⟨config⟩ := e
  cases config with
  | none => rfl
  | some c =>
    obtain rfl := h c rfl
    exact encode_eq_of_resolve_eq rfl rfl rfl (hs.resolve_resolve supplied)

theorem encode_replaceDefault (h : e.RunsOn s) (hs : s.PrefersSupplied)
    (other : Option Interpreter) (action : String) (interpreter : Interpreter) :
    (e.replaceDefault other).encode action (some interpreter) =
      e.encode action (some interpreter) := by
  obtain ⟨config⟩ := e
  cases config with
  | none => rfl
  | some c =>
    obtain rfl := h c rfl
    exact encode_eq_of_resolve_eq rfl rfl rfl (hs interpreter).symm

theorem isReady_replaceDefault (other : Option Interpreter) (e : ActionEncoder) :
    Encoder.isReady (e.replaceDefault other) = Encoder.isReady e := by
  obtain ⟨config⟩ := e
  cases config <;> rfl

theorem setup_replaceDefault (other : Option Interpreter)
    (h : (Encoder.setup d s).run e = .ok () e') :
    (Encoder.setup d (s.replaceDefault other)).run e = .ok () (e'.replaceDefault other) := by
  rw [setup_ok h, Encoder.setup_of_unready (Encoder.isReady_of_setup h)]
  rfl

theorem runsOn_of_setup (h : (Encoder.setup d s).run e = .ok () e') : e'.RunsOn s := by
  rw [setup_ok h]
  intro c hc
  rw [← Option.some.inj hc]

/-- An encoder that is ready always looks for an interpreter. -/
theorem encode_none_eq_missingInterpreter (h : e.RunsOn s) (hnone : s.defaultInterpreter = none)
    (hready : Encoder.isReady e = true) (action : String) :
    e.encode action none = .error (.setup (.missingInterpreter .actionEncoder)) := by
  obtain ⟨config⟩ := e
  cases config with
  | none => cases hready
  | some c =>
    obtain rfl := h c rfl
    have hmissing : c.stateEncoder.resolve none = none := hnone
    rw [encode_of_isUsable hready, hmissing]

end ActionEncoder

/-! ## The entity encoder -/

namespace EntityEncoder

variable {e e' : EntityEncoder} {d : Domain} {s : StateEncoder} {u : Utterance}

/-- The state encoder that the encoder asks for an interpreter, if it is configured. -/
def RunsOn (s : StateEncoder) (e : EntityEncoder) : Prop :=
  ∀ c, e.config = some c → c.stateEncoder = some s

/-- The encoder with another interpreter to fall back on. -/
def replaceDefault (other : Option Interpreter) (e : EntityEncoder) : EntityEncoder :=
  { e with config := e.config.map fun c =>
      { c with stateEncoder := c.stateEncoder.map (·.replaceDefault other) } }

theorem encode_resolve (h : e.RunsOn s) (hs : s.PrefersSupplied) (u : Utterance)
    (supplied : Option Interpreter) : e.encode u (s.resolve supplied) = e.encode u supplied := by
  obtain ⟨boundaries, config⟩ := e
  cases config with
  | none => rfl
  | some c =>
    have hfound : c.resolve (s.resolve supplied) = c.resolve supplied := by
      simp only [Config.resolve, h c rfl, hs.resolve_resolve]
    exact encode_eq_of_resolve_eq rfl hfound

theorem encode_replaceDefault (h : e.RunsOn s) (hs : s.PrefersSupplied)
    (other : Option Interpreter) (u : Utterance) (interpreter : Interpreter) :
    (e.replaceDefault other).encode u (some interpreter) = e.encode u (some interpreter) := by
  obtain ⟨boundaries, config⟩ := e
  cases config with
  | none => rfl
  | some c =>
    obtain ⟨table, stateEncoder⟩ := c
    obtain rfl : stateEncoder = some s := h _ rfl
    exact encode_eq_of_resolve_eq rfl (hs interpreter).symm

theorem isReady_replaceDefault (other : Option Interpreter) (e : EntityEncoder) :
    Encoder.isReady (e.replaceDefault other) = Encoder.isReady e := by
  obtain ⟨boundaries, config⟩ := e
  cases config <;> rfl

theorem setup_replaceDefault (other : Option Interpreter)
    (h : (Encoder.setup d s).run e = .ok () e') :
    (Encoder.setup d (s.replaceDefault other)).run e = .ok () (e'.replaceDefault other) := by
  obtain ⟨table, htable, rfl⟩ := setup_ok h
  exact setup_of_table (Encoder.isReady_of_setup h) htable _

theorem runsOn_of_setup (h : (Encoder.setup d s).run e = .ok () e') : e'.RunsOn s := by
  obtain ⟨table, _, rfl⟩ := setup_ok h
  intro c hc
  rw [← Option.some.inj hc]

/-- An encoder looks for an interpreter where its table has something to tag. -/
theorem encode_none_eq_missingInterpreter_iff (h : e.RunsOn s)
    (hnone : s.defaultInterpreter = none) (u : Utterance) :
    e.encode u none = .error (.setup (.missingInterpreter .entityEncoder)) ↔
      ∃ table, e.table? = some table ∧ ¬ table.Skips u := by
  obtain ⟨boundaries, config⟩ := e
  cases config with
  | none => simp [encode, table?, pure, Except.pure]
  | some c =>
    have hmissing : c.resolve none = none := by
      rw [Config.resolve, h c rfl]
      exact hnone
    rw [encode_eq_missingInterpreter_iff, and_iff_left hmissing]
    simp [table?]

end EntityEncoder

/-! ## Both parts -/

namespace TargetEncoder

variable {e e' : TargetEncoder} {d : Domain} {s : StateEncoder} {t : Target}

/-- The parts that are configured share the state encoder. -/
structure RunsOn (s : StateEncoder) (e : TargetEncoder) : Prop where
  action : ∀ a, e.action = some a → a.RunsOn s
  entity : ∀ b, e.entity = some b → b.RunsOn s

/-- The encoder with another interpreter for its parts to fall back on. -/
def replaceDefault (other : Option Interpreter) (e : TargetEncoder) : TargetEncoder :=
  { e with
    action := e.action.map (·.replaceDefault other)
    entity := e.entity.map (·.replaceDefault other) }

/-- After a call that succeeds all parts share its state encoder. -/
theorem runsOn_of_setup (h : (setup d s).run e = .ok () e') : e'.RunsOn s := by
  obtain ⟨action, entity, haction, hentity, rfl⟩ := setup_eq_ok_iff.1 h
  exact ⟨forall_of_setupPart (fun _ _ => ActionEncoder.runsOn_of_setup) haction,
    forall_of_setupPart (fun _ _ => EntityEncoder.runsOn_of_setup) hentity⟩

/-- Setting up takes the default interpreter over without looking at it. -/
theorem setup_replaceDefault (other : Option Interpreter) (h : (setup d s).run e = .ok () e') :
    (setup d (s.replaceDefault other)).run e = .ok () (e'.replaceDefault other) := by
  obtain ⟨action, entity, haction, hentity, rfl⟩ := setup_eq_ok_iff.1 h
  have haction' :=
    setupPart_of_setup (fun _ _ => ActionEncoder.setup_replaceDefault other) haction
  have hentity' :=
    setupPart_of_setup (fun _ _ => EntityEncoder.setup_replaceDefault other) hentity
  exact setup_eq_ok_iff.2 ⟨_, _, haction', hentity', rfl⟩

/-! ## Examples -/

/-- Encoders encode examples alike if their parts do. -/
theorem encode_eq_of_parts {supplied supplied' : Option Interpreter}
    (haction : ∀ action, e'.encodeAction action supplied' = e.encodeAction action supplied)
    (hentity : ∀ u, e'.encodeUtterance u supplied' = e.encodeUtterance u supplied) (t : Target) :
    e'.encode t supplied' = e.encode t supplied := by
  rw [encode_eq, encode_eq, haction]
  cases t.utterance with
  | none => rfl
  | some u => rw [encodeSaid, encodeSaid, hentity]

/-- The interpreter that is found may as well be supplied. -/
theorem encode_resolve (h : e.RunsOn s) (hs : s.PrefersSupplied) (t : Target)
    (supplied : Option Interpreter) : e.encode t (s.resolve supplied) = e.encode t supplied := by
  refine encode_eq_of_parts ?_ ?_ t
  · intro action
    unfold encodeAction
    cases ha : e.action with
    | none => rfl
    | some a => simp only [Option.mapM_some, ActionEncoder.encode_resolve (h.action a ha) hs]
  · intro u
    unfold encodeUtterance
    cases hb : e.entity with
    | none => rfl
    | some b => simp only [Option.mapM_some, EntityEncoder.encode_resolve (h.entity b hb) hs]

/-- A supplied interpreter leaves the default one unused. -/
theorem encode_replaceDefault (h : e.RunsOn s) (hs : s.PrefersSupplied)
    (other : Option Interpreter) (t : Target) (interpreter : Interpreter) :
    (e.replaceDefault other).encode t (some interpreter) = e.encode t (some interpreter) := by
  refine encode_eq_of_parts ?_ ?_ t
  · intro action
    unfold encodeAction replaceDefault
    cases ha : e.action with
    | none => rfl
    | some a =>
      simp only [Option.map_some, Option.mapM_some, Encoder.requireReady,
        ActionEncoder.encode_replaceDefault (h.action a ha) hs,
        ActionEncoder.isReady_replaceDefault]
  · intro u
    unfold encodeUtterance replaceDefault
    cases hb : e.entity with
    | none => rfl
    | some b =>
      simp only [Option.map_some, Option.mapM_some, Encoder.requireReady,
        EntityEncoder.encode_replaceDefault (h.entity b hb) hs,
        EntityEncoder.isReady_replaceDefault]

/-! ## Batches -/

/-- Batches are encoded alike by encoders that encode examples alike and are ready alike. -/
theorem encodeBatch_eq_of_encode_eq {supplied supplied' : Option Interpreter}
    (hready : e'.firstUnready? = e.firstUnready?)
    (hthreshold : e'.parallelThreshold = e.parallelThreshold)
    (hencode : ∀ t, e'.encode t supplied' = e.encode t supplied) (choice : FailureChoice)
    (targets : List Target) :
    e'.encodeBatch choice targets supplied' = e.encodeBatch choice targets supplied := by
  cases h : e.firstUnready? with
  | some component => rw [encodeBatch_of_unready h, encodeBatch_of_unready (hready.trans h)]
  | none =>
    rw [encodeBatch_of_ready h, encodeBatch_of_ready (hready.trans h), hthreshold]
    simp only [hencode]

theorem firstUnready?_replaceDefault (other : Option Interpreter) (e : TargetEncoder) :
    (e.replaceDefault other).firstUnready? = e.firstUnready? := by
  simp only [firstUnready?, replaceDefault, Option.all_map,
    ActionEncoder.isReady_replaceDefault, EntityEncoder.isReady_replaceDefault]

/-! ## Without any interpreter -/

theorem encode_none_of_ready_action (h : e.RunsOn s) (hnone : s.defaultInterpreter = none)
    {a : ActionEncoder} (ha : e.action = some a) (hready : Encoder.isReady a = true) (t : Target) :
    e.encode t none = .error (.setup (.missingInterpreter .actionEncoder)) := by
  have hmissing := ActionEncoder.encode_none_eq_missingInterpreter (h.action a ha) hnone hready
  rw [encode_eq_error_iff, encodeAction, Encoder.mapM_requireReady, ha, Option.all_some, hready,
    if_pos rfl, Option.mapM_some, hmissing]
  exact .inl rfl

/-- The entity encoder lacks an interpreter where its table has something to tag. -/
theorem encodeUtterance_none_eq_missingInterpreter_iff (h : e.RunsOn s)
    (hnone : s.defaultInterpreter = none) (u : Utterance) :
    e.encodeUtterance u none = .error (.setup (.missingInterpreter .entityEncoder)) ↔
      ∃ table, e.table? = some table ∧ ¬ table.Skips u := by
  rw [encodeUtterance, Encoder.mapM_requireReady, table?]
  cases hb : e.entity with
  | none => simp [pure, Except.pure]
  | some b =>
    rw [Option.all_some, Option.bind_some,
      ← EntityEncoder.encode_none_eq_missingInterpreter_iff (h.entity b hb) hnone]
    cases hready : Encoder.isReady b with
    | false =>
      -- an encoder that is not set up encodes nothing by itself, and is found out before
      have hencode : b.encode u none = .ok ∅ := by
        rw [EntityEncoder.encode, EntityEncoder.isReady_eq_false_iff.1 hready]
        rfl
      rw [hencode]
      constructor
      · intro h
        cases h
      · intro h
        cases h
    | true =>
      rw [if_pos rfl, Option.mapM_eq_error_iff]
      simp

/-- Without an action encoder, an interpreter is missing where there is something to tag. -/
theorem encode_none_of_no_action (h : e.RunsOn s) (hnone : s.defaultInterpreter = none)
    (haction : e.action = none) (t : Target) :
    e.encode t none = .error (.setup (.missingInterpreter .entityEncoder)) ↔
      ∃ u table, t.utterance = some u ∧ e.table? = some table ∧ u.isEmpty = false ∧
        2 ≤ table.numTags := by
  have hok : e.encodeAction t.action none = .ok none := by
    rw [encodeAction, haction]
    rfl
  rw [encode_eq_error_iff, hok]
  cases t.utterance with
  | none => simp [encodeSaid]
  | some u =>
    have hsaid := encodeUtterance_none_eq_missingInterpreter_iff h hnone u
    simp only [TagTable.not_skips_iff] at hsaid
    simp [encodeSaid, hsaid]

/-! ## The laws together -/

/-- Of the state encoder with which a target encoder was set up, the default interpreter is a mere
stand-in.  Supplying it gives what supplying none gives.  A supplied interpreter gives the same
whatever the default one is.  If there is neither, a ready action encoder fails on every example,
and without an action encoder an example fails exactly if there is something to tag.

The two runs of a batch that are compared take the same choice of the failure to report.  It can be
any choice, so what workers may give is the same, and what a run in order does give. -/
theorem defaultInterpreter_stands_in {f : FallbackEncoder}
    (h : (setup d f.toStateEncoder).run e = .ok () e') :
    (∀ interpreter, f.defaultInterpreter = some interpreter →
      (∀ t, e'.encode t none = e'.encode t (some interpreter)) ∧
      ∀ choice targets, e'.encodeBatch choice targets none =
        e'.encodeBatch choice targets (some interpreter)) ∧
    (∀ other, ∃ e'',
      (setup d { f with defaultInterpreter := other }.toStateEncoder).run e = .ok () e'' ∧
      ∀ interpreter,
        (∀ t, e''.encode t (some interpreter) = e'.encode t (some interpreter)) ∧
        ∀ choice targets, e''.encodeBatch choice targets (some interpreter) =
          e'.encodeBatch choice targets (some interpreter)) ∧
    (f.defaultInterpreter = none → ∀ t,
      (∀ a, e'.action = some a → Encoder.isReady a = true →
        e'.encode t none = .error (.setup (.missingInterpreter .actionEncoder))) ∧
      (e'.action = none →
        (e'.encode t none = .error (.setup (.missingInterpreter .entityEncoder)) ↔
          ∃ u table, t.utterance = some u ∧ e'.table? = some table ∧ u.isEmpty = false ∧
            2 ≤ table.numTags))) := by
  have hruns := runsOn_of_setup h
  have hprefers := f.prefersSupplied_toStateEncoder
  refine ⟨?_, ?_, ?_⟩
  · intro interpreter hdefault
    have hfound : f.toStateEncoder.resolve none = some interpreter := hdefault
    have hencode : ∀ t, e'.encode t none = e'.encode t (some interpreter) := by
      intro t
      rw [← hfound, encode_resolve hruns hprefers]
    exact ⟨hencode, encodeBatch_eq_of_encode_eq rfl rfl hencode⟩
  · intro other
    have hsetup := setup_replaceDefault other h
    rw [FallbackEncoder.replaceDefault_toStateEncoder] at hsetup
    refine ⟨e'.replaceDefault other, hsetup, ?_⟩
    intro interpreter
    have hencode := fun t => encode_replaceDefault hruns hprefers other t interpreter
    exact ⟨hencode, encodeBatch_eq_of_encode_eq (firstUnready?_replaceDefault other e') rfl hencode⟩
  · intro hnone t
    exact ⟨fun a ha hready => encode_none_of_ready_action hruns hnone ha hready t,
      fun haction => encode_none_of_no_action hruns hnone haction t⟩

/-- What was said is read in two ways, by the interpreter to fall back on as two words, and by
another one as a whole.  A batch is worked off with the first one whether or not it is supplied, and
with the other one whether or not there is the first.  Set up with none, the action is what fails;
without it, what was said fails, unless that is nothing. -/
theorem defaultInterpreter_stands_in_reader :
    let d := Domain.ofLists ["greet"] ["Hi"] ["city"]
    let read (tokens : List Token) : Interpreter := fun m => .ok (some (m.setTokens .text tokens))
    let reader := read [⟨"to", 0, 2⟩, ⟨"paris", 3, 8⟩]
    let whole := read [⟨"to paris", 0, 8⟩]
    let f := FallbackEncoder.ofDomain d
    let said : Utterance := ⟨"to paris", [⟨3, 8, "paris", "city", none, none⟩]⟩
    let targets : List Target := [⟨"Hi", said⟩, ⟨"Hi", none⟩]
    let features (ids : List Nat) : List TargetFeatures :=
      [⟨some ∅, some (EntityEncoder.group ids)⟩, ⟨some ∅, none⟩]
    let missing (c : Component) : EncodeError := .setup (.missingInterpreter c)
    (∃ e', (setup d (f.withDefault reader).toStateEncoder).run (ofConfig .default) = .ok () e' ∧
      ∃ e'', (setup d f.toStateEncoder).run (ofConfig .default) = .ok () e'' ∧
        (∀ choice, e'.encodeBatch choice targets none = .ok (features [0, 4]) ∧
          e'.encodeBatch choice targets (some reader) = .ok (features [0, 4]) ∧
          e'.encodeBatch choice targets (some whole) = .ok (features [4]) ∧
          e''.encodeBatch choice targets (some whole) = .ok (features [4])) ∧
        e''.encode ⟨"Hi", said⟩ none = .error (missing .actionEncoder)) ∧
    ∃ e', (setup d f.toStateEncoder).run (ofParts none (some (.unconfigured true))) = .ok () e' ∧
      e'.encode ⟨"Hi", said⟩ none = .error (missing .entityEncoder) ∧
      e'.encode ⟨"Hi", some ⟨"", []⟩⟩ none ≠ .error (missing .entityEncoder) := by
  intro d read reader whole f said targets features missing
  let table := TagTable.ofNumbered (numberedTags true ["city"])
  let both (s : StateEncoder) : TargetEncoder :=
    ⟨some (.ofConfig s d.actionTexts), some ⟨true, some ⟨table, some s⟩⟩,
      Config.default.parallelThreshold⟩
  let s := (f.withDefault reader).toStateEncoder
  have hwith : (setup d s).run (ofConfig .default) = .ok () (both s) := rfl
  have hwithout :
      (setup d f.toStateEncoder).run (ofConfig .default) = .ok () (both f.toStateEncoder) := rfl
  have hentity : (setup d f.toStateEncoder).run (ofParts none (some (.unconfigured true))) =
      .ok () ⟨none, (both f.toStateEncoder).entity, Config.default.parallelThreshold⟩ := rfl
  -- what is read decides the features of the batch
  have hbatch (tokens : List Token) (htokens : tokens ≠ []) {supplied : Option Interpreter}
      (hfound : s.resolve supplied = some (read tokens)) {ids : List Nat}
      (hids : (((Message.ofUtterance said).setTokens .text tokens).computedTags true).map
        table.idForTag = ids) (choice : FailureChoice) :
      (both s).encodeBatch choice targets supplied = .ok (features ids) := by
    have haction : (both s).encodeAction "Hi" supplied = .ok (some ∅) := by
      refine Encoder.mapM_requireReady_of_ok (e := ActionEncoder.ofConfig s d.actionTexts) rfl ?_
      rw [ActionEncoder.ofConfig]
      rw [ActionEncoder.encode_of_isUsable rfl, hfound]
      rfl
    have hentities : (both s).encodeUtterance said supplied =
        .ok (some (EntityEncoder.group ids)) := by
      have hanswer : read tokens (.ofUtterance said) =
          .ok (some ((Message.ofUtterance said).setTokens .text tokens)) := rfl
      refine Encoder.mapM_requireReady_of_ok
        (e := (⟨true, some ⟨table, some s⟩⟩ : EntityEncoder)) rfl ?_
      rw [← hids]
      exact EntityEncoder.encode_of_answer (e := ⟨true, some ⟨table, some s⟩⟩)
        (c := ⟨table, some s⟩) rfl (u := said) rfl (by decide) hfound hanswer htokens
    refine encodeBatch_eq_ok_iff.2 ⟨rfl, ?_⟩
    exact .cons (encode_eq_ok_iff.2 ⟨haction, hentities⟩)
      (.cons (encode_eq_ok_iff.2 ⟨haction, rfl⟩) .nil)
  obtain ⟨hsupplied, hother, _⟩ := defaultInterpreter_stands_in hwith
  obtain ⟨_, _, haction⟩ := defaultInterpreter_stands_in hwithout
  obtain ⟨_, _, htags⟩ := defaultInterpreter_stands_in hentity
  obtain ⟨e'', hsetup, hsame⟩ := hother none
  obtain rfl : both f.toStateEncoder = e'' :=
    (EStateM.Result.ok.inj (hwithout.symm.trans hsetup)).2
  refine ⟨⟨_, hwith, _, hwithout, ?_, ?_⟩, _, hentity, ?_, ?_⟩
  · intro choice
    have hnone : (both s).encodeBatch choice targets none = .ok (features [0, 4]) :=
      hbatch [⟨"to", 0, 2⟩, ⟨"paris", 3, 8⟩] (List.cons_ne_nil _ _) rfl (by decide +kernel) choice
    have hwhole : (both s).encodeBatch choice targets (some whole) = .ok (features [4]) :=
      hbatch [⟨"to paris", 0, 8⟩] (List.cons_ne_nil _ _) rfl (by decide +kernel) choice
    exact ⟨hnone, ((hsupplied reader rfl).2 choice targets).symm.trans hnone, hwhole,
      ((hsame whole).2 choice targets).trans hwhole⟩
  · exact (haction rfl ⟨"Hi", said⟩).1 _ rfl rfl
  · exact ((htags rfl ⟨"Hi", said⟩).2 rfl).2 ⟨said, table, rfl, rfl, by decide, by decide⟩
  · intro hfails
    obtain ⟨u, _, hu, _, hsaid, _⟩ := ((htags rfl ⟨"Hi", some ⟨"", []⟩⟩).2 rfl).1 hfails
    rw [← Option.some.inj hu] at hsaid
    exact absurd hsaid (by decide)

end TargetEncoder

end TargetEncoding
