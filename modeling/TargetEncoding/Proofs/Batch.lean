import TargetEncoding.Proofs.ForStd
import TargetEncoding.Proofs.Interpretation
import TargetEncoding.TargetEncoder

/-!
# A batch is encoded example by example

A batch is worked off in order, or by several workers when it is large.  Either way it succeeds if
every example does, with the features of the examples in order.  The workers may report the failure
of another example than the first, so the size from which on they are used can be told from the
outside only if examples fail in different ways.

## Key results

- `FailureChoice.collect_eq_ok_iff`: workers succeed if a run in order does
- `FailureChoice.mem_of_collect_eq_error`: workers report the failure of some example
- `TargetEncoder.encodeBatch_eq_ok_iff`: when a batch succeeds, and with what
- `TargetEncoder.encodeBatch_one_by_one`: what a batch gives, for every size and threshold
-/

namespace TargetEncoding

/-! ## Workers -/

namespace FailureChoice

variable {α β : Type} {choice : FailureChoice} {error : EncodeError}

/-- If nothing fails, all values are collected. -/
theorem collect_of_forall₂ {f : α → Except EncodeError β} {l : List α} {bs : List β}
    (h : List.Forall₂ (fun a b => f a = .ok b) l bs) : choice.collect (l.map f) = .ok bs := by
  induction h with
  | nil => rfl
  | @cons a b l bs hb _ ih =>
    rw [collect] at ih ⊢
    rw [List.map_cons, hb, List.filterMap_cons_none rfl]
    split at ih
    · -- nothing fails behind the first element
      rw [Except.ok.injEq] at ih
      have hvalue : (Except.ok b : Except EncodeError β).toOption = some b := rfl
      rw [List.filterMap_cons_some hvalue, ih]
    · exact nomatch ih

/-- The failure that is reported is one of those that there are. -/
theorem mem_of_collect_eq_error {results : List (Except EncodeError α)}
    (h : choice.collect results = .error error) : .error error ∈ results := by
  rw [collect] at h
  split at h
  · exact nomatch h
  · rename_i e es hfailures
    have hmem := choice.choose_mem e es
    rw [Except.error.inj h, ← hfailures, List.mem_filterMap] at hmem
    obtain ⟨result, hresult, hsome⟩ := hmem
    cases result with
    | ok => exact nomatch hsome
    | error e' => rwa [Option.some.inj hsome] at hresult

/-- If something fails, a failure is reported. -/
theorem exists_collect_eq_error {results : List (Except EncodeError α)}
    (h : .error error ∈ results) : ∃ error', choice.collect results = .error error' := by
  rw [collect]
  split
  · rename_i hnone
    exact nomatch List.filterMap_eq_nil_iff.1 hnone _ h
  · exact ⟨_, rfl⟩

/-- Workers succeed on a list if a run in order does, with the same values. -/
theorem collect_eq_ok_iff {f : α → Except EncodeError β} {l : List α} {bs : List β} :
    choice.collect (l.map f) = .ok bs ↔ l.mapM f = .ok bs := by
  constructor
  · intro hok
    cases hrun : l.mapM f with
    | ok bs' =>
      rw [collect_of_forall₂ (List.mapM_eq_ok_iff.1 hrun)] at hok
      exact hok
    | error error =>
      -- what fails in order is there for the workers to report
      obtain ⟨before, a, after, rfl, _, ha⟩ := List.mapM_eq_error_iff.1 hrun
      have hmem : .error error ∈ (before ++ a :: after).map f :=
        List.mem_map.2 ⟨a, by simp, ha⟩
      obtain ⟨error', herror⟩ : ∃ error', choice.collect ((before ++ a :: after).map f) =
          .error error' := exists_collect_eq_error hmem
      exact nomatch hok.symm.trans herror
  · intro hok
    exact collect_of_forall₂ (List.mapM_eq_ok_iff.1 hok)

end FailureChoice

/-! ## Readiness -/

/-- A part that is left out counts as ready. -/
theorem Encoder.forM_requireReady {ε : Type} [Encoder ε] (part : Option ε) :
    part.forM requireReady =
      if part.all isReady then .ok () else .error (.notReady (component ε)) := by
  cases part <;> rfl

namespace TargetEncoder

/-- The first part that is there and is not ready. -/
def firstUnready? (e : TargetEncoder) : Option Component :=
  if ¬ e.action.all Encoder.isReady then some .actionEncoder
  else if ¬ e.entity.all Encoder.isReady then some .entityEncoder
  else none

theorem requireReady_eq (e : TargetEncoder) :
    e.requireReady = match e.firstUnready? with
      | some component => .error (.notReady component)
      | none => .ok () := by
  rw [requireReady, Encoder.forM_requireReady, Encoder.forM_requireReady, firstUnready?]
  cases e.action.all Encoder.isReady with
  | false => rfl
  | true => cases e.entity.all Encoder.isReady <;> rfl

theorem isReady_eq_true_iff (e : TargetEncoder) : e.isReady = true ↔ e.firstUnready? = none := by
  rw [isReady, firstUnready?]
  cases e.action.all Encoder.isReady with
  | false => simp
  | true => cases e.entity.all Encoder.isReady <;> simp

/-! ## Batches -/

variable {e : TargetEncoder} {choice : FailureChoice} {targets : List Target}
  {supplied : Option Interpreter} {results : List TargetFeatures} {error : EncodeError}

/-- Nothing is encoded unless every part is ready, not even an empty batch. -/
theorem encodeBatch_of_unready {component : Component} (h : e.firstUnready? = some component) :
    e.encodeBatch choice targets supplied = .error (.setup (.notReady component)) := by
  rw [encodeBatch, requireReady_eq, h]
  rfl

theorem encodeBatch_of_ready (h : e.firstUnready? = none) :
    e.encodeBatch choice targets supplied =
      if max e.parallelThreshold 1 ≤ targets.length then
        choice.collect (targets.map (e.encode · supplied))
      else targets.mapM (e.encode · supplied) := by
  rw [encodeBatch, requireReady_eq, h]
  rfl

/-- A batch succeeds if every part is ready and every example succeeds, with the features of the
examples in order. -/
theorem encodeBatch_eq_ok_iff :
    e.encodeBatch choice targets supplied = .ok results ↔
      e.isReady = true ∧
        List.Forall₂ (fun t features => e.encode t supplied = .ok features) targets results := by
  rw [isReady_eq_true_iff]
  cases h : e.firstUnready? with
  | some component => simp [encodeBatch_of_unready h]
  | none =>
    rw [encodeBatch_of_ready h, ← List.mapM_eq_ok_iff]
    split
    · simp [FailureChoice.collect_eq_ok_iff]
    · simp

/-- A batch that is not held up by a part fails as one of its examples does, and as the first one
of them if it is worked off in order. -/
theorem exists_of_encodeBatch_eq_error (hready : e.isReady = true)
    (h : e.encodeBatch choice targets supplied = .error error) :
    ∃ before t after, targets = before ++ t :: after ∧ e.encode t supplied = .error error ∧
      (targets.length < max e.parallelThreshold 1 →
        ∀ t' ∈ before, ∃ features, e.encode t' supplied = .ok features) := by
  rw [encodeBatch_of_ready (e.isReady_eq_true_iff.1 hready)] at h
  split at h
  · rename_i hlarge
    obtain ⟨t, ht, herror⟩ := List.mem_map.1 (FailureChoice.mem_of_collect_eq_error h)
    obtain ⟨before, after, rfl⟩ := List.append_of_mem ht
    exact ⟨before, t, after, rfl, herror, fun hsmall => absurd hlarge (by omega)⟩
  · obtain ⟨before, t, after, rfl, hbefore, herror⟩ := List.mapM_eq_error_iff.1 h
    exact ⟨before, t, after, rfl, herror, fun _ => hbefore⟩

section SameParts

variable {e' : TargetEncoder} {choice' : FailureChoice}

/-- What an encoder makes of an example depends on its parts only. -/
theorem encode_congr (haction : e'.action = e.action) (hentity : e'.entity = e.entity)
    (t : Target) (supplied : Option Interpreter) : e'.encode t supplied = e.encode t supplied := by
  simp only [encode, encodeAction, encodeUtterance, haction, hentity]

theorem firstUnready?_congr (haction : e'.action = e.action) (hentity : e'.entity = e.entity) :
    e'.firstUnready? = e.firstUnready? := by
  rw [firstUnready?, firstUnready?, haction, hentity]

/-- Encoders with the same parts succeed on the same batches. -/
theorem encodeBatch_eq_ok_congr (haction : e'.action = e.action) (hentity : e'.entity = e.entity) :
    e'.encodeBatch choice' targets supplied = .ok results ↔
      e.encodeBatch choice targets supplied = .ok results := by
  rw [encodeBatch_eq_ok_iff, encodeBatch_eq_ok_iff, isReady_eq_true_iff, isReady_eq_true_iff,
    firstUnready?_congr haction hentity]
  simp only [encode_congr haction hentity]

/-- Encoders with the same parts give the same on every batch whose examples do not fail in
different ways. -/
theorem encodeBatch_congr (haction : e'.action = e.action) (hentity : e'.entity = e.entity)
    (halike : ∀ t ∈ targets, ∀ t' ∈ targets, ∀ error error', e.encode t supplied = .error error →
      e.encode t' supplied = .error error' → error = error') :
    e'.encodeBatch choice' targets supplied = e.encodeBatch choice targets supplied := by
  have hunready := firstUnready?_congr haction hentity
  cases hbatch : e.encodeBatch choice targets supplied with
  | ok results => exact (encodeBatch_eq_ok_congr haction hentity).2 hbatch
  | error error =>
    cases h : e.firstUnready? with
    | some component =>
      -- both are held up by the same part
      rw [← hbatch, encodeBatch_of_unready h, encodeBatch_of_unready (hunready.trans h)]
    | none =>
      cases hbatch' : e'.encodeBatch choice' targets supplied with
      | ok results =>
        exact nomatch hbatch.symm.trans ((encodeBatch_eq_ok_congr haction hentity).1 hbatch')
      | error error' =>
        -- each reports a failing example, and these fail alike
        have hready := e.isReady_eq_true_iff.2 h
        have hready' := e'.isReady_eq_true_iff.2 (hunready.trans h)
        obtain ⟨_, t, _, hsplit, ht, _⟩ := exists_of_encodeBatch_eq_error hready hbatch
        obtain ⟨_, t', _, hsplit', ht', _⟩ := exists_of_encodeBatch_eq_error hready' hbatch'
        rw [encode_congr haction hentity] at ht'
        have hmem : t ∈ targets := by simp [hsplit]
        have hmem' : t' ∈ targets := by simp [hsplit']
        rw [halike t' hmem' t hmem error' error ht' ht]

end SameParts

/-- A batch succeeds exactly when every part is ready and every example succeeds, with the features
of the examples in order.  If a part is not ready the batch fails with the first such part, even if
it is empty.  Otherwise it fails as one of its examples does, and as the first one that fails if it
is smaller than the threshold.  So the threshold can be told only from batches whose examples fail
in different ways. -/
theorem encodeBatch_one_by_one (e : TargetEncoder) (choice : FailureChoice) (targets : List Target)
    (supplied : Option Interpreter) :
    ((∃ results, e.encodeBatch choice targets supplied = .ok results) ↔
      e.isReady = true ∧ ∀ t ∈ targets, ∃ features, e.encode t supplied = .ok features) ∧
    (∀ results, e.encodeBatch choice targets supplied = .ok results →
      List.Forall₂ (fun t features => e.encode t supplied = .ok features) targets results) ∧
    (e.isReady = false → ∃ component, e.firstUnready? = some component ∧
      e.encodeBatch choice targets supplied = .error (.setup (.notReady component))) ∧
    (e.isReady = true → ∀ error, e.encodeBatch choice targets supplied = .error error →
      ∃ before t after, targets = before ++ t :: after ∧ e.encode t supplied = .error error ∧
        (targets.length < max e.parallelThreshold 1 →
          ∀ t' ∈ before, ∃ features, e.encode t' supplied = .ok features)) ∧
    ((∀ t ∈ targets, ∀ t' ∈ targets, ∀ error error', e.encode t supplied = .error error →
        e.encode t' supplied = .error error' → error = error') →
      ∀ (threshold : Nat) (choice' : FailureChoice),
        { e with parallelThreshold := threshold }.encodeBatch choice' targets supplied =
          e.encodeBatch choice targets supplied) := by
  refine ⟨?_, ?_, ?_, ?_, fun halike _ _ => encodeBatch_congr rfl rfl halike⟩
  · rw [← List.exists_forall₂_iff, ← exists_and_left]
    exact exists_congr fun _ => encodeBatch_eq_ok_iff
  · intro results hok
    exact (encodeBatch_eq_ok_iff.1 hok).2
  · intro hunready
    cases h : e.firstUnready? with
    | none => exact nomatch hunready.symm.trans (e.isReady_eq_true_iff.2 h)
    | some component => exact ⟨component, rfl, encodeBatch_of_unready h⟩
  · intro hready error herror
    exact exists_of_encodeBatch_eq_error hready herror

/-- Two of three examples fail.  Their mentions have nothing in common but the entity and the span,
which is all that the failures tell, so workers report what a run in order does.  An encoder that is
not set up names its first part for an empty batch. -/
theorem encodeBatch_one_by_one_unfit :
    let table := TagTable.ofNumbered (numberedTags true ["city"])
    let e := ofParts none (some (.ofTable true table))
    let reader := WordInterpreter.plain.interpret
    let said (value : String) (role : Option String) : Utterance :=
      ⟨"to paris", [⟨3, 9, value, "city", role, none⟩]⟩
    let targets : List Target :=
      [⟨"Hi", none⟩, ⟨"Hi", said "paris" none⟩, ⟨"Hi", said "Paris!" (some "to")⟩]
    e.isReady = true ∧
      (∀ (threshold : Nat) (choice : FailureChoice),
        { e with parallelThreshold := threshold }.encodeBatch choice targets (some reader) =
          .error (.interpret (.invalidSpan "city" 3 9 8))) ∧
      (ofConfig .default).isReady = false ∧
      (ofConfig .default).encodeBatch .earliest [] none =
        .error (.setup (.notReady .actionEncoder)) := by
  intro table e reader said targets
  have hready : e.isReady = true := rfl
  have hunready : (ofConfig .default).isReady = false := rfl
  have hsilent : e.encode ⟨"Hi", none⟩ (some reader) = .ok ⟨none, none⟩ := rfl
  have hunfit (value : String) (role : Option String) :
      e.encode ⟨"Hi", said value role⟩ (some reader) =
        .error (.interpret (.invalidSpan "city" 3 9 8)) := by
    have hcheck := Message.checkMentions_of_unfit (m := .ofUtterance (said value role)) rfl
      (List.nil_append _).symm nofun fun hfit => absurd hfit.2 (by decide : ¬ 9 ≤ "to paris".length)
    have hlength : (said value role).text.length = 8 := (by decide : "to paris".length = 8)
    rw [hlength] at hcheck
    have hanswer : reader (.ofUtterance (said value role)) = .error (.invalidSpan "city" 3 9 8) :=
      WordInterpreter.plain.interpret_of_error _ hcheck
    have hencode : e.encode ⟨"Hi", said value role⟩ (some reader) =
        (some <$> (EntityEncoder.encodeAnswer true table <$>
          (liftM (reader (.ofUtterance (said value role))) : Except EncodeError _))) >>=
        fun entities => .ok ⟨none, entities⟩ := rfl
    rw [hencode, hanswer]
    rfl
  have halike : ∀ t ∈ targets, ∀ error, e.encode t (some reader) = .error error →
      error = .interpret (.invalidSpan "city" 3 9 8) := by
    intro t ht error herror
    simp only [targets, List.mem_cons, List.not_mem_nil, or_false] at ht
    obtain rfl | rfl | rfl := ht
    · exact nomatch hsilent.symm.trans herror
    · exact Except.error.inj (herror.symm.trans (hunfit _ _))
    · exact Except.error.inj (herror.symm.trans (hunfit _ _))
  obtain ⟨hok, _, _, hfails, hsame⟩ := encodeBatch_one_by_one e .earliest targets (some reader)
  refine ⟨hready, ?_, hunready, ?_⟩
  · intro threshold choice
    rw [hsame fun t ht t' ht' _ _ h h' => (halike t ht _ h).trans (halike t' ht' _ h').symm]
    cases hbatch : e.encodeBatch .earliest targets (some reader) with
    | ok results =>
      obtain ⟨_, hall⟩ := hok.1 ⟨results, hbatch⟩
      obtain ⟨_, hfeatures⟩ := hall ⟨"Hi", said "paris" none⟩ (by simp [targets])
      exact nomatch (hunfit _ _).symm.trans hfeatures
    | error error =>
      obtain ⟨_, t, _, hsplit, ht, _⟩ := hfails hready error hbatch
      rw [halike t (by simp [hsplit]) error ht]
  · obtain ⟨component, hfirst, hbatch⟩ :=
      (encodeBatch_one_by_one (ofConfig .default) .earliest [] none).2.2.1 hunready
    obtain rfl : .actionEncoder = component := Option.some.inj hfirst
    exact hbatch

end TargetEncoder

end TargetEncoding
