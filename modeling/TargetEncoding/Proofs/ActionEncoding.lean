import TargetEncoding.Proofs.ActionLabels
import TargetEncoding.Proofs.Setup

/-!
# What becomes of an action

An action that the bot says verbatim is given to the interpreter by its text, any other one by its
name.  What the interpreter finds under that attribute is passed on.  Where it finds nothing, the
name of an action is encoded by its position, so that no two actions look alike; a text, or a name
that is not known, has no features then.

## Key results

- `IsOneHot.eq_of_beq`: a one-hot row belongs to one action
- `FallbackEncoder.exists_isOneHot`: every action has a one-hot row
- `FallbackEncoder.outcome_group_features`: what is filed for an action that was answered
- `ActionEncoder.encode_of_setup`: the state encoder is given the action by its text or by its name
- `ActionEncoder.encode_outcome`: all that can become of an action
-/

namespace TargetEncoding

/-! ## One-hot rows -/

/-- The feature is one row for the utterance, as wide as there are actions, with a one in the column
of the action and nothing else. -/
structure IsOneHot (d : Domain) (action : String) (f : Feature) : Prop where
  kind : f.kind = .sentence
  attr : f.attr = .actionName
  origin : f.origin = FallbackEncoder.oneHotOrigin
  matrix : ∃ m i, f.matrix = .sparse m ∧ m.shape = (1, d.numActions) ∧
    d.index? action = some i ∧ m.entries = #[⟨0, i, 1⟩]

theorem Entry.cell_eq_of_beq {a b : Entry} (h : (a == b) = true) : a.cell = b.cell := by
  have hcell : (a.cell == b.cell) = true := (Bool.and_eq_true_iff.1 h).1
  exact LawfulBEq.eq_of_beq hcell

/-- Rows that are equal belong to the same action. -/
theorem IsOneHot.eq_of_beq {d : Domain} {a b : String} {f g : Feature} (hf : IsOneHot d a f)
    (hg : IsOneHot d b g) (h : (f == g) = true) : a = b := by
  obtain ⟨m, i, hm, _, hi, hmentries⟩ := hf.matrix
  obtain ⟨n, j, hn, _, hj, hnentries⟩ := hg.matrix
  have hmatrix : (f.matrix == g.matrix) = true := (Bool.and_eq_true_iff.1 h).2
  rw [hm, hn] at hmatrix
  have hentries : (m.entries == n.entries) = true := (Bool.and_eq_true_iff.1 hmatrix).2
  rw [hmentries, hnentries] at hentries
  -- the only entries stand in the same cell, and so in the same column
  have hentry : ((⟨0, i, 1⟩ : Entry) == ⟨0, j, 1⟩) = true := by simpa using hentries
  obtain rfl : i = j := (Prod.mk.inj (Entry.cell_eq_of_beq hentry)).2
  -- both actions are the one in that place
  have ha := (Domain.index?_eq_some_iff.1 hi).1
  have hb := (Domain.index?_eq_some_iff.1 hj).1
  exact Option.some.inj (ha.symm.trans hb)

/-! ## The state encoder -/

/-- The attribute under which an action is given. -/
def Domain.attrOf (d : Domain) (action : String) : Attribute :=
  if action ∈ d.actionTexts then .actionText else .actionName

namespace ActionForm

/-- The form in which an action of the domain is given. -/
theorem ofAction_isActionText (d : Domain) (action : String) :
    ofAction action (d.isActionText action) =
      if action ∈ d.actionTexts then .text action else .name action := by
  simp [ofAction, Domain.isActionText]

theorem attr_ofAction (d : Domain) (action : String) :
    (ofAction action (d.isActionText action)).attr = d.attrOf action := by
  rw [ofAction_isActionText, Domain.attrOf]
  split <;> rfl

theorem message_ofAction (d : Domain) (action : String) :
    (ofAction action (d.isActionText action)).message = .ofText (d.attrOf action) action := by
  rw [ofAction_isActionText, Domain.attrOf]
  split <;> rfl

end ActionForm

/-- The features that are found under an attribute; without an answer there are none. -/
def featuresFound (answer : Option Message) (attr : Attribute) : List Feature :=
  answer.elim [] (·.featuresOf attr)

/-- What is filed for an action after the interpreter has answered. -/
structure Outcome (d : Domain) (action : String) (answer : Option Message)
    (groups : FeatureGroups) : Prop where
  /-- There is one group at most, under the name of the attribute. -/
  keyed : groups = ∅ ∨ ∃ features, features ≠ [] ∧
    groups = (∅ : FeatureGroups).insert (d.attrOf action).name features
  /-- What is found is passed on. -/
  of_found : featuresFound answer (d.attrOf action) ≠ [] →
    groups = (∅ : FeatureGroups).insert (d.attrOf action).name
      (featuresFound answer (d.attrOf action))
  /-- The name of an action has its one-hot row to stand in for it. -/
  of_name : featuresFound answer (d.attrOf action) = [] → action ∈ d.actionNames →
    action ∉ d.actionTexts →
    ∃ row, IsOneHot d action row ∧
      groups = (∅ : FeatureGroups).insert (d.attrOf action).name [row]
  /-- Nothing stands in for a text, or for what is not known. -/
  of_rest : featuresFound answer (d.attrOf action) = [] →
    action ∈ d.actionTexts ∨ action ∉ d.actionNames → groups = ∅

namespace FallbackEncoder

variable {d : Domain} {action : String}

/-- Every action of the domain has a one-hot row. -/
theorem exists_isOneHot (h : action ∈ d.actionNames ++ d.actionTexts) (f : FallbackEncoder) :
    ∃ row, (f.prepare d).oneHot? action = some row ∧ IsOneHot d action row := by
  obtain ⟨i, hlabel⟩ | hunknown := d.label_or_unknown action
  · obtain ⟨m, hrow, hshape, hentries⟩ := oneHot?_of_isLabel hlabel f
    exact ⟨_, hrow, rfl, rfl, rfl, m, i, rfl, hshape, Domain.index?_eq_some_iff.2 hlabel, hentries⟩
  · exact absurd h hunknown

theorem features_of_found (f : FallbackEncoder) {form : ActionForm} {answer : Option Message}
    (h : featuresFound answer form.attr ≠ []) :
    f.features form answer = featuresFound answer form.attr := by
  unfold features
  apply if_neg
  rw [List.isEmpty_iff]
  exact h

theorem features_of_not_found (f : FallbackEncoder) {form : ActionForm} {answer : Option Message}
    (h : featuresFound answer form.attr = []) : f.features form answer = f.fallback form := by
  unfold features
  apply if_pos
  rw [List.isEmpty_iff]
  exact h

theorem group_of_ne_nil {features : List Feature} (h : features ≠ []) (attr : Attribute) :
    group attr features = (∅ : FeatureGroups).insert attr.name features := by
  simp [group, h]

theorem group_nil (attr : Attribute) : group attr [] = ∅ := by
  simp [group]

/-- The one-hot row stands in for the name of an action. -/
theorem fallback_of_name (hname : action ∈ d.actionNames) (htext : action ∉ d.actionTexts)
    (f : FallbackEncoder) :
    ∃ row, IsOneHot d action row ∧
      (f.prepare d).fallback (.ofAction action (d.isActionText action)) = [row] := by
  obtain ⟨row, hrow, honeHot⟩ := exists_isOneHot (List.mem_append_left _ hname) f
  refine ⟨row, honeHot, ?_⟩
  rw [ActionForm.ofAction_isActionText, if_neg htext, fallback, hrow, Option.toList_some]

/-- Nothing stands in for a text, or for what is not known. -/
theorem fallback_of_rest (h : action ∈ d.actionTexts ∨ action ∉ d.actionNames)
    (f : FallbackEncoder) :
    (f.prepare d).fallback (.ofAction action (d.isActionText action)) = [] := by
  rw [ActionForm.ofAction_isActionText]
  split
  · rfl
  · rename_i htext
    have hunknown : action ∉ d.actionNames ++ d.actionTexts := by
      simp only [List.mem_append, not_or]
      exact ⟨h.resolve_left htext, htext⟩
    rw [fallback, oneHot?_of_not_mem hunknown, Option.toList_none]

/-- What is found is filed under the attribute of the action, or else what stands in for it. -/
theorem outcome_group_features (d : Domain) (action : String) (answer : Option Message)
    (f : FallbackEncoder) :
    Outcome d action answer (group (d.attrOf action)
      ((f.prepare d).features (.ofAction action (d.isActionText action)) answer)) := by
  have hattr := ActionForm.attr_ofAction d action
  constructor
  -- whatever is filed goes under the one attribute
  · generalize (f.prepare d).features _ answer = features
    by_cases hnil : features = []
    · rw [hnil]
      exact .inl (group_nil _)
    · exact .inr ⟨features, hnil, group_of_ne_nil hnil _⟩
  · intro hfound
    rw [← hattr] at hfound
    rw [features_of_found _ hfound, group_of_ne_nil hfound, hattr]
  · intro hnone hname htext
    rw [← hattr] at hnone
    obtain ⟨row, honeHot, hrow⟩ := fallback_of_name hname htext f
    refine ⟨row, honeHot, ?_⟩
    rw [features_of_not_found _ hnone, hrow, group_of_ne_nil (List.cons_ne_nil _ _)]
  · intro hnone hrest
    rw [← hattr] at hnone
    rw [features_of_not_found _ hnone, fallback_of_rest hrest, group_nil]

end FallbackEncoder

/-! ## The action encoder -/

namespace ActionEncoder

variable {e e' : ActionEncoder} {d : Domain} {f : FallbackEncoder}

/-- Set up with a state encoder that was prepared for the same domain, the encoder is ready if there
are texts. -/
theorem isReady_of_setup_prepare
    (h : (Encoder.setup d (f.prepare d).toStateEncoder).run e = .ok () e') :
    Encoder.isReady e' = true ↔ d.actionTexts ≠ [] := by
  rw [isReady_of_setup_iff h]
  apply and_iff_right_of_imp
  -- a text is an action, so the state encoder has a position for it
  intro htexts
  show (!(firstPositions d.actions).isEmpty) = true
  rw [Bool.not_eq_true', Std.ExtTreeMap.isEmpty_eq_false_iff, firstPositions_eq_empty_iff]
  simp [Domain.actions, htexts]

/-- An encoder that can be used hands the action over with the interpreter that is found. -/
theorem encode_of_isUsable {c : Config} (h : c.isUsable = true) (action : String)
    (supplied : Option Interpreter) :
    encode ⟨some c⟩ action supplied =
      match c.stateEncoder.resolve supplied with
      | none => .error (.setup (.missingInterpreter .actionEncoder))
      | some interpreter =>
        (c.stateEncoder.encode (c.form action) interpreter).mapError .interpret := by
  simp only [encode, readyConfig, h, if_true]
  show (match c.stateEncoder.resolve supplied with | none => _ | some interpreter => _) = _
  cases c.stateEncoder.resolve supplied <;> rfl

/-- The state encoder is given the action by its text or by its name. -/
theorem encode_of_setup (hd : d.actionTexts ≠ [])
    (hsetup : (Encoder.setup d (f.prepare d).toStateEncoder).run e = .ok () e')
    {supplied : Option Interpreter} {interpreter : Interpreter}
    (hfound : (supplied <|> f.defaultInterpreter) = some interpreter) (action : String) :
    e'.encode action supplied =
      ((f.prepare d).encode (.ofAction action (d.isActionText action)) interpreter).mapError
        .interpret := by
  have husable := (isReady_of_setup_prepare hsetup).2 hd
  rw [setup_ok hsetup] at husable ⊢
  -- the texts that were taken over tell the actions apart as those of the domain do
  have hform : Config.form ⟨(f.prepare d).toStateEncoder, .ofList d.actionTexts⟩ action =
      .ofAction action (d.isActionText action) := by
    simp [Config.form, Domain.isActionText]
  have hresolve : (f.prepare d).toStateEncoder.resolve supplied = some interpreter := hfound
  unfold ofConfig
  rw [encode_of_isUsable husable, hresolve, hform]
  rfl

/-- An interpreter that answers settles the outcome. -/
theorem exists_outcome (hd : d.actionTexts ≠ [])
    (hsetup : (Encoder.setup d (f.prepare d).toStateEncoder).run e = .ok () e')
    {supplied : Option Interpreter} {interpreter : Interpreter}
    (hfound : (supplied <|> f.defaultInterpreter) = some interpreter) {action : String}
    {answer : Option Message}
    (hanswer : interpreter (.ofText (d.attrOf action) action) = .ok answer) :
    ∃ groups, e'.encode action supplied = .ok groups ∧ Outcome d action answer groups := by
  rw [encode_of_setup hd hsetup hfound, FallbackEncoder.encode, ActionForm.message_ofAction,
    ActionForm.attr_ofAction, hanswer]
  exact ⟨_, rfl, FallbackEncoder.outcome_group_features d action answer f⟩

/-- With texts in the domain, an action is given to the interpreter that is found, by its text or
else by its name.  What the interpreter complains of is passed on; if it answers, the outcome is
settled by what it found.  One-hot rows, which stand in for what is not found, differ from action to
action. -/
theorem encode_outcome (hd : d.actionTexts ≠ [])
    (hsetup : (Encoder.setup d (f.prepare d).toStateEncoder).run e = .ok () e') :
    (∀ (action : String) (supplied : Option Interpreter) (interpreter : Interpreter),
      (supplied <|> f.defaultInterpreter) = some interpreter →
      match interpreter (.ofText (d.attrOf action) action) with
      | .error err => e'.encode action supplied = .error (.interpret err)
      | .ok answer =>
        ∃ groups, e'.encode action supplied = .ok groups ∧ Outcome d action answer groups) ∧
    ∀ a b row row', IsOneHot d a row → IsOneHot d b row' → (row == row') = true → a = b := by
  constructor
  · intro action supplied interpreter hfound
    cases hanswer : interpreter (.ofText (d.attrOf action) action) with
    | error err =>
      rw [encode_of_setup hd hsetup hfound, FallbackEncoder.encode, ActionForm.message_ofAction,
        hanswer]
      rfl
    | ok answer => exact exists_outcome hd hsetup hfound hanswer
  · intro a b row row' hrow hrow' heq
    exact hrow.eq_of_beq hrow' heq

/-- Without an answer, names are encoded by their positions and a text is not, even if it is also a
name.  An interpreter that fails is asked for the text. -/
theorem encode_outcome_noAnswer :
    let d := Domain.ofLists ["greet", "ask", "bye", "greet"] ["Hi", "ask"] []
    let silent : Interpreter := fun _ => .ok none
    let failing : Interpreter := fun m =>
      if m.texts.actionText = some "ask" then .error .missingText else .ok none
    d.actionTexts ≠ [] ∧
    ∃ e',
      (Encoder.setup d (FallbackEncoder.ofDomain d).toStateEncoder).run unconfigured = .ok () e' ∧
      (∃ greet bye, IsOneHot d "greet" greet ∧ IsOneHot d "bye" bye ∧ ¬ (greet == bye) = true ∧
        e'.encode "greet" (some silent) = .ok ((∅ : FeatureGroups).insert "action_name" [greet]) ∧
        e'.encode "bye" (some silent) = .ok ((∅ : FeatureGroups).insert "action_name" [bye])) ∧
      e'.encode "ask" (some silent) = .ok ∅ ∧
      e'.encode "ask" (some failing) = .error (.interpret .missingText) := by
  intro d silent failing
  have hd : d.actionTexts ≠ [] := by decide
  obtain ⟨e', hsetup⟩ : ∃ e',
      (Encoder.setup d (FallbackEncoder.ofDomain d).toStateEncoder).run unconfigured = .ok () e' :=
    ⟨_, rfl⟩
  obtain ⟨houtcome, hdiffer⟩ := encode_outcome hd hsetup
  obtain ⟨_, hgreet, hgreet'⟩ := houtcome "greet" (some silent) silent rfl
  obtain ⟨_, hbye, hbye'⟩ := houtcome "bye" (some silent) silent rfl
  obtain ⟨_, hask, hask'⟩ := houtcome "ask" (some silent) silent rfl
  obtain ⟨greet, hgreetRow, rfl⟩ := hgreet'.of_name rfl (by decide) (by decide)
  obtain ⟨bye, hbyeRow, rfl⟩ := hbye'.of_name rfl (by decide) (by decide)
  obtain rfl := hask'.of_rest rfl (.inl (by decide))
  have hne : ¬ (greet == bye) = true := by
    intro heq
    exact absurd (hdiffer _ _ _ _ hgreetRow hbyeRow heq) (by decide)
  have hfails : e'.encode "ask" (some failing) = .error (.interpret .missingText) :=
    houtcome "ask" (some failing) failing rfl
  exact ⟨hd, e', hsetup, ⟨greet, bye, hgreetRow, hbyeRow, hne, hgreet, hbye⟩, hask, hfails⟩

end ActionEncoder

end TargetEncoding
