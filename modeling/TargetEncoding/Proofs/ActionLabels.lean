import TargetEncoding.Encoder.ActionIndexer
import TargetEncoding.Proofs.ForStd
import TargetEncoding.StateEncoder.Fallback

/-!
# The number of an action

An action is numbered by its first position among the names and texts of a domain.  It is found by
searching the list, or looked up in a table that was filled from the list; the table keeps the first
position that is entered for an action, so both ways agree also if actions are repeated.

## Key results

- `getElem?_firstPositions`: the table holds what the search finds
- `Domain.index?_eq_some_iff`: what the search finds is the label
- `ActionIndexer.encode_of_setup`: an indexer that is set up looks actions up in the table
- `FallbackEncoder.oneHot?_prepare`: the one-hot row has its entry in the column of the label
- `Domain.indices_cases`: the labels of a list of actions, or the first that has none
- `Domain.action_labels_agree`: every way to number an action gives the same answer
-/

namespace TargetEncoding

/-! ## Search and table -/

/-- Entering further names leaves the position of a name that is known, and gives a new one its
first position among them. -/
private theorem getElem?_foldl_insertIfNew (names : List String)
    (positions : Std.ExtTreeMap String Nat) (k : Nat) (name : String) :
    ((names.zipIdx k).foldl (fun positions (name, i) => positions.insertIfNew name i)
      positions)[name]? = positions[name]?.or ((names.idxOf? name).map (· + k)) := by
  -- the table grows and the positions go on, so both are general
  induction names generalizing positions k with
  | nil => simp
  | cons first names ih =>
    rw [List.zipIdx_cons, List.foldl_cons, ih, Std.ExtTreeMap.getElem?_insertIfNew,
      List.idxOf?_cons]
    by_cases hfirst : first = name
    · subst hfirst
      by_cases hknown : first ∈ positions
      · -- a position that is entered later is not taken over
        simp [hknown]
      · simp [hknown]
    · have hne : compare first name ≠ .eq := fun h => hfirst (Std.LawfulEqCmp.eq_of_compare h)
      have hadd : ((fun i => i + k) ∘ fun i => i + 1) = fun i => i + (k + 1) := by
        funext i
        simp only [Function.comp_apply]
        omega
      simp [hne, hfirst, hadd]

/-- The table holds for each name what searching the list finds. -/
theorem getElem?_firstPositions (names : List String) (name : String) :
    (firstPositions names)[name]? = names.idxOf? name := by
  rw [firstPositions, getElem?_foldl_insertIfNew]
  simp

/-- The table is empty only if there is nothing to enter. -/
theorem firstPositions_eq_empty_iff {names : List String} :
    firstPositions names = ∅ ↔ names = [] := by
  constructor
  · intro hempty
    cases names with
    | nil => rfl
    | cons name names =>
      -- the first name is in the table
      have hget := getElem?_firstPositions (name :: names) name
      rw [hempty, List.idxOf?_cons, if_pos BEq.rfl] at hget
      exact nomatch hget
  · intro hnil
    rw [hnil]
    rfl

namespace Domain

/-- The action has the number `i`: this is its first position among the names and texts. -/
def IsLabel (d : Domain) (action : String) (i : Nat) : Prop :=
  (d.actionNames ++ d.actionTexts)[i]? = some action ∧
    ∀ j < i, (d.actionNames ++ d.actionTexts)[j]? ≠ some action

variable {d : Domain} {action : String} {i : Nat}

theorem index?_eq_some_iff : d.index? action = some i ↔ d.IsLabel action i := by
  rw [index?, List.idxOf?_eq_some_iff, IsLabel, ← actions]
  constructor
  · intro hfirst
    obtain ⟨hlt, hget, hbefore⟩ := hfirst
    refine ⟨by rw [List.getElem?_eq_getElem hlt, hget], ?_⟩
    intro j hj heq
    rw [List.getElem?_eq_getElem (Nat.lt_trans hj hlt), Option.some.injEq] at heq
    exact hbefore j hj heq
  · intro hlabel
    obtain ⟨hget, hbefore⟩ := hlabel
    obtain ⟨hlt, hget⟩ := List.getElem?_eq_some_iff.1 hget
    refine ⟨hlt, hget, ?_⟩
    intro j hj heq
    exact hbefore j hj (by rw [List.getElem?_eq_getElem (Nat.lt_trans hj hlt), heq])

theorem index?_eq_none_iff : d.index? action = none ↔ action ∉ d.actionNames ++ d.actionTexts := by
  rw [index?, List.idxOf?_eq_none_iff, actions]

/-- A label is one of the columns that there are actions for. -/
theorem IsLabel.lt (h : d.IsLabel action i) : i < d.numActions := by
  rw [← length_actions]
  exact (List.getElem?_eq_some_iff.1 h.1).1

theorem IsLabel.mem (h : d.IsLabel action i) : action ∈ d.actionNames ++ d.actionTexts :=
  List.mem_of_getElem? h.1

/-- An action has a label, or it is unknown. -/
theorem label_or_unknown (d : Domain) (action : String) :
    (∃ i, d.IsLabel action i) ∨ action ∉ d.actionNames ++ d.actionTexts := by
  cases h : d.index? action with
  | none => exact .inr (index?_eq_none_iff.1 h)
  | some i => exact .inl ⟨i, index?_eq_some_iff.1 h⟩

theorem index_of_isLabel (h : d.IsLabel action i) : d.index action = .ok i := by
  rw [index, index?_eq_some_iff.2 h]

theorem index_of_not_mem (h : action ∉ d.actionNames ++ d.actionTexts) :
    d.index action = .error ⟨action⟩ := by
  rw [index, index?_eq_none_iff.2 h]

/-- A list of actions is numbered action by action, or its first unknown action is reported. -/
theorem indices_cases (d : Domain) (actions : List String) :
    ((∀ a ∈ actions, a ∈ d.actionNames ++ d.actionTexts) ∧
      ∃ labels, d.indices actions = .ok labels ∧ List.Forall₂ d.IsLabel actions labels) ∨
    ∃ before a after, actions = before ++ a :: after ∧
      (∀ b ∈ before, b ∈ d.actionNames ++ d.actionTexts) ∧
      a ∉ d.actionNames ++ d.actionTexts ∧ d.indices actions = .error ⟨a⟩ := by
  have hlabel : ∀ {a i}, d.index a = .ok i → d.IsLabel a i := by
    intro a i hi
    obtain ⟨j, hlabel⟩ | hunknown := d.label_or_unknown a
    · rw [index_of_isLabel hlabel] at hi
      exact Except.ok.inj hi ▸ hlabel
    · exact nomatch (index_of_not_mem hunknown).symm.trans hi
  cases hindices : d.indices actions with
  | ok labels =>
    have hall := (List.mapM_eq_ok_iff.1 hindices).imp fun _ _ => hlabel
    refine .inl ⟨fun a ha => ?_, labels, rfl, hall⟩
    obtain ⟨i, hi⟩ := List.exists_forall₂_iff.1 ⟨labels, hall⟩ a ha
    exact hi.mem
  | error e =>
    obtain ⟨before, a, after, rfl, hbefore, ha⟩ := List.mapM_eq_error_iff.1 hindices
    obtain ⟨i, hi⟩ | hunknown := d.label_or_unknown a
    · exact nomatch (index_of_isLabel hi).symm.trans ha
    · rw [index_of_not_mem hunknown] at ha
      refine .inr ⟨before, a, after, rfl, fun b hb => ?_, hunknown, ?_⟩
      · obtain ⟨i, hi⟩ := hbefore b hb
        exact (hlabel hi).mem
      · rw [Except.error.inj ha]

end Domain

/-! ## The indexer -/

namespace ActionIndexer

/-- An indexer that is set up holds the table of the domain, whatever it held before. -/
theorem setup_ok {e e' : ActionIndexer} {d : Domain} {s : StateEncoder}
    (h : (Encoder.setup d s).run e = .ok () e') : e' = ⟨some (firstPositions d.actions)⟩ :=
  (EStateM.Result.ok.inj (Encoder.configure_of_setup h)).2.symm

/-- An indexer that is not ready can be set up on every domain. -/
theorem setup_of_unready {e : ActionIndexer} (h : Encoder.isReady e = false) (d : Domain)
    (s : StateEncoder) :
    (Encoder.setup d s).run e = .ok () ⟨some (firstPositions d.actions)⟩ :=
  Encoder.setup_of_unready h d s

/-- An indexer that is set up on a domain with actions is ready. -/
theorem isReady_of_numActions_pos {d : Domain} (hd : 0 < d.numActions) :
    Encoder.isReady (⟨some (firstPositions d.actions)⟩ : ActionIndexer) = true := by
  -- the table counts actions once, and is still empty only if there are none
  apply decide_eq_true
  show 0 < (firstPositions d.actions).size
  apply Nat.pos_of_ne_zero
  intro hzero
  have hnil := firstPositions_eq_empty_iff.1 (Std.ExtTreeMap.eq_empty_iff_size_eq_zero.2 hzero)
  have hlen := d.length_actions
  rw [hnil, List.length_nil] at hlen
  omega

/-- An indexer that is set up on a domain with actions looks them up in the table. -/
theorem encode_of_setup {e e' : ActionIndexer} {d : Domain} {s : StateEncoder}
    (h : (Encoder.setup d s).run e = .ok () e') (hd : 0 < d.numActions) (action : String) :
    e'.encode action = (d.index action).mapError .unknownAction := by
  obtain rfl := setup_ok h
  rw [encode, Encoder.requireReady, isReady_of_numActions_pos hd, if_pos rfl]
  simp only [Option.bind_some, getElem?_firstPositions]
  rw [Domain.index, Domain.index?]
  cases d.actions.idxOf? action <;> rfl

end ActionIndexer

/-! ## The one-hot row -/

/-- A cell that is written into an empty matrix is the only entry, if it lies inside. -/
theorem SparseMatrix.entries_set_empty {height width row column : Nat} (hrow : row < height)
    (hcolumn : column < width) (value : Single) :
    ((empty height width).set row column value).entries = #[⟨row, column, value⟩] := by
  have hin : (empty height width).InShape row column := ⟨hrow, hcolumn⟩
  have hnew : (empty height width).places[(row, column)]? = none := Std.HashMap.getElem?_empty
  rw [set, if_pos hin, hnew]
  rfl

namespace FallbackEncoder

/-- The one-hot row of an action has a one in the column of its label. -/
theorem oneHot?_of_isLabel {d : Domain} {action : String} {i : Nat} (h : d.IsLabel action i)
    (e : FallbackEncoder) :
    ∃ m : SparseMatrix,
      (e.prepare d).oneHot? action = some ⟨.sentence, .actionName, oneHotOrigin, .sparse m⟩ ∧
      m.shape = (1, d.numActions) ∧ m.entries = #[⟨0, i, 1⟩] := by
  refine ⟨(SparseMatrix.empty 1 d.numActions).set 0 i 1, ?_, ?_, ?_⟩
  · have hget : (e.prepare d).positions[action]? = some i := by
      rw [prepare, getElem?_firstPositions]
      exact Domain.index?_eq_some_iff.2 h
    rw [oneHot?, hget]
    rfl
  · rw [SparseMatrix.shape_set, SparseMatrix.shape_empty]
  · -- the label is below the width, so the entry is not left out
    exact SparseMatrix.entries_set_empty Nat.one_pos h.lt 1

/-- An unknown action has no one-hot row. -/
theorem oneHot?_of_not_mem {d : Domain} {action : String}
    (h : action ∉ d.actionNames ++ d.actionTexts) (e : FallbackEncoder) :
    (e.prepare d).oneHot? action = none := by
  have hget : (e.prepare d).positions[action]? = none := by
    rw [prepare, getElem?_firstPositions]
    exact Domain.index?_eq_none_iff.2 h
  rw [oneHot?, hget, Option.map_none]

end FallbackEncoder

/-! ## All numbers agree -/

/-- On a domain with actions, searching for an action, looking it up with an indexer that was set
up, and the column of its one-hot row give the same number, its first position among the names and
texts, or all of them report it as unknown.  A list of actions is numbered action by action up to
the first unknown one. -/
theorem Domain.action_labels_agree (d : Domain) (hd : 0 < d.numActions) :
    (∀ e : ActionIndexer, Encoder.isReady e = false →
      ∀ s : StateEncoder, ∃ e', (Encoder.setup d s).run e = .ok () e') ∧
    (∀ action,
      (∃ i, d.IsLabel action i ∧ i < d.numActions ∧
        d.index? action = some i ∧ d.index action = .ok i ∧
        (∀ (e e' : ActionIndexer) (s : StateEncoder),
          (Encoder.setup d s).run e = .ok () e' → e'.encode action = .ok i) ∧
        ∀ e : FallbackEncoder, ∃ m : SparseMatrix,
          (e.prepare d).oneHot? action =
            some ⟨.sentence, .actionName, FallbackEncoder.oneHotOrigin, .sparse m⟩ ∧
          m.shape = (1, d.numActions) ∧ m.entries = #[⟨0, i, 1⟩]) ∨
      action ∉ d.actionNames ++ d.actionTexts ∧
        d.index? action = none ∧ d.index action = .error ⟨action⟩ ∧
        (∀ (e e' : ActionIndexer) (s : StateEncoder),
          (Encoder.setup d s).run e = .ok () e' →
            e'.encode action = .error (.unknownAction ⟨action⟩)) ∧
        ∀ e : FallbackEncoder, (e.prepare d).oneHot? action = none) ∧
    ∀ actions : List String,
      ((∀ a ∈ actions, a ∈ d.actionNames ++ d.actionTexts) ∧
        ∃ labels, d.indices actions = .ok labels ∧ List.Forall₂ d.IsLabel actions labels) ∨
      ∃ before a after, actions = before ++ a :: after ∧
        (∀ b ∈ before, b ∈ d.actionNames ++ d.actionTexts) ∧
        a ∉ d.actionNames ++ d.actionTexts ∧ d.indices actions = .error ⟨a⟩ := by
  refine ⟨?_, ?_, d.indices_cases⟩
  · intro e hunready s
    exact ⟨_, ActionIndexer.setup_of_unready hunready d s⟩
  · intro action
    obtain ⟨i, hlabel⟩ | hunknown := d.label_or_unknown action
    · refine .inl ⟨i, hlabel, hlabel.lt, index?_eq_some_iff.2 hlabel, index_of_isLabel hlabel, ?_,
        FallbackEncoder.oneHot?_of_isLabel hlabel⟩
      intro e e' s hsetup
      rw [ActionIndexer.encode_of_setup hsetup hd, index_of_isLabel hlabel]
      rfl
    · refine .inr ⟨hunknown, index?_eq_none_iff.2 hunknown, index_of_not_mem hunknown, ?_,
        FallbackEncoder.oneHot?_of_not_mem hunknown⟩
      intro e e' s hsetup
      rw [ActionIndexer.encode_of_setup hsetup hd, index_of_not_mem hunknown]
      rfl

/-- Actions that are repeated, among the names and as a text, and one that is unknown. -/
theorem Domain.action_labels_agree_repeated :
    let d := Domain.ofLists ["a", "b", "a"] ["b", "c"] []
    0 < d.numActions ∧ d.index? "c" = some 4 ∧
      (∃ m : SparseMatrix,
        (FallbackEncoder.ofDomain d).oneHot? "c" =
          some ⟨.sentence, .actionName, FallbackEncoder.oneHotOrigin, .sparse m⟩ ∧
        m.shape = (1, 5) ∧ m.entries = #[⟨0, 4, 1⟩]) ∧
      ∃ e', (Encoder.setup d (FallbackEncoder.ofDomain d).toStateEncoder).run
        ActionIndexer.unconfigured = .ok () e' ∧ e'.encode "c" = .ok 4 := by
  intro d
  have hd : 0 < d.numActions := by decide
  have hc : d.index? "c" = some 4 := by decide
  obtain ⟨hsetup, hlabels, _⟩ := Domain.action_labels_agree d hd
  obtain ⟨e', he'⟩ := hsetup .unconfigured rfl (FallbackEncoder.ofDomain d).toStateEncoder
  obtain ⟨i, _, _, hindex, _, hencode, hrow⟩ | ⟨_, hnone, _⟩ := hlabels "c"
  · obtain rfl : 4 = i := Option.some.inj (hc.symm.trans hindex)
    exact ⟨hd, hc, hrow .empty, e', he', hencode _ _ _ he'⟩
  · rw [hc] at hnone
    exact nomatch hnone

end TargetEncoding
