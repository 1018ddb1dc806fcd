import TargetEncoding.Proofs.ActionLabels

/-!
# Labels and the number of actions

An indexer announces as many actions as it knows, each counted once, while the number of an action
is its position among all of them, repetitions included.  So an action that is repeated pushes the
actions listed later for the first time out of the range that is announced.  The domain counts
repetitions too, and no label reaches its number of actions.

## Key results

- `size_firstPositions`: an action is counted once
- `ActionIndexer.encode_eq_ok_iff`: what an indexer answers are the labels of the domain
- `ActionIndexer.labels_lt_numActions_iff`: when every label is below the number announced
- `ActionIndexer.not_labels_lt_numActions`: this need not be so
-/

namespace TargetEncoding

/-- The table has an entry for each distinct name. -/
theorem size_firstPositions (names : List String) :
    (firstPositions names).size = names.eraseDups.length := by
  rw [← Std.ExtTreeMap.length_keys]
  refine (List.length_eraseDups_of_nodup (firstPositions names).nodup_keys ?_).symm
  intro name
  rw [Std.ExtTreeMap.mem_keys, Std.ExtTreeMap.mem_iff_isSome_getElem?, getElem?_firstPositions,
    List.isSome_idxOf?]

/-- A label is among the first so many positions if the action is listed there. -/
theorem Domain.IsLabel.lt_iff_mem_take {d : Domain} {action : String} {i : Nat}
    (h : d.IsLabel action i) (k : Nat) : i < k ↔ action ∈ d.actions.take k := by
  obtain ⟨hget, hbefore⟩ := h
  constructor
  · intro hlt
    apply List.mem_of_getElem?
    rw [List.getElem?_take_of_lt hlt]
    exact hget
  · intro hmem
    obtain ⟨j, hj⟩ := List.mem_iff_getElem?.1 hmem
    rw [List.getElem?_take, Option.ite_none_right_eq_some] at hj
    obtain ⟨hjk, hj⟩ := hj
    -- no earlier position holds the action
    have hle : ¬ j < i := fun hji => hbefore j hji hj
    omega

namespace ActionIndexer

variable {e e' : ActionIndexer} {d : Domain} {s : StateEncoder}

/-- An indexer that is set up counts the distinct actions. -/
theorem numActions_of_setup (h : (Encoder.setup d s).run e = .ok () e') :
    e'.numActions = d.actions.eraseDups.length := by
  rw [setup_ok h]
  exact size_firstPositions d.actions

/-- An indexer that is set up answers the labels of the domain, and nothing else. -/
theorem encode_eq_ok_iff (h : (Encoder.setup d s).run e = .ok () e') {action : String} {i : Nat} :
    e'.encode action = .ok i ↔ d.IsLabel action i := by
  by_cases hd : 0 < d.numActions
  · rw [encode_of_setup h hd]
    obtain ⟨j, hlabel⟩ | hunknown := d.label_or_unknown action
    · rw [← Domain.index?_eq_some_iff, Domain.index?_eq_some_iff.2 hlabel,
        Domain.index_of_isLabel hlabel, Option.some.injEq]
      show Except.ok j = Except.ok i ↔ j = i
      rw [Except.ok.injEq]
    · rw [Domain.index_of_not_mem hunknown]
      exact iff_of_false (fun hok => nomatch hok) fun hlabel => hunknown hlabel.mem
  · -- without actions there are no labels, and the indexer is not ready
    have hunready : Encoder.isReady e' = false := by
      have hnil : d.actions = [] := by
        rw [← List.length_eq_zero_iff, Domain.length_actions]
        omega
      have hzero := numActions_of_setup h
      rw [hnil, List.eraseDups_nil, List.length_nil] at hzero
      exact decide_eq_false (Nat.not_lt.2 (Nat.le_of_eq hzero))
    refine iff_of_false ?_ fun hlabel => absurd hlabel.lt (by omega)
    intro hok
    rw [encode, Encoder.requireReady, hunready] at hok
    cases hok

/-- Every label of a domain is below its number of actions.  Indexers announce fewer actions if some
are repeated, each distinct one being counted once, and then the labels are all below their number
exactly if no action is listed for the first time behind one that is repeated. -/
theorem labels_lt_numActions_iff (h : (Encoder.setup d s).run e = .ok () e') :
    (∀ action i, e'.encode action = .ok i → i < d.numActions) ∧
      e'.numActions = d.actions.eraseDups.length ∧
      ((∀ action i, e'.encode action = .ok i → i < e'.numActions) ↔
        ∃ distinct repeated, d.actions = distinct ++ repeated ∧ distinct.Nodup ∧
          ∀ action ∈ repeated, action ∈ distinct) := by
  have hcount := numActions_of_setup h
  refine ⟨fun action i hok => ((encode_eq_ok_iff h).1 hok).lt, hcount, ?_⟩
  rw [← List.forall_mem_take_eraseDups_iff, hcount]
  constructor
  · intro hlt action hmem
    obtain ⟨i, hlabel⟩ | hunknown := d.label_or_unknown action
    · exact (hlabel.lt_iff_mem_take _).1 (hlt action i ((encode_eq_ok_iff h).2 hlabel))
    · exact absurd hmem hunknown
  · intro hmem action i hok
    have hlabel := (encode_eq_ok_iff h).1 hok
    exact (hlabel.lt_iff_mem_take _).2 (hmem action hlabel.mem)

/-- The repetition is behind all the actions, and the labels are in range. -/
theorem labels_lt_numActions_iff_repeatedText :
    let d := Domain.ofLists ["greet", "inform"] ["greet"] []
    let s : StateEncoder := ⟨true, id, fun _ _ => .ok ∅⟩
    ∃ e', (Encoder.setup d s).run unconfigured = .ok () e' ∧ e'.numActions = 2 ∧
      ∀ action i, e'.encode action = .ok i → i < 2 := by
  intro d s
  have hsetup := setup_of_unready (e := unconfigured) rfl d s
  obtain ⟨_, hcount, hiff⟩ := labels_lt_numActions_iff hsetup
  have hlt := hiff.2 ⟨["greet", "inform"], ["greet"], rfl, by decide, by decide⟩
  have htwo : d.actions.eraseDups.length = 2 := by decide
  rw [hcount, htwo] at hlt
  exact ⟨_, hsetup, hcount.trans htwo, hlt⟩

/-- A label can be out of the range that is announced. -/
theorem not_labels_lt_numActions :
    ¬ ∀ (e e' : ActionIndexer) (d : Domain) (s : StateEncoder),
      (Encoder.setup d s).run e = .ok () e' →
        ∀ action i, e'.encode action = .ok i → i < e'.numActions := by
  intro hall
  let d := Domain.ofLists ["greet", "greet", "inform"] [] []
  have hsetup := setup_of_unready (e := unconfigured) rfl d ⟨true, id, fun _ _ => .ok ∅⟩
  have hcount : (⟨some (firstPositions d.actions)⟩ : ActionIndexer).numActions = 2 := by decide
  have hlabel : (⟨some (firstPositions d.actions)⟩ : ActionIndexer).encode "inform" = .ok 2 := rfl
  have hlt := hall _ _ d _ hsetup "inform" 2 hlabel
  rw [hcount] at hlt
  exact absurd hlt (Nat.lt_irrefl 2)

end ActionIndexer

end TargetEncoding
