import Mathlib.Algebra.Ring.Nat
import Mathlib.Data.List.Forall2
import Mathlib.Data.List.Induction
import Mathlib.Data.List.Perm.Subperm
import Std.Data.ExtTreeMap
import Std.Data.ExtTreeSet

/-!
# Lemmas for the standard library

Generic lemmas about fallible steps, lists and ordered maps that speak of nothing in this library.
-/

namespace Except

/-- Two steps succeed if the first one does, and then the second one. -/
theorem bind_eq_ok_iff {ε α β : Type} {x : Except ε α} {f : α → Except ε β} {b : β} :
    x >>= f = .ok b ↔ ∃ a, x = .ok a ∧ f a = .ok b := by
  cases x with
  | error e => simp [bind, Except.bind]
  | ok a => simp [bind, Except.bind]

end Except

namespace Option

/-- A step on the content succeeds if there is none, or if it succeeds on it. -/
theorem mapM_eq_ok_iff {ε α β : Type} {x : Option α} {f : α → Except ε β} {y : Option β} :
    x.mapM f = .ok y ↔
      x = none ∧ y = none ∨ ∃ a b, x = some a ∧ f a = .ok b ∧ y = some b := by
  cases x with
  | none =>
    simp only [mapM_none, pure, Except.pure, Except.ok.injEq, true_and, reduceCtorEq, false_and,
      exists_false, or_false]
    exact eq_comm
  | some a =>
    rw [mapM_some]
    cases hf : f a with
    | error e => simp [Functor.map, Except.map, hf]
    | ok b => simp [Functor.map, Except.map, hf, eq_comm]

/-- A step on the content fails if there is some and it fails on it. -/
theorem mapM_eq_error_iff {ε α β : Type} {x : Option α} {f : α → Except ε β} {e : ε} :
    x.mapM f = .error e ↔ ∃ a, x = some a ∧ f a = .error e := by
  cases x with
  | none => simp [pure, Except.pure]
  | some a =>
    rw [mapM_some]
    cases hf : f a <;> simp [Functor.map, Except.map, hf]

end Option

namespace List

/-- Every element of a list is related to something if the list is to a list. -/
theorem exists_forall₂_iff {α β : Type} {R : α → β → Prop} {l : List α} :
    (∃ bs, Forall₂ R l bs) ↔ ∀ a ∈ l, ∃ b, R a b := by
  induction l with
  | nil => exact ⟨fun _ => nofun, fun _ => ⟨[], .nil⟩⟩
  | cons a l ih =>
    rw [forall_mem_cons, ← ih]
    constructor
    · intro hall
      obtain ⟨_, _ | ⟨ha, hl⟩⟩ := hall
      exact ⟨⟨_, ha⟩, _, hl⟩
    · intro hall
      obtain ⟨⟨b, ha⟩, bs, hl⟩ := hall
      exact ⟨b :: bs, .cons ha hl⟩

/-- Lists that are related to one list, element by element, are related to each other. -/
theorem Forall₂.comp {α β γ : Type} {R : α → β → Prop} {S : β → γ → Prop} {T : α → γ → Prop}
    (hT : ∀ a b c, R a b → S b c → T a c) {l : List α} {m : List β} {n : List γ}
    (hR : Forall₂ R l m) (hS : Forall₂ S m n) : Forall₂ T l n := by
  induction hR generalizing n with
  | nil =>
    rw [forall₂_nil_left_iff.1 hS]
    exact .nil
  | cons hab _ ih =>
    obtain ⟨c, n, hbc, hrest, rfl⟩ := forall₂_cons_left_iff.1 hS
    exact .cons (hT _ _ _ hab hbc) (ih hrest)

/-- A fallible step succeeds on a list if it does on every element. -/
theorem mapM_eq_ok_iff {ε α β : Type} {f : α → Except ε β} {l : List α} {bs : List β} :
    l.mapM f = .ok bs ↔ Forall₂ (fun a b => f a = .ok b) l bs := by
  induction l generalizing bs with
  | nil => simp [pure, Except.pure, eq_comm]
  | cons a l ih =>
    rw [mapM_cons, Except.bind_eq_ok_iff, forall₂_cons_left_iff]
    constructor
    · intro hall
      obtain ⟨b, hb, hrest⟩ := hall
      obtain ⟨bs', hbs', hcons⟩ := Except.bind_eq_ok_iff.1 hrest
      exact ⟨b, bs', hb, ih.1 hbs', (Except.ok.inj hcons).symm⟩
    · intro hall
      obtain ⟨b, bs', hb, hbs', rfl⟩ := hall
      exact ⟨b, hb, Except.bind_eq_ok_iff.2 ⟨bs', ih.2 hbs', rfl⟩⟩

/-- A fallible step fails on a list as it does on the first element on which it fails. -/
theorem mapM_eq_error_iff {ε α β : Type} {f : α → Except ε β} {l : List α} {e : ε} :
    l.mapM f = .error e ↔ ∃ before a after, l = before ++ a :: after ∧
      (∀ a' ∈ before, ∃ b, f a' = .ok b) ∧ f a = .error e := by
  induction l with
  | nil => simp [pure, Except.pure]
  | cons a l ih =>
    rw [mapM_cons]
    cases ha : f a with
    | error e' =>
      -- the first element is the one that fails
      show Except.error e' = Except.error e ↔ _
      rw [Except.error.injEq]
      constructor
      · intro he
        exact ⟨[], a, l, rfl, nofun, he ▸ ha⟩
      · intro hfirst
        obtain ⟨before, a', after, hl, hbefore, ha'⟩ := hfirst
        cases before with
        | nil =>
          obtain ⟨rfl, rfl⟩ := cons.inj hl
          exact Except.error.inj (ha.symm.trans ha')
        | cons b before =>
          obtain ⟨rfl, rfl⟩ := cons.inj hl
          obtain ⟨b, hb⟩ := hbefore a mem_cons_self
          exact nomatch ha.symm.trans hb
    | ok b =>
      have htail : (Except.ok b >>= fun b => do let bs ← l.mapM f; pure (b :: bs)) = .error e ↔
          l.mapM f = .error e := by
        cases l.mapM f <;> simp [bind, Except.bind, pure, Except.pure]
      rw [htail, ih]
      constructor
      · intro hfirst
        obtain ⟨before, a', after, rfl, hbefore, ha'⟩ := hfirst
        exact ⟨a :: before, a', after, rfl, forall_mem_cons.2 ⟨⟨b, ha⟩, hbefore⟩, ha'⟩
      · intro hfirst
        obtain ⟨before, a', after, hl, hbefore, ha'⟩ := hfirst
        cases before with
        | nil =>
          obtain ⟨rfl, rfl⟩ := cons.inj hl
          exact nomatch ha.symm.trans ha'
        | cons b' before =>
          obtain ⟨rfl, rfl⟩ := cons.inj hl
          exact ⟨before, a', after, rfl, (forall_mem_cons.1 hbefore).2, ha'⟩

/-- `flatMap` puts lists of one length side by side: an element of the result is found by the place
    of its list and its place in that list. -/
theorem getElem?_flatMap_of_length {α β : Type} {l : List α} {f : α → List β} {c : Nat}
    (hlen : ∀ a ∈ l, (f a).length = c) {i j : Nat} (hj : j < c) :
    (l.flatMap f)[c * i + j]? = l[i]?.bind fun a => (f a)[j]? := by
  induction l generalizing i with
  | nil => simp
  | cons a l ih =>
    have ha : (f a).length = c := hlen a mem_cons_self
    have hl : ∀ b ∈ l, (f b).length = c := fun b hb => hlen b (mem_cons_of_mem a hb)
    rw [flatMap_cons]
    cases i with
    | zero => rw [Nat.mul_zero, Nat.zero_add, getElem?_append_left (by omega)]; rfl
    | succ i =>
      have hge : (f a).length ≤ c * (i + 1) + j := by rw [ha, Nat.mul_succ]; omega
      have hsub : c * (i + 1) + j - (f a).length = c * i + j := by rw [ha, Nat.mul_succ]; omega
      rw [getElem?_append_right hge, hsub, ih hl, getElem?_cons_succ]

/-- Numbering the lists that `flatMap` puts side by side numbers the result, if each list begins
    with the number that is due. -/
theorem flatMap_zipIdx_of_length {α β : Type} {f : α → List β} {c : Nat} (l : List α)
    (hlen : ∀ a ∈ l, (f a).length = c) (i k : Nat) :
    ((l.zipIdx i).flatMap fun (a, n) => (f a).zipIdx (n * c + k)) =
      (l.flatMap f).zipIdx (i * c + k) := by
  induction l generalizing i with
  | nil => simp
  | cons a l ih =>
    have ha : (f a).length = c := hlen a mem_cons_self
    have hl : ∀ b ∈ l, (f b).length = c := fun b hb => hlen b (mem_cons_of_mem a hb)
    have hnext : i * c + k + (f a).length = (i + 1) * c + k := by rw [ha, Nat.succ_mul]; omega
    rw [zipIdx_cons, flatMap_cons, flatMap_cons, zipIdx_append, ih hl, hnext]

/-- Repetitions of one element up to a different one are counted in one way. -/
theorem replicate_append_cons_inj {α : Type} {a b : α} (hab : a ≠ b) {m n : Nat}
    {xs ys : List α} (h : replicate m a ++ b :: xs = replicate n a ++ b :: ys) :
    m = n ∧ xs = ys := by
  induction m generalizing n with
  | zero =>
    cases n with
    | zero => exact ⟨rfl, (cons.inj h).2⟩
    | succ n => exact absurd (cons.inj h).1.symm hab
  | succ m ih =>
    cases n with
    | zero => exact absurd (cons.inj h).1 hab
    | succ n =>
      obtain ⟨rfl, hrest⟩ := ih (cons.inj h).2
      exact ⟨rfl, hrest⟩

/-- A range is a range inside it with what is before and behind. -/
theorem range'_eq_append_append {p n a l : Nat} (hpa : p ≤ a) (hend : a + l ≤ p + n) :
    range' p n = range' p (a - p) ++ (range' a l ++ range' (a + l) (p + n - (a + l))) := by
  have hstart : p + (a - p) = a := by omega
  have hlen : a - p + (l + (p + n - (a + l))) = n := by omega
  have happend := range'_append_1 (s := p) (m := a - p) (n := l + (p + n - (a + l)))
  rw [hstart, hlen] at happend
  rw [range'_append_1, happend]

/-- An ascending list without gaps is a range. -/
theorem eq_range'_of_pairwise_of_convex {l : List Nat} (hasc : l.Pairwise (· < ·))
    (hconvex : ∀ i ∈ l, ∀ j ∈ l, ∀ x, i ≤ x → x ≤ j → x ∈ l) (hne : l ≠ []) :
    ∃ a k, l = range' a (k + 1) := by
  induction l with
  | nil => exact absurd rfl hne
  | cons a l ih =>
    obtain ⟨hlt, hasc'⟩ := pairwise_cons.1 hasc
    by_cases hl : l = []
    · exact ⟨a, 0, by rw [hl]; rfl⟩
    -- what lies between two elements of the tail lies in the tail, since `a` is before them
    have hconvex' : ∀ i ∈ l, ∀ j ∈ l, ∀ x, i ≤ x → x ≤ j → x ∈ l := by
      intro i hi j hj x hix hxj
      have hx := hconvex i (mem_cons_of_mem a hi) j (mem_cons_of_mem a hj) x hix hxj
      refine (mem_cons.1 hx).resolve_left ?_
      have := hlt i hi
      omega
    obtain ⟨b, k, rfl⟩ := ih hasc' hconvex' hl
    have hab : a < b := hlt b (by simp)
    -- `a + 1` is in the list, and the tail begins with `b`
    have hnext : a + 1 ∈ a :: range' b (k + 1) :=
      hconvex a mem_cons_self b (by simp) (a + 1) (by omega) (by omega)
    have hb : b = a + 1 := by
      have := mem_range'_1.1 ((mem_cons.1 hnext).resolve_left (by omega))
      omega
    exact ⟨a, k + 1, by rw [hb, range'_succ (n := k + 1)]⟩

theorem nodup_eraseDups {α : Type} [BEq α] [LawfulBEq α] (l : List α) : l.eraseDups.Nodup := by
  -- erasing the repetitions of the first element leaves a shorter list
  induction hn : l.length using Nat.strongRecOn generalizing l with
  | ind n ih =>
    cases l with
    | nil => exact nodup_nil
    | cons a l =>
      have hlt : (l.filter fun b => !b == a).length < n := by
        have := length_filter_le (fun b => !b == a) l
        rw [length_cons] at hn
        omega
      rw [eraseDups_cons, nodup_cons]
      exact ⟨by simp [mem_eraseDups], ih _ hlt _ rfl⟩

/-- A list without repetitions keeps all its elements. -/
theorem eraseDups_of_nodup {α : Type} [BEq α] [LawfulBEq α] {l : List α} (h : l.Nodup) :
    l.eraseDups = l := by
  induction l with
  | nil => rfl
  | cons a l ih =>
    obtain ⟨ha, hl⟩ := nodup_cons.1 h
    have hfilter : l.filter (fun b => !b == a) = l := by
      rw [filter_eq_self]
      intro b hb
      simp only [Bool.not_eq_true', beq_eq_false_iff_ne]
      exact fun heq => ha (heq ▸ hb)
    rw [eraseDups_cons, hfilter, ih hl]

/-- Without repetitions a list is as long as any other one with the same elements and none. -/
theorem length_eraseDups_of_nodup {α : Type} [BEq α] [LawfulBEq α] {l distinct : List α}
    (hnodup : distinct.Nodup) (hmem : ∀ a, a ∈ distinct ↔ a ∈ l) :
    l.eraseDups.length = distinct.length := by
  apply Perm.length_eq
  rw [perm_ext_iff_of_nodup (nodup_eraseDups l) hnodup]
  intro a
  rw [mem_eraseDups, hmem]

/-- All elements of a list are among as many in front as there are distinct ones exactly if all
repetitions are behind. -/
theorem forall_mem_take_eraseDups_iff {α : Type} [BEq α] [LawfulBEq α] {l : List α} :
    (∀ a ∈ l, a ∈ l.take l.eraseDups.length) ↔
      ∃ distinct repeated, l = distinct ++ repeated ∧ distinct.Nodup ∧
        ∀ a ∈ repeated, a ∈ distinct := by
  constructor
  · intro hmem
    refine ⟨l.take l.eraseDups.length, l.drop l.eraseDups.length,
      (take_append_drop ..).symm, ?_, fun a ha => hmem a (mem_of_mem_drop ha)⟩
    -- so many elements in front of which none is missing cannot repeat one
    have hsub : l.eraseDups ⊆ l.take l.eraseDups.length :=
      fun a ha => hmem a (mem_eraseDups.1 ha)
    have hsubperm := Nodup.subperm (nodup_eraseDups l) hsub
    have hperm := hsubperm.perm_of_length_le (length_take_le ..)
    exact hperm.nodup_iff.1 (nodup_eraseDups l)
  · intro hsplit a ha
    obtain ⟨distinct, repeated, rfl, hnodup, hrepeated⟩ := hsplit
    have hmem : ∀ b, b ∈ distinct ↔ b ∈ distinct ++ repeated := by
      intro b
      rw [mem_append, iff_self_or]
      exact hrepeated b
    rw [length_eraseDups_of_nodup hnodup hmem, take_left]
    exact (hmem a).2 ha

/-- An element that is added behind a list is kept unless it is a repetition. -/
theorem eraseDups_concat {α : Type} [BEq α] [LawfulBEq α] (l : List α) (a : α) :
    (l ++ [a]).eraseDups = if a ∈ l then l.eraseDups else l.eraseDups ++ [a] := by
  rw [eraseDups_append, removeAll]
  by_cases ha : a ∈ l
  · rw [if_pos ha, filter_cons_of_neg (by simpa using ha)]
    simp
  · rw [if_neg ha, filter_cons_of_pos (by simpa using ha)]
    simp [eraseDups_cons]

/-- Adding up a one for each element that passes the test counts these elements. -/
theorem sum_map_ite_eq_countP {α : Type} (p : α → Bool) (l : List α) :
    (l.map fun a => if p a then 1 else 0).sum = l.countP p := by
  induction l with
  | nil => rfl
  | cons a l ih =>
    rw [map_cons, sum_cons, ih, countP_cons, Nat.add_comm]

/-- If some elements of a list pass the test, then one of them is the last that does. -/
theorem forall_or_exists_last {α : Type} (p : α → Bool) (l : List α) :
    (∀ a ∈ l, p a = false) ∨ ∃ before a after, l = before ++ a :: after ∧ p a = true ∧
      ∀ b ∈ after, p b = false := by
  induction l with
  | nil => exact .inl (forall_mem_nil _)
  | cons a l ih =>
    obtain hnone | ⟨before, b, after, rfl, hb, hafter⟩ := ih
    · cases ha : p a with
      | true => exact .inr ⟨[], a, l, rfl, ha, hnone⟩
      | false => exact .inl (forall_mem_cons.2 ⟨ha, hnone⟩)
    · exact .inr ⟨a :: before, b, after, rfl, hb, hafter⟩

theorem getElem?_concat_eq_some_iff {α : Type} {l : List α} {a b : α} {i : Nat} :
    (l ++ [a])[i]? = some b ↔ l[i]? = some b ∨ i = l.length ∧ a = b := by
  rcases Nat.lt_trichotomy i l.length with hlt | heq | hgt
  · rw [getElem?_append_left hlt, or_iff_left (by omega)]
  · rw [heq, getElem?_concat_length, getElem?_eq_none (Nat.le_refl _)]
    simp
  · rw [getElem?_eq_none (by rw [length_append, length_singleton]; omega),
      getElem?_eq_none (by omega), or_iff_right nofun]
    simp only [reduceCtorEq, false_iff]
    omega

theorem mem_take_finRange {n k : Nat} {j : Fin n} : j ∈ (finRange n).take k ↔ j.val < k := by
  rw [mem_take_iff_getElem]
  constructor
  · intro hmem
    obtain ⟨i, hi, rfl⟩ := hmem
    rw [getElem_finRange]
    exact Nat.lt_of_lt_of_le hi (Nat.min_le_left ..)
  · intro hlt
    refine ⟨j, by rw [length_finRange]; omega, ?_⟩
    rw [getElem_finRange]
    rfl

/-- If the elements for which there is a result are those that pass the test, then the results are
those of the elements that pass. -/
theorem filterMap_eq_map_filter {α β : Type} {p : α → Bool} {f : α → Option β} {g : α → β}
    {l : List α} (h : ∀ a ∈ l, f a = if p a then some (g a) else none) :
    l.filterMap f = (l.filter p).map g := by
  induction l with
  | nil => rfl
  | cons a l ih =>
    have ha := h a mem_cons_self
    have hl := ih fun b hb => h b (mem_cons_of_mem a hb)
    by_cases hp : p a = true
    · rw [if_pos hp] at ha
      rw [filterMap_cons_some ha, filter_cons_of_pos hp, map_cons, hl]
    · rw [if_neg hp] at ha
      rw [filterMap_cons_none ha, filter_cons_of_neg hp, hl]

/-- If exactly the elements that fail the test have a result, then there is one result for each of
them, in order. -/
theorem forall₂_filterMap {α β : Type} {p : α → Bool} {f : α → Option β} {R : α → β → Prop}
    {l : List α} (hpass : ∀ a ∈ l, p a = true → f a = none)
    (hfail : ∀ a ∈ l, p a = false → ∃ b, f a = some b ∧ R a b) :
    Forall₂ R (l.filter (!p ·)) (l.filterMap f) := by
  induction l with
  | nil => exact .nil
  | cons a l ih =>
    have hl := ih (fun b hb => hpass b (mem_cons_of_mem a hb))
      fun b hb => hfail b (mem_cons_of_mem a hb)
    cases hp : p a with
    | true =>
      rw [filterMap_cons_none (hpass a mem_cons_self hp), filter_cons_of_neg (by simp [hp])]
      exact hl
    | false =>
      obtain ⟨b, hb, hab⟩ := hfail a mem_cons_self hp
      rw [filterMap_cons_some hb, filter_cons_of_pos (by simp [hp])]
      exact .cons hab hl

end List

namespace Std.ExtTreeMap

variable {α β : Type} {cmp : α → α → Ordering} [TransCmp cmp] [LawfulEqCmp cmp]

/-- A map that is made of a list in which no key occurs twice holds what is listed. -/
theorem getElem?_ofList_iff {l : List (α × β)} (hkeys : l.Pairwise fun a b => a.1 ≠ b.1)
    {k : α} {v : β} : (ofList l cmp)[k]? = some v ↔ (k, v) ∈ l := by
  have hdistinct : l.Pairwise fun a b => ¬ cmp a.1 b.1 = .eq :=
    hkeys.imp fun hne heq => hne (LawfulEqCmp.eq_of_compare heq)
  have hmem : ∀ {v'}, (k, v') ∈ l → (ofList l cmp)[k]? = some v' := fun h =>
    getElem?_ofList_of_mem ReflCmp.compare_self hdistinct h
  constructor
  · intro hget
    have hk : k ∈ ofList l cmp := mem_iff_isSome_getElem?.2 (by rw [hget]; rfl)
    classical
    rw [mem_ofList, List.contains_iff_mem, List.mem_map] at hk
    obtain ⟨⟨k', v'⟩, hlist, rfl⟩ := hk
    rw [hmem hlist, Option.some.injEq] at hget
    exact hget ▸ hlist
  · exact hmem

/-- Of the elements of a list with one key, a map that is made of the list holds the last one. -/
theorem getElem?_ofList_eq_find? [DecidableEq α] (l : List (α × β)) (k : α) :
    (ofList l cmp)[k]? = (l.reverse.find? (·.1 = k)).map Prod.snd := by
  -- from the end of the list, as the last element of a key is put in over the others
  rw [ofList_eq_foldl]
  induction l using List.reverseRecOn with
  | nil => exact getElem?_empty
  | append_singleton l e ih =>
    rw [List.foldl_append, List.foldl_cons, List.foldl_nil, getElem?_insert, List.reverse_append,
      List.reverse_singleton, List.singleton_append, ih]
    by_cases he : e.1 = k
    · rw [he, if_pos ReflCmp.compare_self, List.find?_cons_of_pos (by simpa using he)]
      rfl
    · rw [if_neg fun heq => he (LawfulEqCmp.eq_of_compare heq),
        List.find?_cons_of_neg (by simpa using he)]

theorem pairwise_ne_toList (t : ExtTreeMap α β cmp) : t.toList.Pairwise fun a b => a.1 ≠ b.1 := by
  apply t.distinct_keys_toList.imp
  intro a b hne heq
  rw [heq] at hne
  exact hne ReflCmp.compare_self

/-- A map is made again of its entries. -/
theorem ofList_toList (t : ExtTreeMap α β cmp) : ofList t.toList cmp = t := by
  apply ext_getElem?
  intro k
  apply Option.ext
  intro v
  rw [getElem?_ofList_iff t.pairwise_ne_toList, mem_toList_iff_getElem?_eq_some]

end Std.ExtTreeMap

namespace Std.ExtTreeSet

/-- A set that is made of a list is empty only if the list is. -/
theorem isEmpty_ofList {α : Type} {cmp : α → α → Ordering} [TransCmp cmp] [LawfulEqCmp cmp]
    (l : List α) : (ofList l cmp).isEmpty = l.isEmpty := by
  cases l with
  | nil => rfl
  | cons a l =>
    have hmem : a ∈ ofList (a :: l) cmp := by
      classical
      simp [mem_ofList]
    rw [List.isEmpty_cons, isEmpty_eq_false_iff]
    intro hempty
    rw [hempty] at hmem
    exact not_mem_empty hmem

end Std.ExtTreeSet
