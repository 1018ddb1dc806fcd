import Mathlib.Data.Nat.Size
import TargetEncoding.Feature
import TargetEncoding.Proofs.Single

/-!
# Ids that are packed and taken out again

Ids travel as single-precision numbers, so a large one comes back as the nearest number with 24
leading digits, and the largest of all are cut off at the largest index.  Neither reorders two ids,
and a number that has been through this once is not changed by it again.

## Key results

- `roundSignificant_mono`: rounding keeps the order, also of numbers that differ in length
- `roundSignificant_roundSignificant`: what is rounded stays as it is
- `Feature.tagIds?_ofTagIds_of_lt`: each id is read back by itself
- `Feature.ids_read_back`: what becomes of ids that are packed and taken out
-/

namespace TargetEncoding

/-! ## Rounding to leading digits -/

theorem bitLength_eq_size (n : Nat) : bitLength n = n.size := by
  apply Nat.le_antisymm
  · rw [bitLength_le_iff]
    exact Nat.lt_size_self n
  · rw [Nat.size_le, ← bitLength_le_iff]

/-- Rounding may carry into the next place, but not beyond it. -/
theorem roundSignificant_le (bits n : Nat) : roundSignificant bits n ≤ 2 ^ bitLength n :=
  (roundSignificant_nearest bits n).le_multiple (Nat.pow_dvd_pow 2 (Nat.sub_le _ bits))
    (Nat.le_of_lt (bitLength_le_iff.1 (Nat.le_refl _)))

variable {bits : Nat}

/-- Rounding does not reorder two numbers. -/
theorem roundSignificant_mono (hbits : 0 < bits) {m n : Nat} (hle : m ≤ n) :
    roundSignificant bits m ≤ roundSignificant bits n := by
  by_cases hlen : bitLength n ≤ bitLength m
  · -- numbers of one length are rounded to multiples of the same place
    have hle' : bitLength m ≤ bitLength n :=
      bitLength_le_iff.2 (Nat.lt_of_le_of_lt hle (bitLength_le_iff.1 (Nat.le_refl _)))
    have hsame : bitLength m = bitLength n := Nat.le_antisymm hle' hlen
    have hm := roundSignificant_nearest bits m
    rw [hsame] at hm
    exact hm.mono (roundSignificant_nearest bits n) hle
  · -- otherwise a power of two stands between them, which neither number can pass
    have hpower : 2 ^ (bitLength n - 1) ≤ n := by
      rw [← Nat.not_lt, ← bitLength_le_iff]
      omega
    have hdvd : 2 ^ (bitLength n - bits) ∣ 2 ^ (bitLength n - 1) :=
      Nat.pow_dvd_pow 2 (by omega)
    calc roundSignificant bits m
      _ ≤ 2 ^ bitLength m := roundSignificant_le bits m
      _ ≤ 2 ^ (bitLength n - 1) := Nat.pow_le_pow_right (by decide) (by omega)
      _ ≤ roundSignificant bits n := (roundSignificant_nearest bits n).multiple_le hdvd hpower

/-- A number that is rounded has few enough digits to be kept. -/
theorem roundSignificant_roundSignificant (hbits : 0 < bits) (n : Nat) :
    roundSignificant bits (roundSignificant bits n) = roundSignificant bits n := by
  apply roundSignificant_of_dvd
  by_cases hcarry : roundSignificant bits n = 2 ^ bitLength n
  · -- the carry leaves a power of two, which is one digit longer
    have hlen : bitLength (roundSignificant bits n) ≤ bitLength n + 1 := by
      rw [bitLength_le_iff, hcarry]
      exact Nat.pow_lt_pow_succ (by decide)
    have hpower : 2 ^ (bitLength (roundSignificant bits n) - bits) ∣ 2 ^ bitLength n :=
      Nat.pow_dvd_pow 2 (by omega)
    rwa [← hcarry] at hpower
  · have hlen : bitLength (roundSignificant bits n) ≤ bitLength n :=
      bitLength_le_iff.2 (Nat.lt_of_le_of_ne (roundSignificant_le bits n) hcarry)
    exact Nat.dvd_trans (Nat.pow_dvd_pow 2 (by omega)) (roundSignificant_nearest bits n).dvd

/-! ## Ids -/

namespace Feature

/-- What is taken out for an id that was packed. -/
def readBack (id : Nat) : Nat :=
  min (roundSignificant Single.significantBits id) largestIndex

theorem tagIds?_ofTagIds_of_lt {ids : List Nat} (hids : ∀ id ∈ ids, id < indexLimit) :
    (ofTagIds ids).tagIds? = some (ids.map readBack) := by
  have hsame : ids.map (fun id => (Single.ofNat id).toIndex) = ids.map readBack := by
    apply List.map_congr_left
    intro id hid
    exact Single.toIndex_ofNat (hids id hid)
  rw [tagIds?_ofTagIds, hsame]

theorem readBack_lt (id : Nat) : readBack id < indexLimit :=
  Nat.lt_of_le_of_lt (Nat.min_le_right _ _) largestIndex_lt

theorem readBack_of_le {id : Nat} (hid : id ≤ 2 ^ 24) : readBack id = id := by
  have hlimit : id < indexLimit := Nat.lt_of_le_of_lt hid (by decide)
  rw [readBack, ← Single.toIndex_ofNat hlimit, Single.toIndex_ofNat_of_le hid]

theorem readBack_mono {a b : Nat} (hle : a ≤ b) : readBack a ≤ readBack b := by
  have hround : roundSignificant Single.significantBits a ≤
      roundSignificant Single.significantBits b := roundSignificant_mono (by decide) hle
  unfold readBack
  omega

/-- The largest index is rounded out of reach and cut off again. -/
theorem readBack_largestIndex : readBack largestIndex = largestIndex := by
  decide +kernel

theorem readBack_readBack (id : Nat) : readBack (readBack id) = readBack id := by
  by_cases hcut : roundSignificant Single.significantBits id ≤ largestIndex
  · have hself : readBack id = roundSignificant Single.significantBits id := Nat.min_eq_left hcut
    have hround := @roundSignificant_roundSignificant Single.significantBits (by decide) id
    rw [hself, readBack, hround, Nat.min_eq_left hcut]
  · have hlargest : readBack id = largestIndex := Nat.min_eq_right (Nat.le_of_not_le hcut)
    rw [hlargest, readBack_largestIndex]

/-- Ids that are packed and taken out again are as many as before.  Each is the multiple of the last
of its 24 leading binary places that is nearest to the id, the even one of two, or the largest index
if that is out of reach.  So ids up to 2²⁴ come back as they were, no two are reordered, and a
second time nothing changes. -/
theorem ids_read_back {ids : List Nat} (hids : ∀ id ∈ ids, id < indexLimit) :
    ∃ read, (ofTagIds ids).tagIds? = some read ∧ read.length = ids.length ∧
      (∀ id r, (id, r) ∈ ids.zip read →
        ∃ rounded, IsNearestMultiple (2 ^ (id.size - 24)) id rounded ∧
          r = min rounded (2 ^ 64 - 1)) ∧
      (∀ id r, (id, r) ∈ ids.zip read → id ≤ 2 ^ 24 → r = id) ∧
      (∀ id r id' r', (id, r) ∈ ids.zip read → (id', r') ∈ ids.zip read → id ≤ id' → r ≤ r') ∧
      (ofTagIds read).tagIds? = some read := by
  -- every part but the last is about a single id and what became of it
  have hpair : ∀ id r, (id, r) ∈ ids.zip (ids.map readBack) → r = readBack id := by
    intro id r hmem
    rw [← List.map_prod_left_eq_zip] at hmem
    obtain ⟨_, _, heq⟩ := List.mem_map.1 hmem
    cases heq
    rfl
  refine ⟨ids.map readBack, tagIds?_ofTagIds_of_lt hids, List.length_map _, ?_, ?_, ?_, ?_⟩
  · intro id r hmem
    rw [hpair id r hmem, ← bitLength_eq_size]
    exact ⟨_, roundSignificant_nearest _ id, rfl⟩
  · intro id r hmem hle
    rw [hpair id r hmem, readBack_of_le hle]
  · intro id r id' r' hmem hmem' hle
    rw [hpair id r hmem, hpair id' r' hmem']
    exact readBack_mono hle
  · have hread : ∀ r ∈ ids.map readBack, r < indexLimit := by
      intro r hr
      obtain ⟨id, _, rfl⟩ := List.mem_map.1 hr
      exact readBack_lt id
    have hsame : (ids.map readBack).map readBack = ids.map readBack := by
      rw [List.map_map]
      apply List.map_congr_left
      intro id _
      exact readBack_readBack id
    rw [tagIds?_ofTagIds_of_lt hread, hsame]

/-- The first two odd numbers above 2²⁴ lie halfway between multiples of two, and go to the
multiples of four. -/
theorem ids_read_back_ties :
    let ids := [2 ^ 24, 2 ^ 24 + 1, 2 ^ 24 + 3, 2 ^ 64 - 1]
    let read := [2 ^ 24, 2 ^ 24, 2 ^ 24 + 4, 2 ^ 64 - 1]
    (∀ id ∈ ids, id < indexLimit) ∧ (ofTagIds ids).tagIds? = some read ∧
      IsNearestMultiple 2 (2 ^ 24 + 3) (2 ^ 24 + 4) ∧ (ofTagIds read).tagIds? = some read := by
  intro ids read
  have hids : ∀ id ∈ ids, id < indexLimit := by decide +kernel
  have hread : (ofTagIds ids).tagIds? = some read := by decide +kernel
  obtain ⟨again, hagain, _, hrounded, _, _, hsame⟩ := ids_read_back hids
  obtain rfl : read = again := Option.some.inj (hread.symm.trans hagain)
  obtain ⟨rounded, hnearest, hcut⟩ := hrounded (2 ^ 24 + 3) (2 ^ 24 + 4) (by decide +kernel)
  have hsize : (2 ^ 24 + 3).size - 24 = 1 := by
    rw [← bitLength_eq_size]
    decide +kernel
  obtain rfl : 2 ^ 24 + 4 = rounded := by omega
  rw [hsize] at hnearest
  exact ⟨hids, hread, hnearest, hsame⟩

end Feature

end TargetEncoding
