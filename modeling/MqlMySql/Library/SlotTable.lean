import Mathlib.Data.Fin.Basic
import Mathlib.Data.Fintype.Basic
import Mathlib.Data.Finset.Card
import Mathlib.Data.Int.Cast.Basic
import Mathlib.Logic.Function.Basic
import Mathlib.Tactic.Common

/-!
# Fixed tables of reusable slots

A table of `n` slots is addressed by signed integers. Looking an index up either names a slot or
falls outside the table, and searching for a free slot reports the first one, or `-1`.

The abstract view of such a table is a partial map from slots to payloads: taking an empty slot and
emptying a taken one are updates of that map.
-/

namespace Library

variable {n : ℕ}

/-- The slot named by a signed index, when the index lies inside the table. -/
def slotIndex (n : ℕ) (p : ℤ) : Option (Fin n) :=
  if h : 0 ≤ p ∧ p < n then some ⟨p.toNat, by omega⟩ else none

/-- An index names a slot exactly when it is that slot's number. -/
theorem slotIndex_eq_some_iff {p : ℤ} {i : Fin n} : slotIndex n p = some i ↔ p = i.val := by
  unfold slotIndex
  split
  · simp only [Option.some.injEq, Fin.ext_iff]
    omega
  · have := i.isLt
    simp only [reduceCtorEq, false_iff]
    omega

/-- Every slot is named by its own number. -/
@[simp] theorem slotIndex_val (i : Fin n) : slotIndex n (i.val : ℤ) = some i :=
  slotIndex_eq_some_iff.mpr rfl

/-- An index names no slot exactly when it lies outside the table. -/
theorem slotIndex_eq_none_iff {p : ℤ} : slotIndex n p = none ↔ p < 0 ∨ (n : ℤ) ≤ p := by
  unfold slotIndex
  split
  · simp only [reduceCtorEq, false_iff]
    omega
  · simp only [true_iff]
    omega

/-- The usual failure value names no slot. -/
@[simp] theorem slotIndex_neg_one : slotIndex n (-1) = none :=
  slotIndex_eq_none_iff.mpr (Or.inl (by decide))

/-- A slot number is never the usual failure value. -/
theorem val_ne_neg_one (i : Fin n) : (i.val : ℤ) ≠ -1 := by omega

/-- A statement about the slot with a given number is a statement about that slot. -/
theorem forall_slot_iff {i : Fin n} {P : Fin n → Prop} :
    (∀ j : Fin n, (i.val : ℤ) = j.val → P j) ↔ P i := by
  refine ⟨fun hall => hall i rfl, fun hP j hij => ?_⟩
  rwa [← show i = j from Fin.ext (by omega)]

/-- Search the slots from `start` upwards for one accepted by `free`, for at most `count` turns. -/
def searchSlot (free : Fin n → Bool) (start : ℕ) : ℕ → ℤ
  | 0 => -1
  | count + 1 =>
    if h : start < n then
      if free ⟨start, h⟩ then start else searchSlot free (start + 1) count
    else -1

/-- The first slot accepted by `free`, or `-1`. -/
def firstSlot (free : Fin n → Bool) : ℤ := searchSlot free 0 n

/-- A search either fails or reports an accepted slot. -/
theorem searchSlot_cases (free : Fin n → Bool) (start count : ℕ) :
    searchSlot free start count = -1 ∨
      ∃ i : Fin n, searchSlot free start count = i.val ∧ free i = true := by
  induction count generalizing start with
  | zero => exact Or.inl rfl
  | succ count ih =>
    rw [searchSlot]
    split
    · rename_i h
      split
      · exact Or.inr ⟨⟨start, h⟩, rfl, ‹_›⟩
      · exact ih (start + 1)
    · exact Or.inl rfl

/-- A search over all remaining slots fails exactly when none of them is accepted. -/
theorem searchSlot_eq_neg_one_iff (free : Fin n → Bool) {start count : ℕ} (h : n ≤ start + count) :
    searchSlot free start count = -1 ↔ ∀ i : Fin n, start ≤ i.val → free i = false := by
  induction count generalizing start with
  | zero =>
    refine iff_of_true rfl fun i hi => ?_
    have := i.isLt
    omega
  | succ count ih =>
    rw [searchSlot]
    split
    · rename_i hlt
      split
      · rename_i hfree
        refine iff_of_false (by omega) fun hnone => ?_
        rw [hnone ⟨start, hlt⟩ le_rfl] at hfree
        contradiction
      · rename_i hfree
        rw [ih (by omega)]
        constructor
        · intro hrest i hi
          rcases Nat.eq_or_lt_of_le hi with rfl | hlater
          · simpa using hfree
          · exact hrest i hlater
        · exact fun hall i hi => hall i (by omega)
    · rename_i hge
      refine iff_of_true rfl fun i hi => ?_
      have := i.isLt
      omega

/-- The first-slot search either fails or reports an accepted slot. -/
theorem firstSlot_cases (free : Fin n → Bool) :
    firstSlot free = -1 ∨ ∃ i : Fin n, firstSlot free = i.val ∧ free i = true :=
  searchSlot_cases free 0 n

/-- The first-slot search fails exactly when no slot is accepted. -/
theorem firstSlot_eq_neg_one_iff {free : Fin n → Bool} :
    firstSlot free = -1 ↔ ∀ i, free i = false := by
  rw [firstSlot, searchSlot_eq_neg_one_iff free (by omega)]
  exact ⟨fun h i => h i (Nat.zero_le _), fun h i _ => h i⟩

/-- Which slots are taken, and with what payload. -/
abbrev Occupancy (n : ℕ) (P : Type*) := Fin n → Option P

/-- No two slots carry the same payload. -/
def Occupancy.Distinct {P : Type*} (t : Occupancy n P) : Prop :=
  ∀ i j p, t i = some p → t j = some p → i = j

/-- Taking an empty slot with a payload found in no slot keeps payloads distinct. -/
theorem Occupancy.Distinct.take {P : Type*} {t : Occupancy n P} (h : t.Distinct) (i : Fin n)
    {p : P} (hnew : ∀ j, t j ≠ some p) :
    Occupancy.Distinct (Function.update t i (some p)) := by
  intro j k q hj hk
  by_cases hji : j = i <;> by_cases hki : k = i
  · rw [hji, hki]
  · subst hji
    rw [Function.update_self, Option.some.injEq] at hj
    rw [Function.update_of_ne hki, ← hj] at hk
    exact absurd hk (hnew k)
  · subst hki
    rw [Function.update_self, Option.some.injEq] at hk
    rw [Function.update_of_ne hji, ← hk] at hj
    exact absurd hj (hnew j)
  · rw [Function.update_of_ne hji] at hj
    rw [Function.update_of_ne hki] at hk
    exact h j k q hj hk

/-- Emptying a slot keeps payloads distinct. -/
theorem Occupancy.Distinct.drop {P : Type*} {t : Occupancy n P} (h : t.Distinct) (i : Fin n) :
    Occupancy.Distinct (Function.update t i none) := by
  intro j k q hj hk
  have hji : j ≠ i := by rintro rfl; simp at hj
  have hki : k ≠ i := by rintro rfl; simp at hk
  rw [Function.update_of_ne hji] at hj
  rw [Function.update_of_ne hki] at hk
  exact h j k q hj hk

section Count

variable {P : Type*} [DecidableEq P] {t : Occupancy n P} {i : Fin n} {p : P}

/-- The number of slots which carry a payload. -/
def Occupancy.count (t : Occupancy n P) (p : P) : ℕ :=
  (Finset.univ.filter fun i => t i = some p).card

/-- Taking an empty slot counts its payload once more. -/
theorem Occupancy.count_take (empty : t i = none) (q : P) :
    Occupancy.count (Function.update t i (some p)) q = t.count q + if p = q then 1 else 0 := by
  by_cases hpq : p = q
  · subst hpq
    have hinsert : (Finset.univ.filter fun j => Function.update t i (some p) j = some p) =
        insert i (Finset.univ.filter fun j => t j = some p) := by
      ext j
      by_cases hji : j = i
      · simp [hji]
      · simp [hji]
    rw [Occupancy.count, hinsert, Finset.card_insert_of_notMem (by simp [empty]), if_pos rfl,
      Occupancy.count]
  · have hsame : (Finset.univ.filter fun j => Function.update t i (some p) j = some q) =
        Finset.univ.filter fun j => t j = some q := by
      ext j
      by_cases hji : j = i
      · simp [hji, hpq, empty]
      · simp [hji]
    rw [Occupancy.count, hsame, if_neg hpq, Nat.add_zero, Occupancy.count]

/-- Emptying a slot counts its payload once less. -/
theorem Occupancy.count_drop (taken : t i = some p) (q : P) :
    t.count q = Occupancy.count (Function.update t i none) q + if p = q then 1 else 0 := by
  have hback := Occupancy.count_take (t := Function.update t i none) (p := p)
    (Function.update_self i none t) q
  rwa [Function.update_idem, ← taken, Function.update_eq_self] at hback

/-- Nothing is counted in an empty table. -/
theorem Occupancy.count_empty (empty : ∀ i, t i = none) (q : P) : t.count q = 0 := by
  simp [Occupancy.count, empty]

end Count

end Library
