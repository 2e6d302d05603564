import MqlMySql.Library.SlotTable
import Mathlib.Data.List.Basic

/-!
# Resources owned by slots

A log of transfers, most recent first, says which resources were obtained and released. A resource is
unreleased when it was not released since it was last obtained. A table owns what its slots keep when all
of it is unreleased and no two slots keep the same; this lasts as long as every resource is fresh when it
is obtained, that is, not unreleased.
-/

namespace Library

/-- A resource changes hands. -/
inductive Transfer (X : Type*)
  | obtained (x : X)
  | released (x : X)
deriving DecidableEq

variable {X : Type*}

/-- The resource which was obtained. -/
def Transfer.gain : Transfer X → Option X
  | .obtained x => some x
  | .released _ => none

/-- The resource which was released. -/
def Transfer.loss : Transfer X → Option X
  | .obtained _ => none
  | .released x => some x

variable [DecidableEq X]

/-- The resources which are unreleased after some transfers. -/
def unreleased : List (Transfer X) → List X
  | [] => []
  | .obtained x :: past => x :: unreleased past
  | .released x :: past => (unreleased past).filter (· ≠ x)

/-- No resource was unreleased when it was obtained. -/
def FreshLog : List (Transfer X) → Prop
  | [] => True
  | .obtained x :: past => x ∉ unreleased past ∧ FreshLog past
  | .released _ :: past => FreshLog past

instance decidableFreshLog : (log : List (Transfer X)) → Decidable (FreshLog log)
  | [] => isTrue trivial
  | .obtained x :: past =>
    have := decidableFreshLog past
    inferInstanceAs (Decidable (x ∉ unreleased past ∧ FreshLog past))
  | .released _ :: past => decidableFreshLog past

/-- Freshness concerns the whole past. -/
theorem FreshLog.past {made past : List (Transfer X)} (h : FreshLog (made ++ past)) :
    FreshLog past := by
  induction made with
  | nil => exact h
  | cons c made ih =>
    cases c with
    | obtained x => exact ih h.2
    | released x => exact ih h

variable {n : ℕ} {t : Occupancy n X} {log : List (Transfer X)} {x : X}

/-- What the slots keep is unreleased, and no two keep the same. -/
structure Owned (t : Occupancy n X) (log : List (Transfer X)) : Prop where
  waits : ∀ i x, t i = some x → x ∈ unreleased log
  distinct : t.Distinct

/-- An empty table owns nothing. -/
theorem Owned.start (empty : ∀ i, t i = none) : Owned t [] where
  waits := by
    intro i x hx
    rw [empty i] at hx
    cases hx
  distinct := by
    intro i j x hx
    rw [empty i] at hx
    cases hx

/-- No slot keeps a resource which is not unreleased. -/
theorem Owned.ne_of_fresh (h : Owned t log) (fresh : x ∉ unreleased log) (i : Fin n) :
    t i ≠ some x := by
  intro hi
  exact fresh (h.waits i x hi)

/-- A resource is obtained and put into no slot. -/
theorem Owned.obtain (h : Owned t log) (x : X) : Owned t (.obtained x :: log) where
  waits i y hy := List.mem_cons_of_mem _ (h.waits i y hy)
  distinct := h.distinct

/-- A fresh resource is obtained and put into a slot. -/
theorem Owned.take (h : Owned t log) (fresh : x ∉ unreleased log) (i : Fin n) :
    Owned (Function.update t i (some x)) (.obtained x :: log) where
  waits := by
    intro j y hy
    by_cases hji : j = i
    · subst hji
      rw [Function.update_self, Option.some.injEq] at hy
      rw [← hy]
      exact List.mem_cons_self
    · rw [Function.update_of_ne hji] at hy
      exact List.mem_cons_of_mem _ (h.waits j y hy)
  distinct := h.distinct.take i (h.ne_of_fresh fresh)

/-- A resource which no slot keeps is released. -/
theorem Owned.release (h : Owned t log) (elsewhere : ∀ i, t i ≠ some x) :
    Owned t (.released x :: log) where
  waits := by
    intro i y hy
    rw [unreleased, List.mem_filter, decide_eq_true_eq]
    refine ⟨h.waits i y hy, ?_⟩
    rintro rfl
    exact elsewhere i hy
  distinct := h.distinct

/-- The resource of a slot is released and the slot emptied. -/
theorem Owned.drop (h : Owned t log) {i : Fin n} (kept : t i = some x) :
    Owned (Function.update t i none) (.released x :: log) := by
  have hfewer : Owned (Function.update t i none) log := by
    constructor
    · intro j y hy
      have hji : j ≠ i := by
        rintro rfl
        simp at hy
      rw [Function.update_of_ne hji] at hy
      exact h.waits j y hy
    · exact h.distinct.drop i
  apply hfewer.release
  intro j hj
  have hji : j ≠ i := by
    rintro rfl
    simp at hj
  rw [Function.update_of_ne hji] at hj
  exact hji (h.distinct j i x hj kept)

/-- When no two slots keep the same, a resource is counted once or not at all. -/
theorem Occupancy.Distinct.count_eq (h : t.Distinct) :
    t.count x = if ∃ i, t i = some x then 1 else 0 := by
  rw [Occupancy.count]
  split
  · rename_i hkept
    obtain ⟨i, hi⟩ := hkept
    rw [Finset.card_eq_one]
    refine ⟨i, ?_⟩
    ext j
    simp only [Finset.mem_filter, Finset.mem_univ, true_and, Finset.mem_singleton]
    constructor
    · intro hj
      exact h j i x hj hi
    · rintro rfl
      exact hi
  · rename_i hnone
    rw [Finset.card_eq_zero, Finset.filter_eq_empty_iff]
    intro i _ hi
    exact hnone ⟨i, hi⟩

end Library
