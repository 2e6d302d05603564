import MqlMySql.Library.Holding
import Mathlib.Data.Fintype.EquivFin

/-!
# Names which remember the same slots of two tables

A pairing says which slot of a second table a slot of the first stands for. The same names remember slots of
both tables: each name remembers paired slots, or `-1` in both. When others use the first table too, slots which
were given back are no longer paired, and no two names remember the same.
-/

namespace Library

variable {N : Type*} {n : ℕ}

/-- Which slot of the second table a slot stands for. -/
abbrev Pairing (n : ℕ) := Occupancy n (Fin n)

/-- Both numbers are `-1`, or those of paired slots. -/
inductive PairedId (t : Pairing n) : ℤ → ℤ → Prop
  | nothing : PairedId t (-1) (-1)
  | slot {i i' : Fin n} (paired : t i = some i') : PairedId t i.val i'.val

/-- The slots hold the same when they are paired, or when nobody else uses the first table. -/
def Pairing.Corresponds (t : Pairing n) (shared : Prop) (i i' : Fin n) : Prop :=
  t i = some i' ∨ ¬shared ∧ i = i'

/-- No two slots are paired with the same, and a slot of a table which nobody else uses only with itself. -/
structure Pairing.Faithful (t : Pairing n) (shared : Prop) : Prop where
  distinct : t.Distinct
  straight : ¬shared → ∀ i i', t i = some i' → i = i'

/-- Every existing name remembers paired numbers. In a shared table every slot is remembered by one name at
most. -/
structure PairedIds (t : Pairing n) (shared : Prop) (ids ids' : N → Option ℤ) : Prop where
  paired : ∀ o, Option.Rel (PairedId t) (ids o) (ids' o)
  exclusive : shared → ∀ o o' p, ids o = some p → ids o' = some p → p ≠ -1 → o = o'

variable {t : Pairing n} {shared : Prop} {ids ids' : N → Option ℤ} {i i' j j' : Fin n} {p p' : ℤ}

/-- Once a slot has a new partner, the pairs are that one and those of the other slots. -/
theorem Pairing.take_eq_some_iff :
    Function.update t i (some i') j = some j' ↔ j = i ∧ i' = j' ∨ j ≠ i ∧ t j = some j' := by
  by_cases hji : j = i
  · simp [hji]
  · simp [hji]

/-- Once a slot has no partner, the pairs are those of the other slots. -/
theorem Pairing.drop_eq_some_iff : Function.update t i none j = some j' ↔ j ≠ i ∧ t j = some j' := by
  by_cases hji : j = i
  · simp [hji]
  · simp [hji]

namespace Pairing.Faithful

variable (h : t.Faithful shared)

include h

/-- In a table which nobody else uses, slots correspond to themselves. -/
theorem eq_of_corresponds (unshared : ¬shared) (hi : t.Corresponds shared i i') : i = i' := by
  rcases hi with hi | ⟨-, hi⟩
  · exact h.straight unshared i i' hi
  · exact hi

/-- A slot corresponds to one slot at most. -/
theorem right_unique (hi : t.Corresponds shared i i') (hj : t.Corresponds shared i j') : i' = j' := by
  by_cases hshared : shared
  · have hi := hi.resolve_right fun h => h.1 hshared
    have hj := hj.resolve_right fun h => h.1 hshared
    rw [hi] at hj
    exact Option.some.inj hj
  · rw [← h.eq_of_corresponds hshared hi, ← h.eq_of_corresponds hshared hj]

/-- No two slots correspond to the same. -/
theorem left_unique (hi : t.Corresponds shared i i') (hj : t.Corresponds shared j i') : i = j := by
  by_cases hshared : shared
  · exact h.distinct i j i' (hi.resolve_right fun h => h.1 hshared) (hj.resolve_right fun h => h.1 hshared)
  · rw [h.eq_of_corresponds hshared hi, h.eq_of_corresponds hshared hj]

/-- Pairing a slot with one which stands for no other. -/
theorem take (fresh : ∀ j, t j = some i' → j = i) (straight : ¬shared → i = i') :
    Pairing.Faithful (Function.update t i (some i')) shared where
  distinct := by
    intro j l j' hj hl
    rcases take_eq_some_iff.mp hj with ⟨hji, hj'⟩ | ⟨hji, hold⟩ <;>
      rcases take_eq_some_iff.mp hl with ⟨hli, hl'⟩ | ⟨hli, hold'⟩
    · rw [hji, hli]
    · exact absurd (fresh l (hj' ▸ hold')) hli
    · exact absurd (fresh j (hl' ▸ hold)) hji
    · exact h.distinct j l j' hold hold'
  straight := by
    intro hshared j j' hj
    rcases take_eq_some_iff.mp hj with ⟨rfl, rfl⟩ | ⟨-, hold⟩
    · exact straight hshared
    · exact h.straight hshared j j' hold

/-- Forgetting one pair keeps a pairing faithful. -/
theorem drop (i : Fin n) : Pairing.Faithful (Function.update t i none) shared where
  distinct := h.distinct.drop i
  straight hshared j j' hj := h.straight hshared j j' (drop_eq_some_iff.mp hj).2

/-- When every taken slot of the second table corresponds to a taken slot of the first, a free slot of the first
table leaves one of the second free. -/
theorem exists_free {Taken Taken' : Fin n → Prop}
    (first : ∀ i i', t.Corresponds shared i i' → Taken' i' → Taken i)
    (second : ∀ i', Taken' i' → ∃ i, t.Corresponds shared i i') (free : ∃ i, ¬Taken i) :
    ∃ i', ¬Taken' i' := by
  by_contra hfull
  push Not at hfull
  choose g hg using fun i' => second i' (hfull i')
  have hinjective : Function.Injective g := by
    intro i' j' hij
    have hi' := hg i'
    rw [hij] at hi'
    exact h.right_unique hi' (hg j')
  obtain ⟨i, hi⟩ := free
  obtain ⟨i', rfl⟩ := Finite.injective_iff_surjective.mp hinjective i
  exact hi (first _ _ (hg i') (hfull i'))

end Pairing.Faithful

/-- A name which remembers a slot remembers its partner in the other table. -/
theorem PairedId.partner (h : PairedId t i.val p') : ∃ i', t i = some i' ∧ p' = i'.val := by
  generalize hp : (i.val : ℤ) = p at h
  cases h with
  | nothing => exact absurd hp (val_ne_neg_one i)
  | @slot j j' paired =>
    obtain rfl : i = j := Fin.ext (by omega)
    exact ⟨j', paired, rfl⟩

/-- Paired numbers are both `-1`, or those of paired slots. -/
theorem PairedId.nothing_or_slot (h : PairedId t p p') :
    p = -1 ∧ p' = -1 ∨ ∃ i i', t i = some i' ∧ p = i.val ∧ p' = i'.val := by
  cases h with
  | nothing => exact Or.inl ⟨rfl, rfl⟩
  | slot paired => exact Or.inr ⟨_, _, paired, rfl, rfl⟩

/-- Paired numbers are `-1` together. -/
theorem PairedId.eq_neg_one_iff (h : PairedId t p p') : p = -1 ↔ p' = -1 := by
  cases h with
  | nothing => exact Iff.rfl
  | slot => exact iff_of_false (val_ne_neg_one _) (val_ne_neg_one _)

/-- Pairing a slot keeps what is paired, unless it was paired with another one. -/
theorem PairedId.take (h : PairedId t p p') (fits : t i = none ∨ t i = some i') :
    PairedId (Function.update t i (some i')) p p' := by
  cases h with
  | nothing => exact PairedId.nothing
  | @slot j j' paired =>
    apply PairedId.slot
    by_cases hji : j = i
    · subst hji
      rw [Function.update_self]
      rcases fits with hnone | hsame
      · rw [hnone] at paired
        cases paired
      · rw [← hsame, paired]
    · rw [Function.update_of_ne hji, paired]

/-- Unpairing a slot keeps the other pairs. -/
theorem PairedId.drop (h : PairedId t p p') (hp : p ≠ i.val) :
    PairedId (Function.update t i none) p p' := by
  cases h with
  | nothing => exact PairedId.nothing
  | @slot j j' paired =>
    apply PairedId.slot
    rw [Function.update_of_ne _ _ _, paired]
    intro hji
    exact hp (by rw [hji])

section Updates

variable [DecidableEq N] {o : N}

/-- A name may come into being, disappear, or forget its slot. -/
theorem PairedIds.forget (h : PairedIds t shared ids ids') {id : Option ℤ} (hid : HoldsNothing id) :
    PairedIds t shared (Function.update ids o id) (Function.update ids' o id) where
  paired := by
    intro o'
    by_cases hoo : o' = o
    · rw [hoo, Function.update_self, Function.update_self]
      rcases hid with rfl | rfl
      · exact Option.Rel.none
      · exact Option.Rel.some PairedId.nothing
    · rw [Function.update_of_ne hoo, Function.update_of_ne hoo]
      exact h.paired o'
  exclusive := by
    have hother : ∀ o' p, Function.update ids o id o' = some p → p ≠ -1 → ids o' = some p := by
      intro o' p ho' hp
      by_cases hoo : o' = o
      · rw [hoo, Function.update_self] at ho'
        rcases hid with rfl | rfl
        · cases ho'
        · exact absurd (Option.some.inj ho').symm hp
      · rwa [Function.update_of_ne hoo] at ho'
    intro hshared o₁ o₂ p h₁ h₂ hp
    exact h.exclusive hshared o₁ o₂ p (hother o₁ p h₁ hp) (hother o₂ p h₂ hp) hp

/-- A slot of a shared table is unpaired when the name which remembered it has forgotten it. -/
theorem PairedIds.drop (h : PairedIds t shared ids ids') (hshared : shared) (ho : ids o = some (i.val : ℤ))
    {id : Option ℤ} (hid : HoldsNothing id) :
    PairedIds (Function.update t i none) shared (Function.update ids o id) (Function.update ids' o id) where
  paired := by
    intro o'
    by_cases hoo : o' = o
    · rw [hoo, Function.update_self, Function.update_self]
      rcases hid with rfl | rfl
      · exact Option.Rel.none
      · exact Option.Rel.some PairedId.nothing
    · rw [Function.update_of_ne hoo, Function.update_of_ne hoo]
      have hother : ids o' ≠ some (i.val : ℤ) := by
        intro ho'
        exact hoo (h.exclusive hshared o' o _ ho' ho (val_ne_neg_one i))
      have hrel := h.paired o'
      generalize ids o' = x at hrel hother
      generalize ids' o' = y at hrel
      cases hrel with
      | none => exact Option.Rel.none
      | some hpair =>
        apply Option.Rel.some
        apply hpair.drop
        rintro rfl
        exact hother rfl
  exclusive := (h.forget hid).exclusive

/-- A name remembers a slot which is now paired. In a shared table the slot was free. -/
theorem PairedIds.take (h : PairedIds t shared ids ids') (fits : t i = none ∨ ¬shared ∧ t i = some i') :
    PairedIds (Function.update t i (some i')) shared (Function.update ids o (some (i.val : ℤ)))
      (Function.update ids' o (some (i'.val : ℤ))) where
  paired := by
    intro o'
    by_cases hoo : o' = o
    · rw [hoo, Function.update_self, Function.update_self]
      exact Option.Rel.some (PairedId.slot (Function.update_self ..))
    · rw [Function.update_of_ne hoo, Function.update_of_ne hoo]
      have hrel := h.paired o'
      generalize ids o' = x at hrel
      generalize ids' o' = y at hrel
      cases hrel with
      | none => exact Option.Rel.none
      | some hpair => exact Option.Rel.some (hpair.take (fits.imp_right And.right))
  exclusive := by
    intro hshared
    have empty : t i = none := fits.resolve_right fun h => h.1 hshared
    have hnobody : ∀ o', ids o' ≠ some (i.val : ℤ) := by
      intro o' ho'
      have hrel := h.paired o'
      rw [ho'] at hrel
      generalize ids' o' = y at hrel
      cases hrel with
      | some hpair =>
        obtain ⟨i', hi, -⟩ := hpair.partner
        rw [empty] at hi
        cases hi
    intro o₁ o₂ p h₁ h₂ hp
    by_cases ho₁ : o₁ = o <;> by_cases ho₂ : o₂ = o
    · rw [ho₁, ho₂]
    · subst ho₁
      rw [Function.update_self, Option.some.injEq] at h₁
      rw [Function.update_of_ne ho₂, ← h₁] at h₂
      exact absurd h₂ (hnobody o₂)
    · subst ho₂
      rw [Function.update_self, Option.some.injEq] at h₂
      rw [Function.update_of_ne ho₁, ← h₂] at h₁
      exact absurd h₁ (hnobody o₁)
    · rw [Function.update_of_ne ho₁] at h₁
      rw [Function.update_of_ne ho₂] at h₂
      exact h.exclusive hshared o₁ o₂ p h₁ h₂ hp

end Updates

end Library
