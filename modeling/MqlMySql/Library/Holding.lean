import MqlMySql.Library.SlotTable

/-!
# Names which hold slots

Names remember the number of a slot each, or `-1` for none. They hold the slots of a table when every
remembered number is that of a taken slot and no two names remember the same; the payload of the slot
may be tied to the name by a relation. A slot may be taken without a name that holds it, so that every
taken slot is held is a separate property.
-/

namespace Library

variable {N P : Type*} {n : ℕ} {ids : N → Option ℤ} {t : Occupancy n P}
  {R R' : N → Fin n → P → Prop}

/-- Every existing name remembers `-1` or a slot of its own, with a payload related to the name. -/
structure Holds (R : N → Fin n → P → Prop) (ids : N → Option ℤ) (t : Occupancy n P) : Prop where
  held : ∀ o p, ids o = some p → p = -1 ∨ ∃ (i : Fin n) (x : P), p = i.val ∧ t i = some x ∧ R o i x
  exclusive : ∀ o o' p, ids o = some p → ids o' = some p → p ≠ -1 → o = o'

/-- Every taken slot is held by a name. -/
def AllHeld (ids : N → Option ℤ) (t : Occupancy n P) : Prop :=
  ∀ i, t i ≠ none → ∃ o, ids o = some (i.val : ℤ)

/-- A name which does not exist, or holds no slot. -/
def HoldsNothing (id : Option ℤ) : Prop := id = none ∨ id = some (-1)

theorem HoldsNothing.ne_val {id : Option ℤ} (h : HoldsNothing id) (i : Fin n) : id ≠ some (i.val : ℤ) := by
  rcases h with rfl | rfl
  · simp
  · intro hi
    exact val_ne_neg_one i (Option.some.inj hi).symm

/-- The slot which a name holds. -/
theorem Holds.slot (h : Holds R ids t) {o : N} {p : ℤ} (ho : ids o = some p) (hp : p ≠ -1) :
    ∃ (i : Fin n) (x : P), p = i.val ∧ t i = some x ∧ R o i x :=
  (h.held o p ho).resolve_left hp

/-- A name which remembers a negative number holds nothing. -/
theorem Holds.eq_neg_one (h : Holds R ids t) {o : N} {p : ℤ} (ho : ids o = some p) (hp : p < 0) :
    p = -1 := by
  rcases h.held o p ho with rfl | ⟨i, x, rfl, -, -⟩
  · rfl
  · omega

/-- The relation to the payloads may change as long as it keeps what is held. -/
theorem Holds.mono (h : Holds R ids t)
    (persist : ∀ o i x, R o i x → ids o = some (i.val : ℤ) → R' o i x) : Holds R' ids t where
  held := by
    intro o p ho
    rcases h.held o p ho with rfl | ⟨i, x, rfl, hx, hR⟩
    · exact Or.inl rfl
    · exact Or.inr ⟨i, x, rfl, hx, persist o i x hR ho⟩
  exclusive := h.exclusive

/-- Emptying the slot which a name held, after the name forgot it. -/
theorem Holds.drop (h : Holds R ids t) {i : Fin n}
    (ho : ∀ o', ids o' ≠ some (i.val : ℤ)) :
    Holds R ids (Function.update t i none) where
  held := by
    intro o' p ho'
    rcases h.held o' p ho' with rfl | ⟨j, y, rfl, hy, hR⟩
    · exact Or.inl rfl
    · have hji : j ≠ i := by
        rintro rfl
        exact ho o' ho'
      exact Or.inr ⟨j, y, rfl, by rw [Function.update_of_ne hji, hy], hR⟩
  exclusive := h.exclusive

variable [DecidableEq N] {o : N} {i : Fin n}

/-- A name may come into being, disappear, or forget its slot. -/
theorem Holds.forget (h : Holds R ids t) {id : Option ℤ} (hid : HoldsNothing id)
    (persist : ∀ o' j y, R o' j y → Function.update ids o id o' = some (j.val : ℤ) → R' o' j y) :
    Holds R' (Function.update ids o id) t := by
  have hother : ∀ o' p, Function.update ids o id o' = some p → p ≠ -1 → ids o' = some p := by
    intro o' p ho' hp
    by_cases hoo : o' = o
    · rw [hoo, Function.update_self] at ho'
      rcases hid with rfl | rfl
      · cases ho'
      · exact absurd (Option.some.inj ho').symm hp
    · rwa [Function.update_of_ne hoo] at ho'
  constructor
  · intro o' p ho'
    by_cases hp : p = -1
    · exact Or.inl hp
    · obtain ⟨j, y, rfl, hy, hR⟩ := h.slot (hother o' p ho' hp) hp
      exact Or.inr ⟨j, y, rfl, hy, persist o' j y hR ho'⟩
  · intro o₁ o₂ p h₁ h₂ hp
    exact h.exclusive o₁ o₂ p (hother o₁ p h₁ hp) (hother o₂ p h₂ hp) hp

/-- After the only name of a slot forgot it, no name remembers it. -/
theorem Holds.forgotten (h : Holds R ids t) (ho : ids o = some (i.val : ℤ)) {id : Option ℤ}
    (hid : HoldsNothing id) (o' : N) : Function.update ids o id o' ≠ some (i.val : ℤ) := by
  intro ho'
  by_cases hoo : o' = o
  · rw [hoo, Function.update_self] at ho'
    exact hid.ne_val i ho'
  · rw [Function.update_of_ne hoo] at ho'
    exact hoo (h.exclusive o' o _ ho' ho (val_ne_neg_one i))

/-- Taking an empty slot for a name. -/
theorem Holds.take (h : Holds R ids t) (empty : t i = none) {x : P} (new : R' o i x)
    (persist : ∀ o' j y, R o' j y →
      Function.update ids o (some (i.val : ℤ)) o' = some (j.val : ℤ) → R' o' j y) :
    Holds R' (Function.update ids o (some (i.val : ℤ))) (Function.update t i (some x)) := by
  have hnobody : ∀ o', ids o' ≠ some (i.val : ℤ) := by
    intro o' ho'
    obtain ⟨j, y, hj, hy, -⟩ := h.slot ho' (val_ne_neg_one i)
    obtain rfl : i = j := Fin.ext (by omega)
    rw [empty] at hy
    cases hy
  constructor
  · intro o' p ho'
    by_cases hoo : o' = o
    · subst hoo
      rw [Function.update_self, Option.some.injEq] at ho'
      exact Or.inr ⟨i, x, ho'.symm, Function.update_self .., new⟩
    · have hold := ho'
      rw [Function.update_of_ne hoo] at hold
      rcases h.held o' p hold with rfl | ⟨j, y, rfl, hy, hR⟩
      · exact Or.inl rfl
      · have hji : j ≠ i := by
          rintro rfl
          exact hnobody o' hold
        exact Or.inr ⟨j, y, rfl, by rw [Function.update_of_ne hji, hy], persist o' j y hR ho'⟩
  · intro o₁ o₂ p h₁ h₂ hp
    by_cases ho₁ : o₁ = o <;> by_cases ho₂ : o₂ = o
    · rw [ho₁, ho₂]
    · subst ho₁
      rw [Function.update_self, Option.some.injEq] at h₁
      rw [Function.update_of_ne ho₂, ← h₁] at h₂
      exact absurd h₂ (hnobody o₂)
    · subst ho₂
      rw [Function.update_self, Option.some.injEq] at h₂
      rw [Function.update_of_ne ho₁, ← h₂] at h₁
      exact absurd h₁ (hnobody o₁)
    · rw [Function.update_of_ne ho₁] at h₁
      rw [Function.update_of_ne ho₂] at h₂
      exact h.exclusive o₁ o₂ p h₁ h₂ hp

/-- Whatever a name holds is held by another name as well. -/
def Spare (ids : N → Option ℤ) (t : Occupancy n P) (o : N) : Prop :=
  ∀ i : Fin n, ids o = some (i.val : ℤ) → t i ≠ none → ∃ o', o' ≠ o ∧ ids o' = some (i.val : ℤ)

omit [DecidableEq N] in
theorem HoldsNothing.spare (h : HoldsNothing (ids o)) : Spare ids t o := by
  intro i hi
  exact absurd hi (h.ne_val i)

/-- A name which is spare may remember something else, come into being or disappear. -/
theorem AllHeld.rename (h : AllHeld ids t) {id : Option ℤ} (ho : Spare ids t o) :
    AllHeld (Function.update ids o id) t := by
  intro j hj
  obtain ⟨o', ho'⟩ := h j hj
  by_cases hoo : o' = o
  · rw [hoo] at ho'
    obtain ⟨o'', hne, ho''⟩ := ho j ho' hj
    exact ⟨o'', by rw [Function.update_of_ne hne, ho'']⟩
  · exact ⟨o', by rw [Function.update_of_ne hoo, ho']⟩

/-- The slot of a name is emptied when the name forgets it. -/
theorem AllHeld.drop (h : AllHeld ids t) {id : Option ℤ} (ho : ids o = some (i.val : ℤ)) :
    AllHeld (Function.update ids o id) (Function.update t i none) := by
  intro j hj
  have hji : j ≠ i := by
    rintro rfl
    exact hj (Function.update_self ..)
  rw [Function.update_of_ne hji] at hj
  obtain ⟨o', ho'⟩ := h j hj
  refine ⟨o', ?_⟩
  rw [Function.update_of_ne, ho']
  rintro rfl
  rw [ho] at ho'
  exact hji (Fin.ext (by have := Option.some.inj ho'; omega))

/-- A spare name takes a slot. -/
theorem AllHeld.take (h : AllHeld ids t) (ho : Spare ids t o) {x : Option P} :
    AllHeld (Function.update ids o (some (i.val : ℤ))) (Function.update t i x) := by
  intro j hj
  by_cases hji : j = i
  · exact ⟨o, by rw [hji, Function.update_self]⟩
  · rw [Function.update_of_ne hji] at hj
    exact h.rename ho j hj

/-- A slot is lost when the only name which holds it remembers something else. -/
theorem spare_of_allHeld (id : Option ℤ) (h : AllHeld (Function.update ids o id) t)
    (hid : ∀ i : Fin n, id = some (i.val : ℤ) → ids o = some (i.val : ℤ) → t i = none) :
    Spare ids t o := by
  intro i ho hi
  obtain ⟨o', ho'⟩ := h i hi
  by_cases hoo : o' = o
  · rw [hoo, Function.update_self] at ho'
    exact absurd (hid i ho' ho) hi
  · exact ⟨o', hoo, by rwa [Function.update_of_ne hoo] at ho'⟩

end Library
