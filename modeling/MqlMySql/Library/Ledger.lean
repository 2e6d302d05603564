import MqlMySql.Library.SlotTable
import Mathlib.Data.List.Count

/-!
# Ledgers of resources kept in slots

Resources are obtained and released, and in between each is kept in a slot of a table. A ledger is
accounted for when, for every resource, as many were obtained as were released and are kept.
-/

namespace Library

variable {n : ℕ} {X : Type*} [DecidableEq X] {obtained released : List X} {t : Occupancy n X}

/-- Everything which was obtained was released or is kept in a slot. -/
def Accounted (obtained released : List X) (t : Occupancy n X) : Prop :=
  ∀ x, obtained.count x = released.count x + t.count x

/-- How often a resource is released once all slots are emptied. -/
def due (released : List X) (t : Occupancy n X) (x : X) : ℕ := released.count x + t.count x

/-- At the start nothing was obtained. -/
theorem Accounted.start (empty : ∀ i, t i = none) : Accounted [] [] t := by
  intro x
  rw [Occupancy.count_empty empty]
  rfl

variable {i : Fin n}

/-- A resource is obtained and put into an empty slot. -/
theorem Accounted.take {x : X} (h : Accounted obtained released t) (empty : t i = none) :
    Accounted (x :: obtained) released (Function.update t i (some x)) := by
  intro y
  rw [Occupancy.count_take empty, List.count_cons, h y]
  simp only [beq_iff_eq]
  omega

/-- Resources are obtained and released at once. -/
theorem Accounted.pass (h : Accounted obtained released t) (l : List X) :
    Accounted (l ++ obtained) (l ++ released) t := by
  intro y
  rw [List.count_append, List.count_append, h y, Nat.add_assoc]

/-- Emptying a slot and releasing what it kept, if anything, changes nothing of what is due. -/
theorem due_drop {kept : Option X} (held : t i = kept) (y : X) :
    due (kept.toList ++ released) (Function.update t i none) y = due released t y := by
  cases kept with
  | none =>
    have hsame : Function.update t i none = t := by rw [← held, Function.update_eq_self]
    rw [hsame, Option.toList_none, List.nil_append]
  | some x =>
    rw [due, due, Occupancy.count_drop held, Option.toList_some, List.singleton_append, List.count_cons]
    simp only [beq_iff_eq]
    omega

/-- What a slot kept is released and the slot emptied. -/
theorem Accounted.drop {kept : Option X} (h : Accounted obtained released t) (held : t i = kept) :
    Accounted obtained (kept.toList ++ released) (Function.update t i none) := by
  intro y
  exact (h y).trans (due_drop held y).symm

/-- A resource which is obtained and put nowhere is missing. -/
theorem Accounted.not_of_lost {x : X} (h : Accounted obtained released t) :
    ¬ Accounted (x :: obtained) released t := by
  intro hlost
  have hx := hlost x
  rw [List.count_cons_self, h x] at hx
  omega

/-- Nothing is due of an empty table but what was released. -/
theorem due_empty (empty : ∀ i, t i = none) (x : X) : due released t x = released.count x := by
  rw [due, Occupancy.count_empty empty, Nat.add_zero]

end Library
