import MqlMySql.Library.SlotTable
import Mathlib.Data.Finset.Insert

/-!
# Slots on loan

Several users share a table of slots. Each of them is told the numbers of slots which were free, and gives back what
it was told. Nobody needs to know of the others: as long as everyone gives back only what it was told once, the table
is in the end what it was, whatever the order, and even if a slot is given back more than once.
-/

namespace Library

universe u v

/-- The numbers which one user was told so far, and those of them which it has still to give back. -/
@[ext] structure Debts where
  told : Finset ℤ
  owed : Finset ℤ
  nonneg : ∀ p ∈ owed, 0 ≤ p

namespace Debts

/-- A user which was told nothing. -/
def nothing : Debts := ⟨∅, ∅, by simp⟩

variable (d : Debts) (p : ℤ)

/-- The user is told a number; negative ones name no slot. -/
def tell : Debts :=
  if h : 0 ≤ p then ⟨insert p d.told, insert p d.owed, Finset.forall_mem_insert _ _ _ |>.mpr ⟨h, d.nonneg⟩⟩ else d

/-- The user gives a number back. -/
def give : Debts := ⟨d.told, d.owed.erase p, fun q hq => d.nonneg q (Finset.mem_of_mem_erase hq)⟩

/-- The user may give the number back. -/
def May : Prop := p < 0 ∨ p ∈ d.told

/-- The user owes nothing. -/
def Settled : Prop := d.owed = ∅

variable {d p} {q : ℤ}

/-- To be settled is to owe no number. -/
theorem settled_iff : d.Settled ↔ ∀ p, p ∉ d.owed := Finset.eq_empty_iff_forall_notMem

/-- Who was told nothing owes nothing. -/
theorem nothing_settled : nothing.Settled := rfl

/-- At the beginning no number is owed. -/
@[simp] theorem mem_nothing_owed : ¬ p ∈ nothing.owed := Finset.notMem_empty p

/-- At the beginning no number has been told. -/
@[simp] theorem mem_nothing_told : ¬ p ∈ nothing.told := Finset.notMem_empty p

/-- Being told a number adds it to what is owed, unless it is negative. -/
@[simp] theorem mem_tell_owed : q ∈ (d.tell p).owed ↔ q = p ∧ 0 ≤ p ∨ q ∈ d.owed := by
  unfold tell
  split
  · rename_i hp
    simp [hp]
  · rename_i hp
    simp [hp]

/-- Being told a number adds it to what was told, unless it is negative. -/
@[simp] theorem mem_tell_told : q ∈ (d.tell p).told ↔ q = p ∧ 0 ≤ p ∨ q ∈ d.told := by
  unfold tell
  split
  · rename_i hp
    simp [hp]
  · rename_i hp
    simp [hp]

/-- Giving back does not unsay what was told. -/
@[simp] theorem give_told : (d.give p).told = d.told := rfl

/-- Giving a number back takes it off what is owed. -/
@[simp] theorem mem_give_owed : q ∈ (d.give p).owed ↔ q ≠ p ∧ q ∈ d.owed := Finset.mem_erase

/-- A negative number is no loan. -/
theorem tell_of_neg (h : p < 0) : d.tell p = d := dif_neg (not_le.mpr h)

/-- Giving a negative number back changes nothing. -/
theorem give_of_neg (h : p < 0) : d.give p = d := by
  ext1
  · rfl
  · exact Finset.erase_eq_of_notMem fun hp => not_le.mpr h (d.nonneg p hp)

/-- Who was told nothing may pass on negative numbers only. -/
@[simp] theorem may_nothing : nothing.May p ↔ p < 0 := by simp [May]

/-- What a user was told it may give back. -/
@[simp] theorem may_tell : (d.tell p).May q ↔ q = p ∨ d.May q := by
  rw [May, May, mem_tell_told]
  by_cases hq : q = p
  · simp [hq, lt_or_ge, ← or_assoc]
  · simp [hq]

/-- What may be passed on stays the same after giving back. -/
@[simp] theorem may_give : (d.give p).May q ↔ d.May q := Iff.rfl

end Debts

variable {n : ℕ} {P : Type u} {T : Type v} [DecidableEq T]

/-- The table is as it was, apart from slots which were free and which somebody has to give back; and what anybody was
told had been free. -/
structure Lent (base now : Occupancy n P) (debts : T → Debts) : Prop where
  same : ∀ k : Fin n, now k = base k ∨ base k = none ∧ ∃ t, (k.val : ℤ) ∈ (debts t).owed
  free : ∀ t (k : Fin n), (k.val : ℤ) ∈ (debts t).told → base k = none

variable {base now : Occupancy n P} {debts : T → Debts} {t : T} {p : ℤ}

namespace Lent

omit [DecidableEq T] in
/-- Before the first loan, the table is the given one. -/
theorem start (base : Occupancy n P) : Lent base base fun _ : T => Debts.nothing where
  same _ := .inl rfl
  free _ _ told := absurd told Debts.mem_nothing_told

omit [DecidableEq T] in
/-- What was taken before the loans stays as it is. -/
theorem kept (h : Lent base now debts) {k : Fin n} (taken : base k ≠ none) : now k = base k :=
  (h.same k).resolve_right fun hfree => taken hfree.1

omit [DecidableEq T] in
/-- What is free now was free before. -/
theorem base_free (h : Lent base now debts) {k : Fin n} (empty : now k = none) : base k = none := by
  rcases h.same k with hsame | ⟨hfree, -⟩
  · rw [← hsame, empty]
  · exact hfree

omit [DecidableEq T] in
/-- When nobody owes anything the table is what it was. -/
theorem restored (h : Lent base now debts) (settled : ∀ t, (debts t).Settled) : now = base := by
  funext k
  rcases h.same k with hsame | ⟨-, t, howed⟩
  · exact hsame
  · exact absurd howed (Debts.settled_iff.mp (settled t) _)

/-- The debts of one user have changed. -/
theorem update (h : Lent base now debts) {now' : Occupancy n P} {d : Debts}
    (same : ∀ j : Fin n, now' j = now j ∧ ((j.val : ℤ) ∈ (debts t).owed → (j.val : ℤ) ∈ d.owed) ∨
      now' j = base j ∨ base j = none ∧ (j.val : ℤ) ∈ d.owed)
    (free : ∀ j : Fin n, (j.val : ℤ) ∈ d.told → base j = none) :
    Lent base now' (Function.update debts t d) := by
  have here : (Function.update debts t d t).owed = d.owed := by rw [Function.update_self]
  refine ⟨fun j => ?_, fun u j told => ?_⟩
  · rcases same j with ⟨hnow, howed⟩ | hnow | ⟨hfree, howed⟩
    · rw [hnow]
      refine (h.same j).imp_right fun ⟨hfree, u, hu⟩ => ⟨hfree, ?_⟩
      by_cases hut : u = t
      · subst hut
        exact ⟨u, here ▸ howed hu⟩
      · exact ⟨u, by rwa [Function.update_of_ne hut]⟩
    · exact .inl hnow
    · exact .inr ⟨hfree, t, here ▸ howed⟩
  · by_cases hut : u = t
    · subst hut
      rw [Function.update_self] at told
      exact free j told
    · rw [Function.update_of_ne hut] at told
      exact h.free u j told

/-- A user is told a free slot, where something is put now, or nothing. -/
theorem tell (h : Lent base now debts) {k : Fin n} (empty : now k = none) (payload : Option P) :
    Lent base (Function.update now k payload) (Function.update debts t ((debts t).tell k.val)) := by
  refine h.update (fun j => ?_) fun j told => ?_
  · by_cases hjk : j = k
    · subst hjk
      exact .inr (.inr ⟨h.base_free empty, by simp⟩)
    · exact .inl ⟨Function.update_of_ne hjk .., fun howed => Debts.mem_tell_owed.mpr (.inr howed)⟩
  · rcases Debts.mem_tell_told.mp told with ⟨hjk, -⟩ | htold
    · obtain rfl : j = k := Fin.ext (by omega)
      exact h.base_free empty
    · exact h.free t j htold

/-- A user is told that there is none. -/
theorem tell_neg (h : Lent base now debts) (hp : p < 0) :
    Lent base now (Function.update debts t ((debts t).tell p)) := by
  rwa [Debts.tell_of_neg hp, Function.update_eq_self]

/-- A user gives back the number of a slot. -/
theorem give (h : Lent base now debts) {k : Fin n} (may : (debts t).May k.val) :
    Lent base (Function.update now k none) (Function.update debts t ((debts t).give k.val)) := by
  refine h.update (fun j => ?_) (h.free t)
  by_cases hjk : j = k
  · subst hjk
    rw [Function.update_self]
    exact .inr (.inl (h.free t j (may.resolve_left (by omega))).symm)
  · refine .inl ⟨Function.update_of_ne hjk .., fun howed => Debts.mem_give_owed.mpr ⟨?_, howed⟩⟩
    intro hval
    exact hjk (Fin.ext (by omega))

/-- Nothing is in the slot which a user gives back, or there is no such slot. -/
theorem give_free (h : Lent base now debts) (empty : ∀ k : Fin n, p = k.val → now k = none) :
    Lent base now (Function.update debts t ((debts t).give p)) := by
  refine h.update (fun j => ?_) (h.free t)
  by_cases hj : p = j.val
  · rw [empty j hj]
    exact .inr (.inl (h.base_free (empty j hj)).symm)
  · exact .inl ⟨rfl, fun howed => Debts.mem_give_owed.mpr ⟨fun hval => hj hval.symm, howed⟩⟩

/-- A user who owes nothing leaves. -/
theorem leave (h : Lent base now debts) (settled : (debts t).Settled) :
    Lent base now (Function.update debts t .nothing) := by
  refine h.update (fun j => .inl ⟨rfl, fun howed => ?_⟩) fun j told => absurd told Debts.mem_nothing_told
  exact absurd howed (Debts.settled_iff.mp settled _)

end Lent

end Library
