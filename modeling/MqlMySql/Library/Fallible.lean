import Mathlib.Tactic.Common

/-!
# Stateful actions which may fault

Small rules for `StateT S (Except ε)`: how sequencing runs, and what a run which did not fault says
about its parts.
-/

namespace Library

universe u v

variable {S α β : Type u} {ε : Type v}

/-- What follows a success gets its value. -/
@[simp] theorem ok_bind (a : α) (f : α → Except ε β) : (Except.ok a >>= f) = f a := rfl

/-- Nothing follows a failure. -/
@[simp] theorem error_bind (e : ε) (f : α → Except ε β) : (Except.error e >>= f) = .error e := rfl

/-- Returning is a success. -/
@[simp] theorem pure_eq_ok (a : α) : (pure a : Except ε α) = .ok a := rfl

/-- Throwing is a failure. -/
@[simp] theorem throw_eq_error (e : ε) : (throw e : Except ε α) = .error e := rfl

/-- Throwing is a failure in every state. -/
@[simp] theorem run_throw (e : ε) (s : S) :
    (throw e : StateT S (Except ε) α).run s = .error e := rfl

/-- Whether a computation returns something that passes a check. -/
def passes (check : α → Bool) : Except ε α → Bool
  | .ok a => check a
  | .error _ => false

/-- A computation which passes a check has returned. -/
theorem exists_of_passes {check : α → Bool} {x : Except ε α} (h : passes check x = true) :
    ∃ a, x = .ok a ∧ check a = true := by
  cases x with
  | error e => cases h
  | ok a => exact ⟨a, rfl, h⟩

/-- A sequence of fallible values is a value exactly when both halves are. -/
theorem bind_eq_ok_iff {x : Except ε α} {f : α → Except ε β} {b : β} :
    (x >>= f) = .ok b ↔ ∃ a, x = .ok a ∧ f a = .ok b := by
  cases x <;> simp

/-- A sequence returned exactly when both halves returned. -/
theorem run_bind_eq_ok_iff {x : StateT S (Except ε) α} {f : α → StateT S (Except ε) β} {s s' : S}
    {b : β} :
    (x >>= f).run s = .ok (b, s') ↔
      ∃ a s₁, x.run s = .ok (a, s₁) ∧ (f a).run s₁ = .ok (b, s') := by
  rw [StateT.run_bind]
  cases h : x.run s with
  | error e => simp
  | ok p =>
    obtain ⟨a, s₁⟩ := p
    simp

/-- A loop whose body always returns folds the effect of the body over the list. -/
theorem run_forM_of_ok {γ : Type u} {body : γ → StateT S (Except ε) PUnit} {effect : S → γ → S}
    (h : ∀ c s, (body c).run s = .ok (⟨⟩, effect s c)) (l : List γ) (s : S) :
    (l.forM body).run s = .ok (⟨⟩, l.foldl effect s) := by
  induction l generalizing s with
  | nil => rfl
  | cons c l ih =>
    rw [List.forM_eq_forM, List.forM_cons, StateT.run_bind, h, ok_bind, List.foldl_cons]
    exact ih _

/-- What every turn of a fold keeps holds at its end. -/
theorem foldl_keeps {γ : Type v} (effect : S → γ → S) (Inv : S → Prop)
    (keeps : ∀ s c, Inv s → Inv (effect s c)) (l : List γ) {s : S} (start : Inv s) :
    Inv (l.foldl effect s) := by
  induction l generalizing s with
  | nil => exact start
  | cons c l ih => exact ih (keeps s c start)

/-- What the turn of one element establishes and every turn keeps holds at the end for all elements. -/
theorem foldl_establishes {γ : Type v} (effect : S → γ → S) (Done : γ → S → Prop)
    (does : ∀ s c, Done c (effect s c)) (keeps : ∀ s c d, Done d s → Done d (effect s c))
    (l : List γ) (s : S) : ∀ c ∈ l, Done c (l.foldl effect s) := by
  induction l generalizing s with
  | nil => simp
  | cons c l ih =>
    intro d hd
    rcases List.mem_cons.mp hd with rfl | hd
    · exact foldl_keeps effect (Done d) (fun s c => keeps s c d) l (does s d)
    · exact ih (effect s c) d hd

end Library
