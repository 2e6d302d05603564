import MqlMySql.Library.Run

/-!
# Trails of an abstract system

An abstract system moves along events, and a run of a program is a trail of it when every step of the run is an event
at which the two systems keep together. What holds along the trails then holds along the runs.
-/

namespace Library

universe u v w x

variable {A : Type u} {O : Type v} {step : A → O → A → Prop} {a b : A} {o : O} {os : List O}

/-- The events which lead from one state to another. -/
inductive Trail (step : A → O → A → Prop) : A → List O → A → Prop
  | nil (a : A) : Trail step a [] a
  | cons {a b c : A} {o : O} {os : List O} (head : step a o b) (tail : Trail step b os c) : Trail step a (o :: os) c

namespace Trail

/-- What is kept by every step along the way, together with what each of them shows. -/
theorem keeps (P : A → Prop) (Shows : O → Prop) (h : Trail step a os b)
    (kept : ∀ o ∈ os, ∀ a b, P a → step a o b → P b ∧ Shows o) (start : P a) : P b ∧ ∀ o ∈ os, Shows o := by
  induction h with
  | nil => exact ⟨start, by simp⟩
  | @cons a b c o os head tail ih =>
    obtain ⟨hb, ho⟩ := kept o List.mem_cons_self a b start head
    obtain ⟨hc, hos⟩ := ih (fun o' ho' => kept o' (List.mem_cons_of_mem o ho')) hb
    exact ⟨hc, List.forall_mem_cons.mpr ⟨ho, hos⟩⟩

end Trail

/-- A run is a trail, when every step of it is an event which keeps the states related. -/
theorem Run.trail {S : Type w} {L : Type v} {R : L → Type v} {ε : Type x} {next : (l : L) → S → Except ε (R l × S)}
    {s s' : S} {tr : List (Recorded S L R)} (event : Recorded S L R → O) (Rel : S → A → Prop)
    (h : Run next s tr s')
    (moves : ∀ x ∈ tr, next x.label x.before = .ok (x.reply, x.after) → ∀ a, Rel x.before a →
      ∃ b, step a (event x) b ∧ Rel x.after b) (start : Rel s a) :
    ∃ b, Trail step a (tr.map event) b ∧ Rel s' b := by
  induction h generalizing a with
  | nil => exact ⟨a, .nil a, start⟩
  | cons head _ ih =>
    obtain ⟨b, hstep, hb⟩ := moves _ List.mem_cons_self head a start
    obtain ⟨c, htrail, hc⟩ := ih (fun y hy => moves y (List.mem_cons_of_mem _ hy)) hb
    exact ⟨c, .cons hstep htrail, hc⟩

end Library
