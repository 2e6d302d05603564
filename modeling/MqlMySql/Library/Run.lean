import MqlMySql.Library.Fallible
import Mathlib.Data.List.Induction

/-!
# Recorded runs of fallible labelled steps

A step function takes a label and a state and either faults or returns a typed reply with the
next state. A run records every step with the states around it, so that a property of a run can
speak about each call, its answer, and everything that came before.

The rules at the end turn facts about one step into facts about every state and every step of a
run: with a condition that each step must meet, with an invariant that reads the past, and as an
equivalence between a condition on the steps and a property of the steps.
-/

namespace Library

universe u v w x

/-- One executed step: the state it was taken from, its label, its reply, and the next state. -/
structure Recorded (S : Type u) (L : Type v) (R : L → Type w) where
  before : S
  label : L
  reply : R label
  after : S

variable {S : Type u} {L : Type v} {R : L → Type w} {ε : Type x}

/-- The recorded runs of a step function which end without a fault. -/
inductive Run (next : (l : L) → S → Except ε (R l × S)) : S → List (Recorded S L R) → S → Prop
  | nil (s : S) : Run next s [] s
  | cons {s s₁ s₂ : S} {l : L} {r : R l} {tail : List (Recorded S L R)}
      (head : next l s = .ok (r, s₁)) (rest : Run next s₁ tail s₂) :
      Run next s (⟨s, l, r, s₁⟩ :: tail) s₂

variable {next : (l : L) → S → Except ε (R l × S)} {s s' : S} {tr : List (Recorded S L R)}

/-- Consecutive runs compose. -/
theorem Run.append {s₁ s₂ s₃ : S} {past future : List (Recorded S L R)}
    (h₁ : Run next s₁ past s₂) (h₂ : Run next s₂ future s₃) :
    Run next s₁ (past ++ future) s₃ := by
  induction h₁ with
  | nil => exact h₂
  | cons head _ ih => exact Run.cons head (ih h₂)

/-- A run splits at every position of its record. -/
theorem Run.split {past future : List (Recorded S L R)} (h : Run next s (past ++ future) s') :
    ∃ middle, Run next s past middle ∧ Run next middle future s' := by
  induction past generalizing s with
  | nil => exact ⟨s, Run.nil s, h⟩
  | cons x past ih =>
    cases h with
    | cons head rest =>
      obtain ⟨middle, hpast, hfuture⟩ := ih rest
      exact ⟨middle, Run.cons head hpast, hfuture⟩

/-- Every recorded step sits between a run of the past and a run of the future. -/
theorem Run.split_at {past future : List (Recorded S L R)} {x : Recorded S L R}
    (h : Run next s (past ++ x :: future) s') :
    Run next s past x.before ∧ next x.label x.before = .ok (x.reply, x.after) ∧
      Run next x.after future s' := by
  obtain ⟨middle, hpast, hrest⟩ := h.split
  cases hrest with
  | cons head rest => exact ⟨hpast, head, rest⟩

/-- A run of at least one step ends with its last recorded step. -/
theorem Run.last_step (h : Run next s tr s') (hne : tr ≠ []) :
    ∃ past x, tr = past ++ [x] ∧ x.after = s' := by
  rcases List.eq_nil_or_concat tr with rfl | ⟨past, x, rfl⟩
  · exact absurd rfl hne
  · rw [List.concat_eq_append] at h
    obtain ⟨-, -, hlast⟩ := h.split_at
    cases hlast
    exact ⟨past, x, List.concat_eq_append, rfl⟩

/-- Induction on a run from its end: the past is already a run. -/
theorem Run.reverse_induction {motive : List (Recorded S L R) → S → Prop}
    (start : motive [] s)
    (step : ∀ past x, Run next s past x.before → motive past x.before →
      next x.label x.before = .ok (x.reply, x.after) → motive (past ++ [x]) x.after)
    (h : Run next s tr s') : motive tr s' := by
  induction tr using List.reverseRecOn generalizing s' with
  | nil =>
    cases h
    exact start
  | append_singleton past x ih =>
    obtain ⟨hpast, hstep, hlast⟩ := h.split_at
    cases hlast
    exact step past x hpast (ih hpast) hstep

/-- Take labelled steps one after the other and record them. -/
def replay (next : (l : L) → S → Except ε (R l × S)) :
    List L → S → Except ε (List (Recorded S L R) × S)
  | [], s => .ok ([], s)
  | l :: rest, s =>
    match next l s with
    | .error e => .error e
    | .ok (r, s₁) =>
      match replay next rest s₁ with
      | .error e => .error e
      | .ok (tail, s₂) => .ok (⟨s, l, r, s₁⟩ :: tail, s₂)

/-- A replay which does not fault is a run. -/
theorem Run.of_replay {labels : List L} {start last : S} {record : List (Recorded S L R)}
    (h : replay next labels start = .ok (record, last)) : Run next start record last := by
  induction labels generalizing start record with
  | nil =>
    cases h
    exact Run.nil _
  | cons l rest ih =>
    rw [replay] at h
    split at h
    · cases h
    · rename_i hstep
      split at h
      · cases h
      · rename_i hrest
        cases h
        exact Run.cons hstep (ih hrest)

/-- A run is the replay of its labels. -/
theorem Run.replay_eq (h : Run next s tr s') : replay next (tr.map (·.label)) s = .ok (tr, s') := by
  induction h with
  | nil => rfl
  | cons head _ ih => simp only [List.map_cons, replay, head, ih]

/-- A replay which passes a check is a run which passes it. -/
theorem Run.of_passes {next : (l : L) → S → Except ε (R l × S)} {labels : List L} {s : S}
    {check : List (Recorded S L R) × S → Bool} (h : passes check (replay next labels s) = true) :
    ∃ tr s', Run next s tr s' ∧ check (tr, s') = true := by
  obtain ⟨⟨tr, s'⟩, hreplay, hcheck⟩ := exists_of_passes h
  exact ⟨tr, s', Run.of_replay hreplay, hcheck⟩

/-- An invariant kept by every step of a run holds at its end. -/
theorem Run.keeps (Inv : S → Prop) (h : Run next s tr s')
    (step : ∀ y ∈ tr, next y.label y.before = .ok (y.reply, y.after) → Inv y.before → Inv y.after)
    (start : Inv s) : Inv s' := by
  induction h with
  | nil => exact start
  | cons head _ ih =>
    apply ih
    · intro y hy
      exact step y (List.mem_cons_of_mem _ hy)
    · exact step _ List.mem_cons_self head start

/-- What holds at the start of a run and not at its end stops holding in one of its steps. -/
theorem Run.flips (P : S → Prop) (h : Run next s tr s') (start : P s) (last : ¬ P s') :
    ∃ past x future, tr = past ++ x :: future ∧ P x.before ∧ ¬ P x.after := by
  induction h with
  | nil => exact absurd start last
  | @cons s s₁ s₂ l r tail head rest ih =>
    by_cases hmiddle : P s₁
    · obtain ⟨past, x, future, rfl, hx⟩ := ih hmiddle last
      exact ⟨_ :: past, x, future, rfl, hx⟩
    · exact ⟨[], _, tail, rfl, start, hmiddle⟩

/-- An invariant relating the current state to the recorded past holds after every run whose steps
all meet the condition under which one step keeps it. -/
theorem Run.preserves_history {Inv : List (Recorded S L R) → S → Prop} {Meets : S → L → Prop}
    (step : ∀ past x, Inv past x.before → Meets x.before x.label →
      next x.label x.before = .ok (x.reply, x.after) → Inv (past ++ [x]) x.after)
    (h : Run next s tr s') (start : Inv [] s) (meets : ∀ x ∈ tr, Meets x.before x.label) :
    Inv tr s' := by
  refine Run.reverse_induction
    (motive := fun tr s' => (∀ x ∈ tr, Meets x.before x.label) → Inv tr s')
    (fun _ => start) (fun past x _ ih hx hmeets => ?_) h meets
  exact step past x (ih fun y hy => hmeets y (List.mem_append_left _ hy))
    (hmeets x (by simp)) hx

/-- One of the recorded steps is an `E`, and `P` holds after it and after all later steps. -/
def Since (E : Recorded S L R → Prop) (P : S → Prop) (tr : List (Recorded S L R)) : Prop :=
  ∃ past x future, tr = past ++ x :: future ∧ E x ∧ ∀ y ∈ x :: future, P y.after

section Since

variable {E : Recorded S L R → Prop} {P : S → Prop} {x : Recorded S L R}

/-- It goes on for one more step. -/
theorem Since.snoc (h : Since E P tr) (hx : P x.after) : Since E P (tr ++ [x]) := by
  obtain ⟨past, y, future, rfl, hy, hall⟩ := h
  refine ⟨past, y, future ++ [x], by simp, hy, ?_⟩
  intro z hz
  rw [← List.cons_append, List.mem_append, List.mem_singleton] at hz
  rcases hz with hz | rfl
  · exact hall z hz
  · exact hx

/-- It begins with the last step. -/
theorem Since.begin (he : E x) (hx : P x.after) : Since E P (tr ++ [x]) := by
  refine ⟨tr, x, [], rfl, he, ?_⟩
  intro z hz
  obtain rfl := List.mem_singleton.mp hz
  exact hx

end Since

/-- What holds of every element at its place in a list holds of all elements. -/
theorem forall_split_iff {α : Type u} {l : List α} {P : α → Prop} :
    (∀ past x future, l = past ++ x :: future → P x) ↔ ∀ x ∈ l, P x := by
  constructor
  · intro hall x hx
    obtain ⟨past, future, heq⟩ := List.append_of_mem hx
    exact hall past x future heq
  · rintro hall past x future rfl
    exact hall x (by simp)

section AllAlong

variable {A : Type u} {X : Type v} {f : A → X → A} {P : A → X → Prop}

/-- At every place of a list, a condition on the element and on what the elements before it add up to. -/
def AllAlong (f : A → X → A) (P : A → X → Prop) : A → List X → Prop
  | _, [] => True
  | a, x :: rest => P a x ∧ AllAlong f P (f a x) rest

instance AllAlong.decidable [∀ a x, Decidable (P a x)] : (a : A) → (l : List X) → Decidable (AllAlong f P a l)
  | _, [] => isTrue trivial
  | a, x :: rest =>
    have := AllAlong.decidable (f a x) rest
    inferInstanceAs (Decidable (P a x ∧ AllAlong f P (f a x) rest))

theorem AllAlong.at {a : A} {past future : List X} {x : X} (h : AllAlong f P a (past ++ x :: future)) :
    P (past.foldl f a) x := by
  induction past generalizing a with
  | nil => exact h.1
  | cons y past ih => exact ih h.2

end AllAlong

/-- When, from states satisfying an invariant, an allowed step is correct exactly if it meets a
condition, and steps meeting it keep the invariant, then all steps of a run of allowed steps are
correct exactly if all meet the condition. -/
theorem Run.forall_correct_iff (Inv : List (Recorded S L R) → S → Prop)
    (Allowed : Recorded S L R → Prop) {Meets : S → L → Prop}
    {Correct : List (Recorded S L R) → Recorded S L R → Prop}
    (step : ∀ past x, Inv past x.before → Allowed x → Meets x.before x.label →
      next x.label x.before = .ok (x.reply, x.after) → Inv (past ++ [x]) x.after)
    (correct : ∀ past x, Inv past x.before → Allowed x →
      next x.label x.before = .ok (x.reply, x.after) → (Correct past x ↔ Meets x.before x.label))
    (h : Run next s tr s') (start : Inv [] s) (allowed : ∀ x ∈ tr, Allowed x) :
    (∀ past x future, tr = past ++ x :: future → Correct past x) ↔
      ∀ x ∈ tr, Meets x.before x.label := by
  have invariant : ∀ past s₁, Run next s past s₁ →
      (∀ y ∈ past, Allowed y ∧ Meets y.before y.label) → Inv past s₁ := by
    intro past s₁ hpast
    refine Run.reverse_induction (motive := fun past s₁ =>
      (∀ y ∈ past, Allowed y ∧ Meets y.before y.label) → Inv past s₁) (fun _ => start)
      (fun past x _ ih hx hall => ?_) hpast
    obtain ⟨hallowed, hmeets⟩ := hall x (by simp)
    exact step past x (ih fun y hy => hall y (List.mem_append_left _ hy)) hallowed hmeets hx
  have key : ∀ past x future, tr = past ++ x :: future →
      (∀ y ∈ past, Meets y.before y.label) → (Correct past x ↔ Meets x.before x.label) := by
    rintro past x future rfl hpast
    obtain ⟨hrun, hx, _⟩ := h.split_at
    refine correct past x (invariant past x.before hrun fun y hy => ?_) (allowed x (by simp)) hx
    exact ⟨allowed y (by simp [hy]), hpast y hy⟩
  constructor
  · intro hall
    have hprefix : ∀ past future, tr = past ++ future → ∀ y ∈ past, Meets y.before y.label := by
      intro past
      induction past using List.reverseRecOn with
      | nil => simp
      | append_singleton past x ih =>
        intro future heq y hy
        have hpast := ih (x :: future) (by simpa using heq)
        rcases List.mem_append.mp hy with hy | hy
        · exact hpast y hy
        · obtain rfl : y = x := by simpa using hy
          have heq' : tr = past ++ y :: future := by simpa using heq
          exact (key past y future heq' hpast).mp (hall past y future heq')
    exact hprefix tr [] (by simp)
  · rintro hall past x future rfl
    exact (key past x future rfl fun y hy => hall y (by simp [hy])).mpr (hall x (by simp))

end Library
