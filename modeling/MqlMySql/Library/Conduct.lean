import MqlMySql.Library.Program
import Mathlib.Order.WellFounded

/-!
# Programs which obey rules

Rules say, phase by phase, which calls a program may make and to which phase a reply leads. That a program obeys
rules is a fact about the program alone: it is shown part by part, before anything is said about states.
-/

namespace Library

universe u v

/-- Which calls may be made in a phase, and where their replies lead. -/
structure Rules (P : Type v) {L : Type u} (R : L → Type u) where
  may : P → L → Prop
  leads : P → (l : L) → R l → P → Prop

variable {L : Type u} {R : L → Type u} {α β : Type u} {P : Type v}

/-- From a phase on, every call is one which the rules allow, whatever the replies, and the program ends well. -/
def Obeys (rules : Rules P R) (Ends : P → α → Prop) : Program L R α → P → Prop
  | .done a, phase => Ends phase a
  | .call l rest, phase =>
    rules.may phase l ∧ ∀ r, ∃ next, rules.leads phase l r next ∧ Obeys rules Ends (rest r) next

/-- All calls of a program satisfy a predicate. -/
def Program.Makes (Q : L → Prop) : Program L R α → Prop
  | .done _ => True
  | .call l rest => Q l ∧ ∀ r, (rest r).Makes Q

section Makes

variable {Q : L → Prop}

/-- A program without calls makes whatever calls are asked for. -/
@[simp] theorem Program.makes_done (a : α) : (Program.done a : Program L R α).Makes Q := trivial

/-- The first call, and those of every continuation. -/
@[simp] theorem Program.makes_call {l : L} {rest : R l → Program L R α} :
    (Program.call l rest).Makes Q ↔ Q l ∧ ∀ r, (rest r).Makes Q := Iff.rfl

/-- Asking is one call. -/
@[simp] theorem Program.makes_ask {l : L} : (Program.ask l : Program L R (R l)).Makes Q ↔ Q l :=
  ⟨fun h => h.1, fun h => ⟨h, fun _ => trivial⟩⟩

/-- Both branches, each when it is taken. -/
@[simp] theorem Program.makes_ite {c : Prop} [Decidable c] {p q : Program L R α} :
    (if c then p else q).Makes Q ↔ (c → p.Makes Q) ∧ (¬c → q.Makes Q) := by
  by_cases hc : c <;> simp [hc]

/-- The calls of a sequence are those of its parts. -/
theorem Program.Makes.bind {p : Program L R α} {f : α → Program L R β} (h : p.Makes Q)
    (rest : ∀ a, (f a).Makes Q) : (p >>= f).Makes Q := by
  induction p with
  | done a => exact rest a
  | call l next ih => exact ⟨h.1, fun r => ih r (h.2 r)⟩

end Makes

variable {rules : Rules P R} {Ends : P → α → Prop} {Ends' : P → β → Prop} {phase : P}

/-- A sequence obeys rules when its first part does, and what follows does from where that ends. -/
theorem Obeys.bind {p : Program L R α} {f : α → Program L R β} (h : Obeys rules Ends p phase)
    (rest : ∀ a middle, Ends middle a → Obeys rules Ends' (f a) middle) :
    Obeys rules Ends' (p >>= f) phase := by
  induction p generalizing phase with
  | done a => exact rest a phase h
  | call l next ih =>
    refine ⟨h.1, fun r => ?_⟩
    obtain ⟨middle, hleads, hnext⟩ := h.2 r
    exact ⟨middle, hleads, ih r hnext⟩

/-- A program whose calls are all allowed and leave the phase as it is. -/
theorem Obeys.of_makes {Q : L → Prop} {p : Program L R α} (h : p.Makes Q)
    (may : ∀ l, Q l → rules.may phase l) (stays : ∀ l r, Q l → rules.leads phase l r phase) :
    Obeys rules (fun last _ => last = phase) p phase := by
  induction p with
  | done a => rfl
  | call l next ih => exact ⟨may l h.1, fun r => ⟨phase, stays l r h.1, ih r (h.2 r)⟩⟩

/-- The end may be described more loosely. -/
theorem Obeys.mono {Ends' : P → α → Prop} {p : Program L R α} (h : Obeys rules Ends p phase)
    (looser : ∀ last a, Ends last a → Ends' last a) : Obeys rules Ends' p phase := by
  induction p generalizing phase with
  | done a => exact looser phase a h
  | call l next ih =>
    refine ⟨h.1, fun r => ?_⟩
    obtain ⟨middle, hleads, hnext⟩ := h.2 r
    exact ⟨middle, hleads, ih r hnext⟩

/-- The calls of a program with their replies, from the program to what remains of it. -/
inductive Program.Path : Program L R α → List (Σ l, R l) → Program L R α → Prop
  | nil (p : Program L R α) : Path p [] p
  | snoc {p : Program L R α} {l : L} {rest : R l → Program L R α} {made : List (Σ l, R l)}
      (path : Path p made (.call l rest)) (r : R l) : Path p (made ++ [⟨l, r⟩]) (rest r)

/-- What remains of a program which obeys rules obeys them, from a phase to which the calls have led. -/
theorem Obeys.path {p q : Program L R α} {made : List (Σ l, R l)} (h : Obeys rules Ends p phase)
    (path : p.Path made q) (Inv : List (Σ l, R l) → P → Prop) (start : Inv [] phase)
    (step : ∀ made phase l r next, Inv made phase → rules.leads phase l r next → Inv (made ++ [⟨l, r⟩]) next) :
    ∃ last, Inv made last ∧ Obeys rules Ends q last := by
  induction path with
  | nil => exact ⟨phase, start, h⟩
  | snoc path r ih =>
    obtain ⟨middle, hmiddle, hobeys⟩ := ih
    obtain ⟨next, hleads, hnext⟩ := hobeys.2 r
    exact ⟨next, step _ _ _ _ _ hmiddle hleads, hnext⟩

namespace Program

/-- What remains after one call. -/
inductive Next : Program L R α → Program L R α → Prop
  | intro {l : L} (rest : R l → Program L R α) (r : R l) : Next (rest r) (.call l rest)

/-- There is no infinite descent into the continuations of a program. -/
theorem next_wellFounded : WellFounded (Next (R := R) (α := α)) := by
  refine ⟨fun p => ?_⟩
  induction p with
  | done a =>
    constructor
    intro q h
    cases h
  | call l rest ih =>
    constructor
    intro q h
    cases h with
    | intro _ r => exact ih r

/-- After some calls, a program is no longer what it was. -/
theorem ne_of_after {p q : Program L R α} (h : Relation.TransGen Next q p) : q ≠ p := by
  rintro rfl
  exact next_wellFounded.transGen.asymmetric q q h h

end Program

end Library
