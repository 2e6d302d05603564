import MqlMySql.Library.Run

/-!
# Programs over labelled calls

A program is a tree: it has finished with a result, or it makes a call and goes on according to the
reply. Running it to its end makes the calls one after the other; stepping it makes one call at a time,
so that the calls of several programs may be interleaved.
-/

namespace Library

universe u

/-- A program over labelled calls with typed replies. -/
inductive Program (L : Type u) (R : L → Type u) (α : Type u) : Type u
  | done (result : α)
  | call (l : L) (rest : R l → Program L R α)

variable {L : Type u} {R : L → Type u} {α β S ε : Type u}

namespace Program

/-- Go on with another program after the end. -/
protected def bind : Program L R α → (α → Program L R β) → Program L R β
  | .done result, f => f result
  | .call l rest, f => .call l fun r => (rest r).bind f

instance : Monad (Program L R) where
  pure := .done
  bind := Program.bind

/-- The program which makes one call. -/
def ask (l : L) : Program L R (R l) := .call l .done

/-- Returning makes no call. -/
@[simp] theorem pure_eq (a : α) : (pure a : Program L R α) = .done a := rfl

/-- What follows a program without calls. -/
@[simp] theorem done_bind (a : α) (f : α → Program L R β) : (Program.done a >>= f) = f a := rfl

/-- What follows a program comes after its first call. -/
@[simp] theorem call_bind (l : L) (rest : R l → Program L R α) (f : α → Program L R β) :
    (Program.call l rest >>= f) = .call l fun r => rest r >>= f := rfl

/-- Asking and going on with the reply. -/
@[simp] theorem ask_bind (l : L) (f : R l → Program L R α) : (ask l >>= f) = .call l f := rfl

/-- Three programs one after the other, by induction on the first. -/
theorem bind_assoc {γ : Type u} (p : Program L R α) (f : α → Program L R β) (g : β → Program L R γ) :
    (p >>= f >>= g) = p >>= fun a => f a >>= g := by
  induction p with
  | done a => rfl
  | call l rest ih => exact congrArg (Program.call l) (funext ih)

/-- Make all calls of a program. -/
def run (next : (l : L) → S → Except ε (R l × S)) : Program L R α → S → Except ε (α × S)
  | .done result, s => .ok (result, s)
  | .call l rest, s => next l s >>= fun p => (rest p.1).run next p.2

variable {next : (l : L) → S → Except ε (R l × S)} {s s' : S}

/-- A program without calls leaves the state. -/
@[simp] theorem run_done (a : α) (s : S) : (Program.done a : Program L R α).run next s = .ok (a, s) :=
  rfl

/-- A program which starts with a call ran to its end when the call returned and the rest did. -/
theorem run_call_eq_ok_iff {l : L} {rest : R l → Program L R α} {a : α} :
    (Program.call l rest).run next s = .ok (a, s') ↔
      ∃ r s₁, next l s = .ok (r, s₁) ∧ (rest r).run next s₁ = .ok (a, s') := by
  rw [run, bind_eq_ok_iff]
  constructor
  · rintro ⟨⟨r, s₁⟩, hcall, hrest⟩
    exact ⟨r, s₁, hcall, hrest⟩
  · rintro ⟨r, s₁, hcall, hrest⟩
    exact ⟨(r, s₁), hcall, hrest⟩

/-- A sequence of programs makes the calls of the first, then those of the second. -/
theorem run_bind (p : Program L R α) (f : α → Program L R β) (s : S) :
    (p >>= f).run next s = p.run next s >>= fun x => (f x.1).run next x.2 := by
  induction p generalizing s with
  | done a => rfl
  | call l rest ih =>
    rw [call_bind, run, run]
    cases next l s with
    | error e => rfl
    | ok x => exact ih x.1 x.2

/-- A sequence of programs ran to its end when both did. -/
theorem run_bind_eq_ok_iff {p : Program L R α} {f : α → Program L R β} {b : β} :
    (p >>= f).run next s = .ok (b, s') ↔
      ∃ a s₁, p.run next s = .ok (a, s₁) ∧ (f a).run next s₁ = .ok (b, s') := by
  rw [run_bind, bind_eq_ok_iff]
  constructor
  · rintro ⟨⟨a, s₁⟩, hfirst, hrest⟩
    exact ⟨a, s₁, hfirst, hrest⟩
  · rintro ⟨a, s₁, hfirst, hrest⟩
    exact ⟨(a, s₁), hfirst, hrest⟩

end Program

end Library
