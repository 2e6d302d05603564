import MqlMySql.Model.Client

/-!
# Two clients in one terminal

Two programs share the DLL of a terminal. Each owns objects of the wrapper classes and performs one operation
after the other, as its plan says from what it has seen so far; the exported calls of the two are interleaved
one by one. What one client asks the library has no influence on what the library answers the other, so each
client comes with a library of its own.
-/

namespace MqlMySql

open Library

/-- The two clients. -/
inductive Party
  | first
  | second
deriving DecidableEq, Repr

/-- What a client does next, from what its operations have returned so far. -/
abbrev Plan : Type := List Finished → Option Operation

/-- A client between two calls: what it has seen, and what remains of its current operation. -/
structure Session where
  seen : List Finished
  running : Option (Script (Finished × Objects))

/-- The program of the next operation. A plan ends with an operation which is not possible. -/
def Plan.program (plan : Plan) (seen : List Finished) (objects : Objects) :
    Option (Script (Finished × Objects)) :=
  (plan seen).bind fun operation => operation.perform objects

/-- A client before its first operation. -/
def Session.start (plan : Plan) : Session := ⟨[], plan.program [] Objects.none⟩

/-- The call which a client makes next, unless it is at the end of an operation. -/
def Session.nextCall (session : Session) : Option Exported :=
  match session.running with
  | some (.call e _) => some e
  | _ => none

/-- The two clients, the DLL which they share, and the library of each. -/
structure Terminal (σ : Type) where
  dll : Dll
  library : Party → σ
  calls : Party → List LibraryCall
  session : Party → Session

namespace Terminal

variable {σ : Type}

/-- The terminal after process attach. -/
def start (plan : Party → Plan) (library : Party → σ) : Terminal σ :=
  ⟨Dll.attached, library, fun _ => [], fun x => Session.start (plan x)⟩

variable (t : Terminal σ) (x : Party)

/-- What the calls of a client read and change. -/
def world : World σ := ⟨t.dll, t.library x, t.calls x⟩

/-- The terminal after a step of a client which made no call. -/
def moved (session : Session) : Terminal σ := { t with session := Function.update t.session x session }

/-- The terminal after a call of a client. -/
def called (w : World σ) (rest : Script (Finished × Objects)) : Terminal σ where
  dll := w.dll
  library := Function.update t.library x w.library
  calls := Function.update t.calls x w.calls
  session := Function.update t.session x ⟨(t.session x).seen, some rest⟩

end Terminal

variable {σ : Type}

/-- One step of a client: its next call, or the end of its operation. A client which has ended does nothing. -/
def terminalStep (host : Party → Host σ) (turns : ℕ) (plan : Party → Plan) (x : Party) (t : Terminal σ) :
    Except Fault (Unit × Terminal σ) :=
  match (t.session x).running with
  | none => .ok ((), t)
  | some (.done (finished, objects)) =>
    let seen := (t.session x).seen ++ [finished]
    .ok ((), t.moved x ⟨seen, (plan x).program seen objects⟩)
  | some (.call e rest) =>
    match (call (host x) turns e).run (t.world x) with
    | .error fault => .error fault
    | .ok (r, w) => .ok ((), t.called x w (rest r))

/-- What a step of a client is. -/
theorem terminalStep_cases {host : Party → Host σ} {turns : ℕ} {plan : Party → Plan} {x : Party}
    {t t' : Terminal σ} {u : Unit} (h : terminalStep host turns plan x t = .ok (u, t')) :
    (t.session x).running = none ∧ t' = t ∨
      (∃ finished objects, (t.session x).running = some (.done (finished, objects)) ∧
        t' = t.moved x ⟨(t.session x).seen ++ [finished],
          (plan x).program ((t.session x).seen ++ [finished]) objects⟩) ∨
      ∃ e rest r w, (t.session x).running = some (.call e rest) ∧
        (call (host x) turns e).run (t.world x) = .ok (r, w) ∧ t' = t.called x w (rest r) := by
  unfold terminalStep at h
  split at h
  · rename_i hidle
    cases h
    exact Or.inl ⟨hidle, rfl⟩
  · rename_i finished objects hdone
    cases h
    exact Or.inr (Or.inl ⟨finished, objects, hdone, rfl⟩)
  · rename_i e rest hcall
    split at h
    · cases h
    · rename_i r w hrun
      cases h
      exact Or.inr (Or.inr ⟨e, rest, r, w, hcall, hrun, rfl⟩)

section Steps

variable {host : Party → Host σ} {turns : ℕ} {plan : Party → Plan} {x y : Party} {t : Terminal σ}

/-- A party without a program does nothing. -/
theorem terminalStep_of_none (h : (t.session x).running = none) :
    terminalStep host turns plan x t = .ok ((), t) := by
  simp only [terminalStep, h]

/-- At the end of an operation its outcome is seen, and the plan says what comes next. -/
theorem terminalStep_of_done {finished : Finished} {objects : Objects}
    (h : (t.session x).running = some (.done (finished, objects))) :
    terminalStep host turns plan x t =
      .ok ((), t.moved x ⟨(t.session x).seen ++ [finished],
        (plan x).program ((t.session x).seen ++ [finished]) objects⟩) := by
  simp only [terminalStep, h]

/-- A party makes the next call of its operation, in its own world. -/
theorem terminalStep_of_call {e : Exported} {rest : e.Reply → Script (Finished × Objects)} {r : e.Reply}
    {w : World σ} (h : (t.session x).running = some (.call e rest))
    (hrun : (call (host x) turns e).run (t.world x) = .ok (r, w)) :
    terminalStep host turns plan x t = .ok ((), t.called x w (rest r)) := by
  simp only [terminalStep, h, hrun]

/-- Going on to the next operation makes no call. -/
@[simp] theorem Terminal.moved_world (session : Session) : (t.moved x session).world y = t.world y := rfl

/-- The session of the party which went on. -/
@[simp] theorem Terminal.moved_session (session : Session) : (t.moved x session).session x = session :=
  Function.update_self ..

/-- The other party's session stays. -/
theorem Terminal.moved_session_of_ne (session : Session) (hyx : y ≠ x) :
    (t.moved x session).session y = t.session y :=
  Function.update_of_ne hyx ..

/-- After a call the party sees the world which the call left. -/
@[simp] theorem Terminal.called_world (w : World σ) (rest : Script (Finished × Objects)) :
    (t.called x w rest).world x = w := by
  simp [Terminal.world, Terminal.called]

/-- After a call the party has the rest of its operation to run. -/
@[simp] theorem Terminal.called_session (w : World σ) (rest : Script (Finished × Objects)) :
    (t.called x w rest).session x = ⟨(t.session x).seen, some rest⟩ :=
  Function.update_self ..

/-- A call leaves the session of the other party. -/
theorem Terminal.called_session_of_ne (w : World σ) (rest : Script (Finished × Objects)) (hyx : y ≠ x) :
    (t.called x w rest).session y = t.session y :=
  Function.update_of_ne hyx ..

end Steps

/-- One step of a run of the terminal. -/
abbrev Stepped (σ : Type) := Recorded (Terminal σ) Party fun _ => Unit

/-- A run of the terminal from process attach. -/
abbrev TerminalRun (host : Party → Host σ) (turns : ℕ) (plan : Party → Plan) (library : Party → σ)
    (tr : List (Stepped σ)) (t : Terminal σ) : Prop :=
  Run (terminalStep host turns plan) (Terminal.start plan library) tr t

end MqlMySql
