import MqlMySql.Model.Procedures
import MqlMySql.Spec.Objects

/-!
# What the procedures do

Each procedure which makes more than one call, run to its end.
-/

namespace MqlMySql

open Library

variable {σ : Type} {host : Host σ} {turns : ℕ} {w : World σ} {p : ℤ}

namespace Globals

/-- `MySqlExecute` of the procedures, likewise. -/
theorem run_mySqlExecute (hp : p ≠ -1) (q : WStr) :
    (mySqlExecute p q).run (dllStep host turns) w =
      match (cMySqlExecute host turns p q).run w with
      | .error fault => .error fault
      | .ok (true, w') => .ok ((true, clearErrors), w')
      | .ok (false, w') =>
        .ok ((false, ⟨cGetMySqlErrorNumber p w'.dll, cGetMySqlErrorDescription p w'.dll⟩), w') := by
  rw [mySqlExecute, if_neg hp, Program.ask_bind, Program.run]
  cases hcall : (cMySqlExecute host turns p q).run w with
  | error fault =>
    have hstep : dllStep host turns (.execute p q) w = _ := hcall
    rw [hstep]
    rfl
  | ok result =>
    have hstep : dllStep host turns (.execute p q) w = _ := hcall
    obtain ⟨accepted, w'⟩ := result
    rw [hstep]
    cases accepted with
    | true => rfl
    | false => rfl

/-- `MySqlCursorClose` of the procedures, run. -/
theorem run_mySqlCursorClose (p : ℤ) :
    (mySqlCursorClose p).run (dllStep host turns) w =
      match (cMySqlCursorClose host p).run w with
      | .error fault => .error fault
      | .ok (_, w') => .ok (⟨cGetCursorErrorNumber p w'.dll, cGetCursorErrorDescription p w'.dll⟩, w') := by
  simp only [mySqlCursorClose, readCursorError, Program.ask_bind, Program.run, dllStep, call]
  cases hcall : (cMySqlCursorClose host p).run w with
  | error fault => rfl
  | ok result => rfl

/-- `MySqlConnect`, run: one call, the names, and the error of `-1` when either fails. -/
theorem run_mySqlConnect (c : Credentials) :
    (mySqlConnect c).run (dllStep host turns) w =
      match (cMySqlConnect host c).run w with
      | .error fault => .error fault
      | .ok (r, w') =>
        if r = -1 then
          .ok ((r, ⟨cGetMySqlErrorNumber (-1) w'.dll, cGetMySqlErrorDescription (-1) w'.dll⟩), w')
        else
          match (cMySqlExecute host turns r (wide "SET NAMES UTF8")).run w' with
          | .error fault => .error fault
          | .ok (true, w'') => .ok ((r, clearErrors), w'')
          | .ok (false, w'') =>
            .ok ((r, ⟨cGetMySqlErrorNumber (-1) w''.dll, cGetMySqlErrorDescription (-1) w''.dll⟩), w'') := by
  simp only [mySqlConnect, readMySqlError, Program.ask_bind, Program.call_bind, Program.run,
    dllStep, call]
  cases hcall : (cMySqlConnect host c).run w with
  | error fault => rfl
  | ok result =>
    obtain ⟨r, w'⟩ := result
    simp only [ok_bind]
    by_cases hr : r = -1
    · subst hr
      rfl
    · have hexecute := @run_mySqlExecute σ host turns w' r hr (wide "SET NAMES UTF8")
      simp only [if_neg hr, Program.pure_eq, Program.done_bind, Program.run_bind, hexecute]
      cases hnames : (cMySqlExecute host turns r (wide "SET NAMES UTF8")).run w' with
      | error fault => rfl
      | ok named =>
        obtain ⟨accepted, w''⟩ := named
        cases accepted with
        | true => rfl
        | false => rfl

end Globals

end MqlMySql
