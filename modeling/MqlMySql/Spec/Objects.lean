import MqlMySql.Model.Client
import MqlMySql.Library.Holding
import MqlMySql.Spec.Record

/-!
# What the methods of the wrapper classes can do

Each method is described by the id which its object remembers afterwards and by what the exported calls
it makes did. `ObjectStep` collects this for the operations of a client; later facts about objects are
read off it, so that the methods are taken apart only here.
-/

namespace MqlMySql

open Library

variable {σ : Type} {host : Host σ} {turns : ℕ} {w w' : World σ}

namespace CMySQL

variable {this this' : CMySQL}

/-- Writing the error of an object keeps its id. -/
@[simp] theorem setError_connectID (number : ℤ) (description : String) :
    (this.setError number description).connectID = this.connectID := rfl

/-- Clearing the error of an object keeps its id. -/
@[simp] theorem clearErrors_connectID : this.clearErrors.connectID = this.connectID := rfl

/-- Clearing the error of an object keeps its credentials. -/
@[simp] theorem clearErrors_credentials : this.clearErrors.credentials = this.credentials := rfl

/-- Reading the error of a connection changes nothing in the DLL. -/
@[simp] theorem run_readError (p : ℤ) : (this.readError p).run (dllStep host turns) w =
    .ok (this.setError (cGetMySqlErrorNumber p w.dll) (cGetMySqlErrorDescription p w.dll), w) :=
  rfl

/-- `Execute` with an id, run: one call, and the error of the connection when it fails. -/
theorem run_execute_eq (hp : this.connectID ≠ -1) (q : WStr) :
    (this.execute q).run (dllStep host turns) w =
      match (cMySqlExecute host turns this.connectID q).run w with
      | .error fault => .error fault
      | .ok (true, w') => .ok ((true, this.clearErrors), w')
      | .ok (false, w') => .ok ((false, this.setError (cGetMySqlErrorNumber this.connectID w'.dll)
          (cGetMySqlErrorDescription this.connectID w'.dll)), w') := by
  have hcalls : this.execute q = _ := if_neg hp
  rw [hcalls, Program.ask_bind, Program.run]
  cases hcall : (cMySqlExecute host turns this.connectID q).run w with
  | error fault =>
    have hstep : dllStep host turns (.execute this.connectID q) w = _ := hcall
    rw [clearErrors, setError, hstep]
    rfl
  | ok result =>
    have hstep : dllStep host turns (.execute this.connectID q) w = _ := hcall
    obtain ⟨accepted, w'⟩ := result
    rw [clearErrors, setError, hstep]
    cases accepted with
    | true => rfl
    | false => rfl

/-- Executing keeps the id. -/
theorem run_execute {q : WStr} {b : Bool}
    (h : (this.execute q).run (dllStep host turns) w = .ok ((b, this'), w')) :
    this'.connectID = this.connectID ∧ w'.registry = w.registry ∧ w.calls <:+ w'.calls := by
  by_cases hp : this.connectID = -1
  · have hlocal : this.execute q = _ := if_pos hp
    rw [hlocal] at h
    cases h
    exact ⟨rfl, rfl, List.suffix_refl _⟩
  · rw [run_execute_eq hp] at h
    cases hcall : (cMySqlExecute host turns this.connectID q).run w with
    | error fault =>
      rw [hcall] at h
      cases h
    | ok result =>
      obtain ⟨accepted, w₁⟩ := result
      have hquery := cMySqlExecute_outcome host hcall
      rw [hcall] at h
      cases accepted with
      | true =>
        cases h
        exact ⟨rfl, hquery.registry, hquery.calls⟩
      | false =>
        cases h
        exact ⟨rfl, hquery.registry, hquery.calls⟩

/-- `Connect` with credentials and without an id, run: one call, the names, and the error of `-1` when either
fails. -/
theorem run_connect_eq {c : Credentials} (hc : this.credentials = some c) (hp : ¬0 ≤ this.connectID) :
    this.connect.run (dllStep host turns) w =
      match (cMySqlConnect host c).run w with
      | .error fault => .error fault
      | .ok (r, w') =>
        if r = -1 then
          .ok ((false, this.setError (cGetMySqlErrorNumber (-1) w'.dll) (cGetMySqlErrorDescription (-1) w'.dll)),
            w')
        else
          match (cMySqlExecute host turns r (wide "SET NAMES UTF8")).run w' with
          | .error fault => .error fault
          | .ok (true, w'') => .ok ((true, { this with connectID := r }.clearErrors), w'')
          | .ok (false, w'') =>
            .ok ((true, { this with connectID := r }.setError (cGetMySqlErrorNumber (-1) w''.dll)
              (cGetMySqlErrorDescription (-1) w''.dll)), w'') := by
  obtain ⟨number, description, connectID, credentials⟩ := this
  obtain rfl : credentials = some c := hc
  dsimp only at hp
  simp only [connect, clearErrors, setError, hp, reduceIte, readError, Program.ask_bind, Program.call_bind,
    Program.run, dllStep, call]
  cases hcall : (cMySqlConnect host c).run w with
  | error fault => rfl
  | ok result =>
    obtain ⟨r, w'⟩ := result
    simp only [ok_bind]
    by_cases hr : r = -1
    · subst hr
      rfl
    · have hexecute := @run_execute_eq σ host turns w' ⟨0, "No errors.", r, some c⟩ hr (wide "SET NAMES UTF8")
      simp only [if_neg hr, Program.run_bind, hexecute]
      cases hnames : (cMySqlExecute host turns r (wide "SET NAMES UTF8")).run w' with
      | error fault => rfl
      | ok named =>
        obtain ⟨accepted, w''⟩ := named
        cases accepted with
        | true => rfl
        | false => rfl

/-- Connecting keeps the id, or takes a free slot for the handle which the library allocated. -/
theorem run_connect {b : Bool}
    (h : this.connect.run (dllStep host turns) w = .ok ((b, this'), w')) :
    this'.connectID = this.connectID ∧ w'.registry = w.registry ∨
      ∃ (i : Fin maxConnections) (m : Mysql), this.connectID < 0 ∧ this'.connectID = i.val ∧
        w.registry.connections i = none ∧ w'.registry = w.registry.connect i m ∧
          (.init (some m) :: w.calls) <:+ w'.calls := by
  cases hc : this.credentials with
  | none =>
    simp only [connect, clearErrors_credentials, hc] at h
    cases h
    exact Or.inl ⟨rfl, rfl⟩
  | some c =>
    by_cases hp : 0 ≤ this.connectID
    · simp only [connect, clearErrors_credentials, hc, clearErrors_connectID, if_pos hp] at h
      cases h
      exact Or.inl ⟨rfl, rfl⟩
    rw [run_connect_eq hc hp] at h
    cases hcall : (cMySqlConnect host c).run w with
    | error fault =>
      rw [hcall] at h
      cases h
    | ok result =>
      obtain ⟨r, w₁⟩ := result
      rw [hcall] at h
      rcases (cMySqlConnect_outcome host hcall).taken with ⟨rfl, hsame⟩ | ⟨i, m, rfl, free, htaken, hcalls⟩
      · cases h
        exact Or.inl ⟨rfl, hsame⟩
      · dsimp only at h
        rw [if_neg (val_ne_neg_one i)] at h
        cases hnames : (cMySqlExecute host turns i.val (wide "SET NAMES UTF8")).run w₁ with
        | error fault =>
          rw [hnames] at h
          cases h
        | ok named =>
          obtain ⟨accepted, w₂⟩ := named
          have hquery := cMySqlExecute_outcome host hnames
          rw [hnames] at h
          have hw : w' = w₂ ∧ this'.connectID = i.val := by
            cases accepted with
            | true =>
              cases h
              exact ⟨rfl, rfl⟩
            | false =>
              cases h
              exact ⟨rfl, rfl⟩
          obtain ⟨rfl, hid⟩ := hw
          exact Or.inr ⟨i, m, not_le.mp hp, hid, free, hquery.registry.trans htaken,
            hcalls.trans hquery.calls⟩

/-- Disconnecting forgets the id, and the registry forgets what it named. -/
theorem run_disconnect (h : this.disconnect.run (dllStep host turns) w = .ok (this', w')) :
    this'.connectID = -1 ∧
      Registry.Step (.disconnect this.connectID) () w.registry w'.registry := by
  unfold disconnect at h
  dsimp only at h
  split at h
  · rename_i hid
    cases h
    refine ⟨hid, .notDisconnected ?_⟩
    intro i hi
    exact absurd (hi.symm.trans hid) (val_ne_neg_one i)
  · rw [Program.ask_bind, Program.run_call_eq_ok_iff] at h
    obtain ⟨_, w₁, hcall, h⟩ := h
    cases h
    exact ⟨rfl, call_refines host hcall⟩

/-- The destructor forgets what the id named. -/
theorem run_delete (h : this.delete.run (dllStep host turns) w = .ok ((), w')) :
    Registry.Step (.disconnect this.connectID) () w.registry w'.registry := by
  unfold delete at h
  split at h
  · obtain ⟨_, w₁, hdisconnect, h⟩ := Program.run_bind_eq_ok_iff.mp h
    cases h
    exact (run_disconnect hdisconnect).2
  · rename_i hneg
    cases h
    apply Registry.Step.notDisconnected
    intro i hi
    omega

/-- Reading the number of affected rows registers nothing. -/
theorem run_rowsAffected {n : ℤ}
    (h : this.rowsAffected.run (dllStep host turns) w = .ok (n, w')) : w'.registry = w.registry := by
  obtain ⟨_, w₁, hcall, h⟩ := Program.run_call_eq_ok_iff.mp h
  cases h
  exact (cMySqlRowsAffected_outcome host hcall).registry

end CMySQL

namespace CMySQLCursor

variable {this this' : CMySQLCursor}

/-- Reading the error of the cursor changes nothing in the DLL. -/
@[simp] theorem run_readError : this.readError.run (dllStep host turns) w =
    .ok (this.setError (cGetCursorErrorNumber this.cursorID w.dll)
      (cGetCursorErrorDescription this.cursorID w.dll), w) :=
  rfl

/-- Opening remembers what `cMySqlCursorOpen` returned. -/
theorem run_openOn {connection : CMySQL} {q : WStr} {b : Bool}
    (h : (this.openOn connection q).run (dllStep host turns) w = .ok ((b, this'), w')) :
    OpenOutcome host connection.connectID q w this'.cursorID w' := by
  rw [openOn, Program.ask_bind, Program.run_call_eq_ok_iff] at h
  obtain ⟨r, w₁, hcall, h⟩ := h
  have hopen := cMySqlCursorOpen_outcome host hcall
  split at h
  · cases h
    exact hopen
  · cases h
    exact hopen

/-- `Close`, run: the object forgets its cursor when the number read after the call is `0`. -/
theorem run_close_eq :
    this.close.run (dllStep host turns) w =
      match (cMySqlCursorClose host this.cursorID).run w with
      | .error fault => .error fault
      | .ok (_, w') =>
        .ok (⟨if cGetCursorErrorNumber this.cursorID w'.dll = 0 then -1 else this.cursorID, this.connectID,
          cGetCursorErrorNumber this.cursorID w'.dll, cGetCursorErrorDescription this.cursorID w'.dll⟩, w') := by
  simp only [close, clearErrors, setError, readError, Program.ask_bind, Program.call_bind, Program.run, dllStep,
    call]
  cases hcall : (cMySqlCursorClose host this.cursorID).run w with
  | error fault => rfl
  | ok result =>
    obtain ⟨_, w'⟩ := result
    by_cases hzero : cGetCursorErrorNumber this.cursorID w'.dll = 0
    · simp [hzero]
    · simp [hzero]

/-- Closing forgets the id when the number read after it is `0`. -/
theorem run_close (h : this.close.run (dllStep host turns) w = .ok (this', w')) :
    CloseOutcome host this.cursorID w w' ∧ this'.cursorID =
      if cGetCursorErrorNumber this.cursorID w'.dll = 0 then -1 else this.cursorID := by
  rw [run_close_eq] at h
  cases hcall : (cMySqlCursorClose host this.cursorID).run w with
  | error fault =>
    rw [hcall] at h
    cases h
  | ok result =>
    rw [hcall] at h
    cases h
    exact ⟨cMySqlCursorClose_outcome host hcall, rfl⟩

/-- A call whose error is read afterwards keeps the id of the object. -/
theorem run_call_readError {α : Type} {e : Exported} {answer : e.Reply → α} {a : α}
    (h : (dll e >>= fun r => this.readError >>= fun this => pure (answer r, this)).run
      (dllStep host turns) w = .ok ((a, this'), w')) :
    ∃ r, (call host turns e).run w = .ok (r, w') ∧ this'.cursorID = this.cursorID := by
  rw [Program.ask_bind, Program.run_call_eq_ok_iff] at h
  obtain ⟨r, w₁, hcall, h⟩ := h
  obtain ⟨read, w₂, hread, h⟩ := Program.run_bind_eq_ok_iff.mp h
  rw [run_readError] at hread
  cases hread
  cases h
  exact ⟨r, hcall, rfl⟩

/-- `Rows` keeps the id and registers nothing. -/
theorem run_rows {n : ℤ} (h : this.rows.run (dllStep host turns) w = .ok ((n, this'), w')) :
    this'.cursorID = this.cursorID ∧ w'.registry = w.registry := by
  obtain ⟨r, hcall, hid⟩ := run_call_readError h
  exact ⟨hid, (cMySqlCursorRows_outcome host hcall).registry⟩

/-- `Fetch` keeps the id and registers nothing. -/
theorem run_fetch {b : Bool} (h : this.fetch.run (dllStep host turns) w = .ok ((b, this'), w')) :
    this'.cursorID = this.cursorID ∧ w'.registry = w.registry := by
  obtain ⟨r, hcall, hid⟩ := run_call_readError h
  exact ⟨hid, (cMySqlCursorFetchRow_outcome host hcall).registry⟩

/-- `FieldAsString` keeps the id and registers nothing. -/
theorem run_fieldAsString {f : ℤ} {s : WStr}
    (h : (this.fieldAsString f).run (dllStep host turns) w = .ok ((s, this'), w')) :
    this'.cursorID = this.cursorID ∧ w'.registry = w.registry := by
  obtain ⟨r, hcall, hid⟩ := run_call_readError h
  exact ⟨hid, (cMySqlGetRowField_outcome host hcall).registry⟩

/-- The destructor closes what the id names. -/
theorem run_delete (h : this.delete.run (dllStep host turns) w = .ok ((), w')) :
    this.cursorID < 0 ∧ w' = w ∨ CloseOutcome host this.cursorID w w' := by
  unfold delete at h
  split at h
  · obtain ⟨_, w₁, hclose, h⟩ := Program.run_bind_eq_ok_iff.mp h
    cases h
    exact Or.inr (run_close hclose).1
  · rename_i hneg
    cases h
    exact Or.inl ⟨not_le.mp hneg, rfl⟩

end CMySQLCursor

end MqlMySql
