import MqlMySql.Library.Agreement
import MqlMySql.Spec.NoCursor
import MqlMySql.Spec.Procedures
import MqlMySql.Spec.Rows
import MqlMySql.Spec.Server

/-!
# The two wrappers agree

A script sees the same through the procedures as through one object of each class, as long as it does not
connect while it is connected. The worlds stay the same; the ids stay the same as well, except that a cursor
object forgets its id when a close left the number `0`, while the variable of the script keeps it. From then on
both denote no open cursor, and the calls on such ids do the same.
-/

namespace MqlMySql

open Library

variable {σ : Type}

/-- The two scripts have the same ids, or neither has an open cursor. -/
structure SameIds (d : Dll) (procedural : ProceduralScript) (object : ObjectScript) : Prop where
  connection : object.connection.connectID = procedural.connection
  cursor : object.cursor.cursorID = procedural.cursor ∨
    NoCursor d object.cursor.cursorID ∧ NoCursor d procedural.cursor

/-- The two scripts use the same world and agree in it. -/
def Agree (s : ProceduralScript × World σ) (t : ObjectScript × World σ) : Prop :=
  s.2 = t.2 ∧ SameIds s.2.dll s.1 t.1

/-- The script does not connect while it is connected. -/
def ConnectsOnce (s : ProceduralScript × World σ) : Command → Prop
  | .connect _ => s.1.connection = -1
  | _ => True

instance (s : ProceduralScript × World σ) : (command : Command) → Decidable (ConnectsOnce s command)
  | .connect _ => inferInstanceAs (Decidable (_ = _))
  | .disconnect | .execute _ | .rowsAffected | .cursorOpen _ | .cursorClose | .rows | .fetch
  | .fieldAsString _ => isTrue trivial

variable {host : Host σ} {turns : ℕ} {w : World σ} {s : ProceduralScript} {t : ObjectScript}

/-- What both scripts do to read from the cursor: a call, and the error of the cursor after it. -/
def cursorCall {C : Type} (e : Exported) (p : ℤ) (see : e.Reply → ℤ → String → Seen × C) :
    Script (Seen × C) := do
  let reply ← dll e
  let number ← dll (.getCursorErrorNumber p)
  let description ← dll (.getCursorErrorDescription p)
  return see reply number description

/-- The call of a script which reads from its cursor, run. -/
theorem run_cursorCall {C : Type} (e : Exported) (p : ℤ) (see : e.Reply → ℤ → String → Seen × C) :
    (cursorCall e p see).run (dllStep host turns) w =
      match (call host turns e).run w with
      | .error fault => .error fault
      | .ok (reply, w') => .ok (see reply (cGetCursorErrorNumber p w'.dll)
          (cGetCursorErrorDescription p w'.dll), w') := by
  rw [cursorCall, Program.ask_bind, Program.run]
  cases hcall : (call host turns e).run w with
  | error fault =>
    rw [dllStep, hcall]
    rfl
  | ok result =>
    rw [dllStep, hcall]
    rfl

/-- Reading from the cursor agrees, when it keeps the ids. -/
theorem cursorCall_alike (agree : SameIds w.dll s t) (e : ℤ → Exported)
    (see : ∀ p, (e p).Reply → Bool × Answer) (absent : Bool × Answer)
    (missed : ∀ p, NoCursor w.dll p →
      ∃ reply, (call host turns (e p)).run w = .ok (reply, w.onDll wrongCursor) ∧ see p reply = absent) :
    Alike Agree
      ((cursorCall (e s.cursor) s.cursor fun reply number description =>
        s.sees (see _ reply).1 (see _ reply).2 ⟨number, description⟩).run (dllStep host turns) w >>=
          fun p => .ok (p.1.1, p.1.2, p.2))
      ((cursorCall (e t.cursor.cursorID) t.cursor.cursorID fun reply number description =>
        t.seesCursor (see _ reply).1 (see _ reply).2 (t.cursor.setError number description)).run
          (dllStep host turns) w >>= fun p => .ok (p.1.1, p.1.2, p.2)) := by
  rcases agree.cursor with hsame | ⟨hobject, hprocedural⟩
  · rw [run_cursorCall, run_cursorCall, hsame]
    cases hcall : (call host turns (e s.cursor)).run w with
    | error fault => exact Alike.faulted fault
    | ok result => exact Alike.returned ⟨rfl, agree.connection, Or.inl hsame⟩
  · obtain ⟨reply, hrun, hsee⟩ := missed _ hprocedural
    obtain ⟨reply', hrun', hsee'⟩ := missed _ hobject
    rw [run_cursorCall, run_cursorCall, hrun, hrun']
    simp only [ProceduralScript.sees, ObjectScript.seesCursor, CMySQLCursor.setError, World.onDll_dll, hsee,
      hsee', hprocedural.number, hobject.number]
    exact Alike.returned
      ⟨rfl, agree.connection, Or.inr ⟨hobject.of_cursors rfl, hprocedural.of_cursors rfl⟩⟩

/-- The number of rows, which both wrappers return as the DLL gives it. -/
theorem rows_alike (agree : SameIds w.dll s t) :
    Alike Agree (commandStep host turns ProceduralScript.perform .rows (s, w))
      (commandStep host turns ObjectScript.perform .rows (t, w)) :=
  cursorCall_alike agree .cursorRows (fun _ n => (true, .number n)) (true, .number 0)
    fun _ h => ⟨0, h.run_rows, rfl⟩

/-- A fetch, after which both wrappers read the error of the cursor. -/
theorem fetch_alike (agree : SameIds w.dll s t) :
    Alike Agree (commandStep host turns ProceduralScript.perform .fetch (s, w))
      (commandStep host turns ObjectScript.perform .fetch (t, w)) :=
  cursorCall_alike agree .cursorFetchRow (fun _ b => (b, .flag b)) (false, .flag false)
    fun _ h => ⟨false, h.run_fetch, rfl⟩

/-- Reading a field, after which both wrappers read the error of the cursor. -/
theorem fieldAsString_alike (agree : SameIds w.dll s t) (f : ℤ) :
    Alike Agree (commandStep host turns ProceduralScript.perform (.fieldAsString f) (s, w))
      (commandStep host turns ObjectScript.perform (.fieldAsString f) (t, w)) :=
  cursorCall_alike agree (.getRowField · (unsignedOfInt f)) (fun _ text => (true, .text text)) (true, .text [])
    fun _ h => ⟨[], h.run_field _, rfl⟩

/-- The ids agree as long as the cursor slots stay. -/
theorem SameIds.of_cursors {d d' : Dll} (agree : SameIds d s t) (cursors : d'.cursors = d.cursors) :
    SameIds d' s t where
  connection := agree.connection
  cursor := by
    rcases agree.cursor with hsame | ⟨hobject, hprocedural⟩
    · exact Or.inl hsame
    · exact Or.inr ⟨hobject.of_cursors cursors, hprocedural.of_cursors cursors⟩

/-- An execute; without a connection neither wrapper calls the DLL. -/
theorem execute_alike (agree : SameIds w.dll s t) (q : WStr) :
    Alike Agree (commandStep host turns ProceduralScript.perform (.execute q) (s, w))
      (commandStep host turns ObjectScript.perform (.execute q) (t, w)) := by
  simp only [commandStep, ProceduralScript.perform, ObjectScript.perform, Program.run_bind]
  have hsame := agree.connection
  by_cases hp : s.connection = -1
  · have hprocedural : Globals.mySqlExecute s.connection q = _ := if_pos hp
    have hobject : t.connection.execute q = _ := if_pos (hsame.trans hp)
    rw [hprocedural, hobject]
    exact Alike.returned ⟨rfl, hsame, agree.cursor⟩
  · rw [Globals.run_mySqlExecute hp, CMySQL.run_execute_eq (by rwa [hsame]), hsame]
    cases hcall : (cMySqlExecute host turns s.connection q).run w with
    | error fault => exact Alike.faulted fault
    | ok result =>
      obtain ⟨accepted, w'⟩ := result
      have hagree := agree.of_cursors (cMySqlExecute_outcome host hcall).cursors
      cases accepted with
      | true => exact Alike.returned ⟨rfl, hsame, hagree.cursor⟩
      | false => exact Alike.returned ⟨rfl, hsame, hagree.cursor⟩

/-- The number of rows affected, which neither wrapper checks. -/
theorem rowsAffected_alike (agree : SameIds w.dll s t) :
    Alike Agree (commandStep host turns ProceduralScript.perform .rowsAffected (s, w))
      (commandStep host turns ObjectScript.perform .rowsAffected (t, w)) := by
  simp only [commandStep, ProceduralScript.perform, ObjectScript.perform, Globals.mySqlRowsAffected,
    CMySQL.rowsAffected, Program.ask_bind, Program.run, dllStep, call, agree.connection]
  cases hcall : (cMySqlRowsAffected host s.connection).run w with
  | error fault => exact Alike.faulted fault
  | ok result =>
    obtain ⟨n, w'⟩ := result
    have hcursors : w'.dll.cursors = w.dll.cursors := by
      cases cMySqlRowsAffected_outcome host hcall with
      | noConnection => rfl
      | counted => rfl
    exact Alike.returned ⟨rfl, agree.of_cursors hcursors⟩

/-- A disconnect, after which neither script has a connection. -/
theorem disconnect_alike (agree : SameIds w.dll s t) :
    Alike Agree (commandStep host turns ProceduralScript.perform .disconnect (s, w))
      (commandStep host turns ObjectScript.perform .disconnect (t, w)) := by
  simp only [commandStep, ProceduralScript.perform, ObjectScript.perform, Program.run_bind]
  have hsame := agree.connection
  by_cases hp : s.connection = -1
  · have hprocedural : Globals.mySqlDisconnect s.connection = _ := if_pos hp
    have hobject : t.connection.disconnect = _ := if_pos (hsame.trans hp)
    rw [hprocedural, hobject]
    exact Alike.returned ⟨rfl, hsame, agree.cursor⟩
  · have hprocedural : Globals.mySqlDisconnect s.connection = _ := if_neg hp
    have hobject : t.connection.disconnect = _ := if_neg (by rwa [← hsame] at hp)
    rw [hprocedural, hobject]
    simp only [CMySQL.clearErrors, CMySQL.setError, Program.ask_bind, Program.run, dllStep, call, hsame]
    cases hcall : (cMySqlDisconnect host s.connection).run w with
    | error fault => exact Alike.faulted fault
    | ok result =>
      obtain ⟨_, w'⟩ := result
      have hagree := agree.of_cursors (cMySqlDisconnect_outcome host hcall).cursors
      exact Alike.returned ⟨rfl, rfl, hagree.cursor⟩

/-- An opening, of which one wrapper returns the id and the other whether it is one. -/
theorem cursorOpen_alike (agree : SameIds w.dll s t) (q : WStr) :
    Alike Agree (commandStep host turns ProceduralScript.perform (.cursorOpen q) (s, w))
      (commandStep host turns ObjectScript.perform (.cursorOpen q) (t, w)) := by
  obtain ⟨globals, p, cursor⟩ := s
  obtain ⟨⟨number, description, connectID, credentials⟩, object⟩ := t
  obtain rfl : connectID = p := agree.connection
  simp only [commandStep, ProceduralScript.perform, ObjectScript.perform, Globals.mySqlCursorOpen,
    CMySQLCursor.openOn, CMySQLCursor.clearErrors, CMySQLCursor.setError, Program.ask_bind, Program.call_bind,
    Program.run, dllStep, call]
  cases hcall : (cMySqlCursorOpen host connectID q).run w with
  | error fault => exact Alike.faulted fault
  | ok result =>
    obtain ⟨r, w'⟩ := result
    simp only [ok_bind]
    by_cases hr : r = -1
    · subst hr
      exact Alike.returned ⟨rfl, rfl, Or.inl rfl⟩
    · have hsuccess : decide (r ≠ -1) = true := decide_eq_true hr
      simp only [if_neg hr, Program.done_bind, Program.pure_eq, Program.run, hsuccess]
      exact Alike.returned ⟨rfl, rfl, Or.inl rfl⟩

/-- After a close the variable keeps its id. The object keeps it too, unless the slot has been shut. -/
theorem cursorClose_alike (agree : SameIds w.dll s t) :
    Alike Agree (commandStep host turns ProceduralScript.perform .cursorClose (s, w))
      (commandStep host turns ObjectScript.perform .cursorClose (t, w)) := by
  simp only [commandStep, ProceduralScript.perform, ObjectScript.perform, Program.run_bind,
    CMySQLCursor.run_close_eq, Globals.run_mySqlCursorClose]
  rcases agree.cursor with hsame | ⟨hobject, hprocedural⟩
  · rw [hsame]
    cases hcall : (cMySqlCursorClose host s.cursor).run w with
    | error fault => exact Alike.faulted fault
    | ok result =>
      obtain ⟨_, w'⟩ := result
      by_cases hzero : cGetCursorErrorNumber s.cursor w'.dll = 0
      · have hshut := (cMySqlCursorClose_outcome host hcall).shut hzero
        simp only [if_pos hzero]
        exact Alike.returned ⟨rfl, agree.connection, Or.inr ⟨Or.inl rfl, Or.inr hshut⟩⟩
      · simp only [if_neg hzero]
        exact Alike.returned ⟨rfl, agree.connection, Or.inl rfl⟩
  · have hnumber : ¬cGetCursorErrorNumber t.cursor.cursorID (w.onDll wrongCursor).dll = 0 := by
      rw [World.onDll_dll, hobject.number]
      decide
    rw [hobject.run_close, hprocedural.run_close]
    simp only [if_neg hnumber]
    simp only [ProceduralScript.sees, ObjectScript.seesCursor, World.onDll_dll, hprocedural.number,
      hobject.number]
    exact Alike.returned
      ⟨rfl, agree.connection, Or.inr ⟨hobject.of_cursors rfl, hprocedural.of_cursors rfl⟩⟩

/-- A connect by a script without a connection, with the query for UTF-8 behind it. -/
theorem connect_alike (agree : SameIds w.dll s t) (hp : s.connection = -1) (c : Credentials) :
    Alike Agree (commandStep host turns ProceduralScript.perform (.connect c) (s, w))
      (commandStep host turns ObjectScript.perform (.connect c) (t, w)) := by
  obtain ⟨⟨number, description, connectID, credentials⟩, cursor⟩ := t
  obtain rfl : connectID = -1 := agree.connection.trans hp
  have hobject := @CMySQL.run_connect_eq σ host turns w ⟨number, description, -1, some c⟩ c rfl (by simp)
  simp only [commandStep, ProceduralScript.perform, ObjectScript.perform,
    CMySQL.setCredentials, Program.run_bind, Globals.run_mySqlConnect, hobject]
  cases hcall : (cMySqlConnect host c).run w with
  | error fault => exact Alike.faulted fault
  | ok result =>
    obtain ⟨r, w'⟩ := result
    have hconnected := agree.of_cursors (cMySqlConnect_outcome host hcall).cursors
    by_cases hr : r = -1
    · subst hr
      exact Alike.returned ⟨rfl, rfl, hconnected.cursor⟩
    · simp only [if_neg hr]
      cases hnames : (cMySqlExecute host turns r (wide "SET NAMES UTF8")).run w' with
      | error fault => exact Alike.faulted fault
      | ok named =>
        obtain ⟨accepted, w''⟩ := named
        have hsuccess : decide (r ≠ -1) = true := decide_eq_true hr
        have hagree := hconnected.of_cursors (cMySqlExecute_outcome host hnames).cursors
        cases accepted with
        | true =>
          simp only [Program.pure_eq, Program.run, ok_bind, hsuccess]
          exact Alike.returned ⟨rfl, rfl, hagree.cursor⟩
        | false =>
          simp only [Program.pure_eq, Program.run, ok_bind, hsuccess]
          exact Alike.returned ⟨rfl, rfl, hagree.cursor⟩

/-- Every command keeps the ids the same. -/
theorem command_alike (command : Command) {s : ProceduralScript × World σ} {t : ObjectScript × World σ}
    (agree : Agree s t) (once : ConnectsOnce s command) :
    Alike Agree (commandStep host turns ProceduralScript.perform command s)
      (commandStep host turns ObjectScript.perform command t) := by
  obtain ⟨script, w⟩ := s
  obtain ⟨object, world⟩ := t
  obtain ⟨rfl, hids⟩ : w = world ∧ SameIds w.dll script object := agree
  cases command with
  | connect c => exact connect_alike hids once c
  | disconnect => exact disconnect_alike hids
  | execute q => exact execute_alike hids q
  | rowsAffected => exact rowsAffected_alike hids
  | cursorOpen q => exact cursorOpen_alike hids q
  | cursorClose => exact cursorClose_alike hids
  | rows => exact rows_alike hids
  | fetch => exact fetch_alike hids
  | fieldAsString f => exact fieldAsString_alike hids f

/-- The two scripts start without a connection and without a cursor. -/
theorem agree_start (w : World σ) : Agree (ProceduralScript.start, w) (ObjectScript.start, w) :=
  ⟨rfl, rfl, Or.inl rfl⟩

/-- A script which does not connect while it is connected sees the same from the procedures and from the
classes, whatever the DLL holds at first and whatever the library answers. -/
theorem wrappers_agree (host : Host σ) (turns : ℕ) (w : World σ) (commands : List Command)
    (once : Follows (commandStep host turns ProceduralScript.perform) ConnectsOnce commands
      (ProceduralScript.start, w)) :
    replies (commandStep host turns ProceduralScript.perform) commands (ProceduralScript.start, w) =
      replies (commandStep host turns ObjectScript.perform) commands (ObjectScript.start, w) := by
  apply replies_eq ?_ (agree_start w) once
  intro command s t agree allowed
  exact command_alike command agree allowed

/-- A session with a query, a cursor which is closed twice and read again, and a second connection. -/
def sampleSession : List Command :=
  [.connect .sample, .execute [68], .rowsAffected, .cursorOpen [83], .rows, .fetch, .cursorClose, .cursorClose,
    .fetch, .fieldAsString 0, .disconnect, .execute [68], .connect .sample, .cursorOpen [83]]

/-- The sample session sees the same from both wrappers. -/
theorem wrappers_agree_sample :
    replies (commandStep scriptedHost 8 ProceduralScript.perform) sampleSession
        (ProceduralScript.start, attach (Server.fresh [.ofDone, .ofDone, .ofResultSet])) =
      replies (commandStep scriptedHost 8 ObjectScript.perform) sampleSession
        (ObjectScript.start, attach (Server.fresh [.ofDone, .ofDone, .ofResultSet])) :=
  wrappers_agree scriptedHost 8 _ sampleSession (by decide +kernel)

end MqlMySql
