import MqlMySql.Model.Threads
import MqlMySql.Spec.Execute

/-!
# A call which is not disturbed

When a thread runs the program of an exported function while no other thread makes an access, it computes what the
function computes as one action. The program may load a variable more often than the action reads it, and so it may
ask for a column twice; apart from the record of the calls, the two end alike.
-/

namespace MqlMySql

open Library

variable {T σ α β : Type} [DecidableEq T] {host : Host σ} {t : T} {m : Option (T × ℕ)} {w : World σ}

/-- What a world shares, with the mutex in some state. -/
def World.shared (w : World σ) (m : Option (T × ℕ)) : Shared T σ := ⟨w.dll, w.library, m⟩

/-- The end of an action, seen from a thread. -/
def asShared (m : Option (T × ℕ)) : Except Fault (α × World σ) → Except Stuck (α × Shared T σ)
  | .ok (a, w) => .ok (a, w.shared m)
  | .error fault => .error (.fault fault)

/-- Alone, the program ends as the action does. -/
def Alone (host : Host σ) (t : T) (m : Option (T × ℕ)) (p : Code α) (act : Act σ α) : Prop :=
  ∀ w, p.run (accessStep host t) (w.shared m) = asShared m (act.run w)

/-- Sequences of programs end as sequences of actions do. -/
theorem Alone.bind {p : Code α} {act : Act σ α} {f : α → Code β} {g : α → Act σ β}
    (h : Alone host t m p act) (rest : ∀ a, Alone host t m (f a) (g a)) :
    Alone host t m (p >>= f) (act >>= g) := by
  intro w
  rw [Program.run_bind, h w, StateT.run_bind]
  cases act.run w with
  | error fault => rfl
  | ok x => exact rest x.1 x.2

/-- A program without accesses returns what the action returns. -/
theorem Alone.pure (a : α) : Alone host t m (Pure.pure a) (Pure.pure a) := fun _ => rfl

/-- A program which stops with a fault ends as the action which throws it. -/
theorem Alone.stop (fault : Fault) : Alone host t m (Code.stop fault : Code α) (throw fault) := fun _ => rfl

/-- Both take the same branch, since the condition depends on no access. -/
theorem Alone.ite {c : Prop} [Decidable c] {p q : Code α} {a b : Act σ α} (h : Alone host t m p a)
    (h' : Alone host t m q b) : Alone host t m (if c then p else q) (if c then a else b) := by
  split
  · exact h
  · exact h'

/-- The mutex is free again at the end. -/
theorem Alone.scopeLockMutex {p : Code α} {act : Act σ α} (h : Alone host t (some (t, 0)) p act) :
    Alone host t none (Code.scopeLockMutex p) act := by
  intro w
  have hp : p.run (accessStep host t) ⟨w.dll, w.library, some (t, 0)⟩ = asShared (some (t, 0)) (act.run w) := h w
  simp only [Code.scopeLockMutex, Program.ask_bind, Program.run, accessStep, World.shared, ok_bind,
    Program.run_bind, hp]
  cases act.run w with
  | error fault => rfl
  | ok x => simp [asShared, World.shared]

section Accesses

variable (s : Shared T σ)

/-- A load replies with the content of the variable and changes nothing. -/
@[simp] theorem run_load (c : Cell) (rest : c.Value → Code α) :
    (Program.call (.load c) rest).run (accessStep host t) s =
      (rest (s.dll.load c)).run (accessStep host t) s := rfl

/-- A store writes its variable, and the program continues from there. -/
@[simp] theorem run_store (c : Cell) (v : c.Value) (rest : Unit → Code α) :
    (Program.call (.store c v) rest).run (accessStep host t) s =
      (rest ()).run (accessStep host t) { s with dll := s.dll.store c v } := rfl

/-- A request to the library is answered by the host, and the program continues from the library's next state. -/
@[simp] theorem run_library (q : Request) (rest : q.Reply → Code α) :
    (Program.call (.library q) rest).run (accessStep host t) s =
      (rest (q.answer host s.library).1).run (accessStep host t)
        { s with library := (q.answer host s.library).2 } := rfl

/-- A load at the end of a program, where the reply is the result. -/
@[simp] theorem run_last_load (c : Cell) :
    (Code.load c).run (accessStep host t) s = .ok (s.dll.load c, s) := rfl

/-- A store at the end of a program. -/
@[simp] theorem run_last_store (c : Cell) (v : c.Value) :
    (Code.store c v).run (accessStep host t) s = .ok ((), { s with dll := s.dll.store c v }) := rfl

/-- A request at the end of a program, where the reply is the result. -/
@[simp] theorem run_last_library (q : Request) :
    (Code.library q).run (accessStep host t) s =
      .ok ((q.answer host s.library).1, { s with library := (q.answer host s.library).2 }) := rfl

end Accesses

section Helpers

variable (number : ℤ) (description : String) (s : Shared T σ)

/-- The two stores of the DLL-wide connection error are one update. -/
@[simp] theorem run_setMySqlError : (Code.setMySqlError number description).run (accessStep host t) s =
    .ok ((), { s with dll := s.dll.setMySqlError number description }) := rfl

/-- The two stores of the DLL-wide cursor error are one update. -/
@[simp] theorem run_setCursorError : (Code.setCursorError number description).run (accessStep host t) s =
    .ok ((), { s with dll := s.dll.setCursorError number description }) := rfl

/-- The two stores of a connection slot's error are one change of the slot. -/
@[simp] theorem run_setConnectionError (i : Fin maxConnections) :
    (Code.setConnectionError i number description).run (accessStep host t) s =
      .ok ((), { s with dll := s.dll.setConnectionError i number description }) := by
  simp [Code.setConnectionError, Dll.store, Dll.setConnectionError, Dll.setConnection]

/-- The two stores of a cursor slot's error are one change of the slot. -/
@[simp] theorem run_setSlotError (k : Fin maxCursors) :
    (Code.setSlotError k number description).run (accessStep host t) s =
      .ok ((), { s with dll := s.dll.setSlotError k number description }) := by
  simp [Code.setSlotError, Dll.store, Dll.setSlotError, Dll.setCursor]

/-- The answer to the connection number -1 is one update. -/
@[simp] theorem run_noConnection :
    Code.noConnection.run (accessStep host t) s = .ok ((), { s with dll := noConnection s.dll }) := rfl

/-- The answer to a cursor which is not open is one update. -/
@[simp] theorem run_wrongCursor :
    Code.wrongCursor.run (accessStep host t) s = .ok ((), { s with dll := wrongCursor s.dll }) := rfl

/-- Clearing the errors of a connection, whether its number is -1, out of range or a slot's. -/
@[simp] theorem run_clearErrors (p : ℤ) :
    (Code.clearErrors p).run (accessStep host t) s = .ok ((), { s with dll := clearErrors p s.dll }) := by
  by_cases hp : p = -1
  · simp [Code.clearErrors, clearErrors, hp]
  · simp only [Code.clearErrors, clearErrors, if_neg hp]
    cases slotIndex maxConnections p with
    | none => rfl
    | some i => simp

/-- Clearing the errors of a cursor, whether its number is -1, out of range or a slot's. -/
@[simp] theorem run_clearCursorErrors (p : ℤ) :
    (Code.clearCursorErrors p).run (accessStep host t) s =
      .ok ((), { s with dll := clearCursorErrors p s.dll }) := by
  by_cases hp : p = -1
  · simp [Code.clearCursorErrors, clearCursorErrors, hp]
  · simp only [Code.clearCursorErrors, clearCursorErrors, if_neg hp]
    cases slotIndex maxCursors p with
    | none => rfl
    | some k => simp

/-- Loading the ids one by one finds what the search finds. -/
theorem run_searchFree {n : ℕ} {loadId : Fin n → Code ℤ} (id : Fin n → ℤ) (s : Shared T σ)
    (h : ∀ i, (loadId i).run (accessStep host t) s = .ok (id i, s)) (start count : ℕ) :
    (Code.searchFree loadId start count).run (accessStep host t) s =
      .ok (searchSlot (fun i => decide (id i = -1)) start count, s) := by
  induction count generalizing start with
  | zero => rfl
  | succ count ih =>
    simp only [Code.searchFree, searchSlot]
    split
    · rename_i hstart
      simp only [Program.run_bind, h, ok_bind, decide_eq_true_eq]
      split
      · rfl
      · exact ih (start + 1)
    · rfl

/-- The search through the connection ids finds the first free slot and writes nothing. -/
@[simp] theorem run_getNewConnectionId :
    Code.getNewConnectionId.run (accessStep host t) s = .ok (getNewConnectionId s.dll, s) :=
  run_searchFree (fun i => (s.dll.connections i).id) s (fun _ => rfl) 0 maxConnections

/-- The search through the cursor ids finds the first free slot and writes nothing. -/
@[simp] theorem run_getNewCursorId :
    Code.getNewCursorId.run (accessStep host t) s = .ok (getNewCursorId s.dll, s) :=
  run_searchFree (fun k => (s.dll.cursors k).id) s (fun _ => rfl) 0 maxCursors

/-- Giving a connection slot back; a number out of range stores nothing. -/
@[simp] theorem run_deleteConnection (p : ℤ) :
    (Code.deleteConnection p).run (accessStep host t) s =
      .ok ((), { s with dll := deleteConnection p s.dll }) := by
  unfold Code.deleteConnection deleteConnection
  cases slotIndex maxConnections p <;> rfl

/-- Giving a cursor slot back; a number out of range stores nothing. -/
@[simp] theorem run_deleteCursor (p : ℤ) :
    (Code.deleteCursor p).run (accessStep host t) s = .ok ((), { s with dll := deleteCursor p s.dll }) := by
  unfold Code.deleteCursor deleteCursor
  cases slotIndex maxCursors p <;> rfl

/-- One load of the id decides whether the connection is live. -/
@[simp] theorem run_liveConnection (p : ℤ) :
    (Code.liveConnection p).run (accessStep host t) s = .ok (s.dll.liveConnection p, s) := by
  unfold Code.liveConnection Dll.liveConnection
  cases slotIndex maxConnections p with
  | none => rfl
  | some i =>
    by_cases hid : (s.dll.connections i).id = -1
    · simp [Dll.load, hid, Option.filter]
    · simp [Dll.load, hid, Option.filter]

/-- One load of the id decides whether the cursor is open. -/
@[simp] theorem run_openCursor (p : ℤ) :
    (Code.openCursor p).run (accessStep host t) s = .ok (s.dll.openCursor p, s) := by
  unfold Code.openCursor Dll.openCursor
  cases slotIndex maxCursors p with
  | none => rfl
  | some k =>
    by_cases hid : (s.dll.cursors k).id = -1
    · simp [Dll.load, hid, Option.filter]
    · simp [Dll.load, hid, Option.filter]

/-- Clearing the errors is the first step of the functions on connections. -/
theorem alone_clearErrors (p : ℤ) : Alone host t m (Code.clearErrors p) (modifyDll (clearErrors p)) :=
  fun w => run_clearErrors (w.shared m) p

/-- Clearing the errors is the first step of the functions on cursors. -/
theorem alone_clearCursorErrors (p : ℤ) :
    Alone host t m (Code.clearCursorErrors p) (modifyDll (clearCursorErrors p)) :=
  fun w => run_clearCursorErrors (w.shared m) p

/-- The refusal of the connection number -1. -/
theorem alone_noConnection : Alone host t m Code.noConnection (modifyDll noConnection) :=
  fun w => run_noConnection (w.shared m)

/-- Addressing a slot makes no access, and fails beyond the table on both sides. -/
theorem alone_connectionAt (p : ℤ) : Alone host t m (Code.connectionAt p) (connectionAt p) := by
  unfold Code.connectionAt connectionAt
  cases slotIndex maxConnections p with
  | none => exact Alone.stop _
  | some i => exact Alone.pure i

/-- A bounded copy makes no access: it fails or returns its text on both sides. -/
theorem alone_sprintfS (capacity size : ℕ) (text : List UInt8) :
    Alone host t m (Code.sprintfS capacity size text) (sprintfS capacity size text) :=
  Alone.ite (Alone.stop _) (Alone.ite (Alone.stop _) (Alone.pure text))

/-- The five copies of `cMySqlConnect` go one after the other, and the first which fails ends the call. -/
theorem alone_copyCredentials (c : Credentials) :
    Alone host t m (Code.copyCredentials host c) (copyCredentials host c) := by
  unfold Code.copyCredentials copyCredentials
  exact (alone_sprintfS _ _ _).bind fun _ => (alone_sprintfS _ _ _).bind fun _ =>
    (alone_sprintfS _ _ _).bind fun _ => (alone_sprintfS _ _ _).bind fun _ =>
      (alone_sprintfS _ _ _).bind fun _ => Alone.pure _

end Helpers

/-- Two changes of one slot are one. -/
@[simp] theorem Dll.setConnection_setConnection (d : Dll) (i : Fin maxConnections)
    (f g : Connection → Connection) :
    (d.setConnection i f).setConnection i g = d.setConnection i fun c => g (f c) := by
  simp [Dll.setConnection]

/-- Two changes of one cursor slot are one. -/
@[simp] theorem Dll.setCursor_setCursor (d : Dll) (k : Fin maxCursors) (f g : Cursor → Cursor) :
    (d.setCursor k f).setCursor k g = d.setCursor k fun c => g (f c) := by
  simp [Dll.setCursor]

section Connections

/-- The slot which the search found stays free until `cMySqlConnect` stores its id. -/
theorem alone_cMySqlConnect (c : Credentials) :
    Alone host t none (Code.cMySqlConnect host c) (cMySqlConnect host c) := by
  have hnew : Alone host t (some (t, 0)) Code.getNewConnectionId (readDll getNewConnectionId) :=
    fun w => run_getNewConnectionId (w.shared _)
  apply Alone.scopeLockMutex
  refine (alone_clearErrors (-1)).bind fun _ => hnew.bind fun cnn => ?_
  cases slotIndex maxConnections cnn with
  | none => exact fun w => rfl
  | some i =>
    refine (alone_copyCredentials c).bind fun request => ?_
    intro w
    cases hinit : (host.mysqlInit w.library).1 with
    | none => simp [Program.run_bind, World.shared, asShared, Request.answer, hinit]
    | some mysql =>
      by_cases hconnect : (host.mysqlRealConnect mysql request (host.mysqlInit w.library).2).1 = some mysql
      · simp [World.shared, asShared, Request.answer, hinit, hconnect, Dll.load, Dll.store]
      · simp [World.shared, asShared, Request.answer, hinit, hconnect, Dll.load, Dll.store,
          Dll.setMySqlError]

/-- `cMySqlDisconnect` closes the handle which the action closes, if the connection is live. -/
theorem alone_cMySqlDisconnect (p : ℤ) :
    Alone host t m (Code.cMySqlDisconnect p) (cMySqlDisconnect host p) := by
  intro w
  cases hp : (clearErrors p w.dll).liveConnection p with
  | none => simp [Code.cMySqlDisconnect, cMySqlDisconnect, hp, Program.run_bind, World.shared, asShared]
  | some i =>
    simp [Code.cMySqlDisconnect, cMySqlDisconnect, hp, Program.run_bind, World.shared, asShared,
      Request.answer, Dll.load]

/-- `MySqlExecute`, the part which the execute and the open share. -/
theorem alone_mySqlExecute (p : ℤ) (q : WStr) :
    Alone host t m (Code.mySqlExecute p q) (mySqlExecute host p q) := by
  unfold Code.mySqlExecute mySqlExecute
  refine (alone_clearErrors p).bind fun _ => Alone.ite (alone_noConnection.bind fun _ => Alone.pure false) <|
    Alone.ite ((alone_connectionAt p).bind fun i => ?_) fun w => rfl
  intro w
  by_cases positive : 0 < w.dll.mySqlErrorNumber
  · simp [World.shared, asShared, Request.answer, Dll.load, Dll.store, positive]
  · simp [World.shared, asShared, Request.answer, Dll.load, Dll.store, positive]

/-- One result is taken and released. -/
theorem run_taken (i : Fin maxConnections) (rest : Option MysqlRes → Code α) (w : World σ) :
    (do
      let rSet ← Code.library (.storeResult (← Code.load (.connectionHandle i)))
      if rSet.isSome then
        Code.library (.freeResult rSet)
      rest rSet).run (accessStep host t) (w.shared m) =
      (rest (host.mysqlStoreResult (w.handle i) w.library).1).run (accessStep host t)
        ((w.taken host (w.handle i)).shared m) := by
  have hload : w.dll.load (.connectionHandle i) = w.handle i := rfl
  by_cases hsome : (host.mysqlStoreResult (w.handle i) w.library).1.isSome
  · simp [World.shared, Request.answer, World.taken, hsome, hload]
  · simp [World.shared, Request.answer, World.taken, hsome, hload]

/-- The loop loads the handle again on every turn, and always finds the same. -/
theorem run_drainResults (i : Fin maxConnections) (turns : ℕ) (w : World σ) :
    (Code.drainResults i turns).run (accessStep host t) (w.shared m) =
      asShared m ((drainResults host (w.handle i) turns).run w) := by
  induction turns generalizing w with
  | zero => rfl
  | succ turns ih =>
    have hload : w.dll.load (.connectionHandle i) = w.handle i := rfl
    have hhandle : (w.taken host (w.handle i)).handle i = w.handle i := by simp [World.handle]
    have next := ih (((w.taken host (w.handle i)).inspected (.moreResults (w.handle i))).performed
      (host.mysqlNextResult (w.handle i)) fun _ => .nextResult (w.handle i))
    simp only [World.performed_handle, World.inspected_handle, hhandle] at next
    rw [run_drainResults_succ]
    refine (run_taken i (fun rSet => do
      if ← Code.library (.moreResults (← Code.load (.connectionHandle i))) then
        let status ← Code.library (.nextResult (← Code.load (.connectionHandle i)))
        if status = 0 then Code.drainResults i turns else return rSet
      else
        return rSet) w).trans ?_
    by_cases more : host.mysqlMoreResults (w.handle i) (w.taken host (w.handle i)).library
    · by_cases status : (host.mysqlNextResult (w.handle i) (w.taken host (w.handle i)).library).1 = 0
      · rw [if_pos more, if_pos status, ← next]
        simp [World.shared, Request.answer, more, status, hload]
      · rw [if_pos more, if_neg status]
        simp [World.shared, asShared, Request.answer, more, status, hload]
    · rw [if_neg more]
      simp [World.shared, asShared, Request.answer, more, hload]

/-- The results are drained as the action drains them, and the number is asked for afterwards. -/
theorem alone_cMySqlExecute (turns : ℕ) (p : ℤ) (q : WStr) :
    Alone host t m (Code.cMySqlExecute turns p q) (cMySqlExecute host turns p q) := by
  unfold Code.cMySqlExecute cMySqlExecute
  refine (alone_clearErrors p).bind fun _ => Alone.ite (alone_noConnection.bind fun _ => Alone.pure false) <|
    (alone_mySqlExecute p q).bind fun accepted =>
      Alone.ite ((alone_connectionAt p).bind fun i => ?_) (Alone.pure false)
  intro w
  have drained : (Code.drainResults i turns).run (accessStep host t)
      ⟨w.dll, (host.mysqlUseResult (w.dll.connections i).connection w.library).2, m⟩ =
      asShared m ((drainResults host (w.dll.connections i).connection turns).run
        (w.performed (host.mysqlUseResult (w.dll.connections i).connection)
          (.useResult (w.dll.connections i).connection))) := run_drainResults i turns (w.used host i)
  simp only [Program.ask_bind, run_load, run_library, StateT.run_bind, run_readDll, run_perform, ok_bind,
    Program.run_bind, World.shared, Request.answer, Dll.load]
  rw [drained]
  cases hdrained : (drainResults host (w.dll.connections i).connection turns).run
      (w.performed (host.mysqlUseResult (w.dll.connections i).connection)
        (.useResult (w.dll.connections i).connection)) with
  | error fault => rfl
  | ok x =>
    obtain ⟨rSet, w₂⟩ := x
    have hdll : w₂.dll = w.dll := by simpa using drainResults_dll host hdrained
    by_cases positive : 0 < host.mysqlErrno (w.dll.connections i).connection w₂.library
    · simp [asShared, World.shared, Request.answer, hdll, positive, Dll.load, Dll.store,
        Dll.setConnectionError]
    · simp [asShared, World.shared, Request.answer, hdll, positive]

/-- `cMySqlRowsAffected` addresses the slot without a look at its id. -/
theorem alone_cMySqlRowsAffected (p : ℤ) :
    Alone host t m (Code.cMySqlRowsAffected p) (cMySqlRowsAffected host p) := by
  unfold Code.cMySqlRowsAffected cMySqlRowsAffected
  exact Alone.ite (alone_noConnection.bind fun _ => Alone.pure 0)
    ((alone_connectionAt p).bind fun i w => rfl)

end Connections

section Cursors

/-- The first half of `cMySqlCursorOpen`: the query is sent and its result stored in the slot. -/
theorem alone_storeRecordSet (k : Fin maxCursors) (p : ℤ) (q : WStr) :
    Alone host t m (Code.storeRecordSet k p q) (storeRecordSet host k p q) := by
  unfold Code.storeRecordSet storeRecordSet
  have hclear : Alone host t m (Code.store (.recordSet k) none)
      (modifyDll fun d => d.setCursor k fun c => { c with recordSet := none }) := fun w => rfl
  exact hclear.bind fun _ => (alone_mySqlExecute p q).bind fun accepted =>
    Alone.ite ((alone_connectionAt p).bind fun i w => rfl) (Alone.pure ())

/-- The second half of `cMySqlCursorOpen`: the slot is given, or the error is kept. -/
theorem alone_concludeOpen (k : Fin maxCursors) (p : ℤ) :
    Alone host t m (Code.concludeOpen k p) (concludeOpen host k p) := by
  intro w
  by_cases hsome : (w.dll.cursors k).recordSet.isSome
  · simp [Code.concludeOpen, concludeOpen, World.shared, asShared, Dll.load, Dll.store, hsome]
  · cases hi : slotIndex maxConnections p with
    | none =>
      simp [Code.concludeOpen, concludeOpen, World.shared, asShared, Dll.load, hsome, Code.connectionAt,
        connectionAt, hi, Code.stop, Program.run, accessStep]
    | some i =>
      by_cases positive : 0 < host.mysqlErrno (w.dll.connections i).connection w.library
      · simp [Code.concludeOpen, concludeOpen, World.shared, asShared, Dll.load, Dll.store, hsome,
          Code.connectionAt, connectionAt, hi, Request.answer, positive, Program.run_bind]
      · simp [Code.concludeOpen, concludeOpen, World.shared, asShared, Dll.load, Dll.store, hsome,
          Code.connectionAt, connectionAt, hi, Request.answer, positive]

/-- The two halves of `cMySqlCursorOpen` follow the search, inside the mutex. -/
theorem alone_cMySqlCursorOpen (p : ℤ) (q : WStr) :
    Alone host t none (Code.cMySqlCursorOpen p q) (cMySqlCursorOpen host p q) := by
  have hnew : Alone host t (some (t, 0)) Code.getNewCursorId (readDll getNewCursorId) :=
    fun w => run_getNewCursorId (w.shared _)
  apply Alone.scopeLockMutex
  unfold cMySqlCursorOpen
  refine (alone_clearErrors p).bind fun _ => (alone_clearCursorErrors (-1)).bind fun _ =>
    Alone.ite (alone_noConnection.bind fun _ => Alone.pure (-1)) (hnew.bind fun cur => ?_)
  cases slotIndex maxCursors cur with
  | none =>
    refine (alone_connectionAt p).bind fun i w => ?_
    simp [World.shared, asShared, Program.run_bind]
  | some k => exact (alone_storeRecordSet k p q).bind fun _ => alone_concludeOpen k p

/-- `cMySqlCursorClose` frees the result which the action frees, if the cursor is open. -/
theorem alone_cMySqlCursorClose (p : ℤ) :
    Alone host t none (Code.cMySqlCursorClose p) (cMySqlCursorClose host p) := by
  apply Alone.scopeLockMutex
  intro w
  cases hp : (clearCursorErrors p w.dll).openCursor p with
  | none => simp [cMySqlCursorClose, hp, Program.run_bind, World.shared, asShared]
  | some k => simp [cMySqlCursorClose, hp, Program.run_bind, World.shared, asShared, Request.answer, Dll.load]

/-- `cMySqlCursorRows` asks for the rows of the stored result, if the cursor is open. -/
theorem alone_cMySqlCursorRows (p : ℤ) :
    Alone host t m (Code.cMySqlCursorRows p) (cMySqlCursorRows host p) := by
  intro w
  cases hp : (clearCursorErrors p w.dll).openCursor p with
  | none => simp [Code.cMySqlCursorRows, cMySqlCursorRows, hp, Program.run_bind, World.shared, asShared]
  | some k =>
    simp [Code.cMySqlCursorRows, cMySqlCursorRows, hp, Program.run_bind, World.shared, asShared,
      Request.answer, Dll.load]

/-- After the last row `cMySqlCursorFetchRow` asks for the number of the cursor's connection. -/
theorem alone_cMySqlCursorFetchRow (p : ℤ) :
    Alone host t m (Code.cMySqlCursorFetchRow p) (cMySqlCursorFetchRow host p) := by
  have hopen : Alone host t m (Code.openCursor p) (readDll (·.openCursor p)) :=
    fun w => run_openCursor (w.shared m) p
  unfold Code.cMySqlCursorFetchRow cMySqlCursorFetchRow
  refine (alone_clearCursorErrors p).bind fun _ => hopen.bind fun slot => ?_
  cases slot with
  | none => exact fun w => rfl
  | some k =>
    intro w
    by_cases hnone : (host.mysqlFetchRow (w.dll.cursors k).recordSet w.library).1 = none
    · cases hi : slotIndex maxConnections (w.dll.cursors k).connection with
      | none =>
        simp [World.shared, asShared, Request.answer, Dll.load, Dll.store, hnone, Code.connectionAt,
          connectionAt, hi, Code.stop, Program.run, accessStep]
      | some i =>
        simp [World.shared, asShared, Request.answer, Dll.load, Dll.store, hnone, Code.connectionAt,
          connectionAt, hi, Dll.setSlotError]
    · simp [World.shared, asShared, Request.answer, Dll.load, Dll.store, hnone]

/-- A column of the row which the slot holds. -/
theorem run_currentField (k : Fin maxCursors) (pField : ℕ) (s : Shared T σ) :
    (Code.currentField k pField).run (accessStep host t) s =
      match (s.dll.cursors k).currentRow with
      | none => .error (.fault .nullRow)
      | some row => .ok (host.rowField row pField s.library, s) := by
  unfold Code.currentField
  rw [Program.ask_bind, run_load]
  cases hrow : (s.dll.cursors k).currentRow with
  | none => simp [Dll.load, hrow, Code.stop, Program.run, accessStep]
  | some row =>
    simp only [Dll.load, hrow]
    rfl

/-- What `cMySqlGetRowField` returns is loaded when the mutex is free again. -/
theorem alone_cMySqlGetRowField (p : ℤ) (pField : ℕ) :
    Alone host t none (Code.cMySqlGetRowField p pField) (cMySqlGetRowField host p pField) := by
  intro w
  unfold Code.cMySqlGetRowField cMySqlGetRowField Code.scopeLockMutex Code.measuredField
  cases hp : w.dll.openCursor p with
  | none => simp [hp, World.shared, asShared, Program.run_bind, accessStep, Program.run]
  | some k =>
    by_cases hfield : pField < host.mysqlNumFields ((clearCursorErrors p w.dll).cursors k).recordSet w.library
    · cases hrow : ((clearCursorErrors p w.dll).cursors k).currentRow with
      | none =>
        simp [run_currentField, hp, World.shared, asShared, Program.run_bind, accessStep, Program.run, hfield,
          hrow, Request.answer, Dll.load, Dll.store]
      | some row =>
        by_cases hfits : (multiByteToWideChar (host.rowField row pField w.library)).length ≤ maxFieldValue
        · simp [run_currentField, hp, World.shared, asShared, Program.run_bind, accessStep, Program.run,
            hfield, hrow, Request.answer, Dll.load, Dll.store, hfits]
          rw [run_last_load]
          simp [Dll.load]
        · simp [run_currentField, hp, World.shared, asShared, Program.run_bind, accessStep, Program.run,
            hfield, hrow, Request.answer, Dll.load, Dll.store, hfits]
    · simp [hp, World.shared, asShared, Program.run_bind, accessStep, Program.run, hfield, Request.answer,
        Dll.load]

end Cursors

section Getters

/-- The number is the slot's on a live connection and the DLL-wide one otherwise. -/
theorem alone_cGetMySqlErrorNumber (p : ℤ) :
    Alone host t m (Code.cGetMySqlErrorNumber p) (readDll (cGetMySqlErrorNumber p)) := by
  intro w
  simp only [Code.cGetMySqlErrorNumber, cGetMySqlErrorNumber, Program.run_bind, run_liveConnection, ok_bind,
    run_readDll, World.shared]
  cases w.dll.liveConnection p <;> rfl

/-- The text is the slot's on a live connection and the DLL-wide one otherwise. -/
theorem alone_cGetMySqlErrorDescription (p : ℤ) :
    Alone host t m (Code.cGetMySqlErrorDescription p) (readDll (cGetMySqlErrorDescription p)) := by
  intro w
  simp only [Code.cGetMySqlErrorDescription, cGetMySqlErrorDescription, Program.run_bind, run_liveConnection, ok_bind,
    run_readDll, World.shared]
  cases w.dll.liveConnection p <;> rfl

/-- The number is the slot's on an open cursor and the DLL-wide one otherwise. -/
theorem alone_cGetCursorErrorNumber (p : ℤ) :
    Alone host t m (Code.cGetCursorErrorNumber p) (readDll (cGetCursorErrorNumber p)) := by
  intro w
  simp only [Code.cGetCursorErrorNumber, cGetCursorErrorNumber, Program.run_bind, run_openCursor, ok_bind,
    run_readDll, World.shared]
  cases w.dll.openCursor p <;> rfl

/-- The text is the slot's on an open cursor and the DLL-wide one otherwise. -/
theorem alone_cGetCursorErrorDescription (p : ℤ) :
    Alone host t m (Code.cGetCursorErrorDescription p) (readDll (cGetCursorErrorDescription p)) := by
  intro w
  simp only [Code.cGetCursorErrorDescription, cGetCursorErrorDescription, Program.run_bind, run_openCursor, ok_bind,
    run_readDll, World.shared]
  cases w.dll.openCursor p <;> rfl

end Getters

/-- A call which is not disturbed ends as its action does. -/
theorem code_alone (turns : ℕ) (e : Exported) : Alone host t none (code host turns e) (call host turns e) := by
  cases e with
  | connect c => exact alone_cMySqlConnect c
  | disconnect p => exact alone_cMySqlDisconnect p
  | execute p q => exact alone_cMySqlExecute turns p q
  | cursorOpen p q => exact alone_cMySqlCursorOpen p q
  | cursorClose p => exact alone_cMySqlCursorClose p
  | cursorRows p => exact alone_cMySqlCursorRows p
  | cursorFetchRow p => exact alone_cMySqlCursorFetchRow p
  | getRowField p pField => exact alone_cMySqlGetRowField p pField
  | rowsAffected p => exact alone_cMySqlRowsAffected p
  | getMySqlErrorNumber p => exact alone_cGetMySqlErrorNumber p
  | getMySqlErrorDescription p => exact alone_cGetMySqlErrorDescription p
  | getCursorErrorNumber p => exact alone_cGetCursorErrorNumber p
  | getCursorErrorDescription p => exact alone_cGetCursorErrorDescription p

end MqlMySql
