import MqlMySql.Library.Pool
import MqlMySql.Model.ConnectionCalls

/-!
# Single accesses of a thread

Every program in a terminal has a thread of its own, and all of them call the same DLL. Seen at this grain, an
exported function is a sequence of accesses: it loads or stores one global variable, calls one function outside the
DLL, or takes or releases the mutex `g_mutex`. Writing an error text counts as one store.

A Windows mutex may be taken again by the thread which owns it, and has to be released as often.
-/

namespace MqlMySql

open Library

/-- The global variables of the DLL, each read or written at once. -/
inductive Cell
  | mySqlErrorNumber
  | mySqlErrorDescription
  | cursorErrorNumber
  | cursorErrorDescription
  | connectionId (i : Fin maxConnections)
  | connectionHandle (i : Fin maxConnections)
  | connectionNumber (i : Fin maxConnections)
  | connectionDescription (i : Fin maxConnections)
  | cursorId (k : Fin maxCursors)
  | cursorConnection (k : Fin maxCursors)
  | recordSet (k : Fin maxCursors)
  | currentRow (k : Fin maxCursors)
  | value (k : Fin maxCursors)
  | cursorNumber (k : Fin maxCursors)
  | cursorDescription (k : Fin maxCursors)
deriving DecidableEq

/-- The type of a variable. -/
abbrev Cell.Value : Cell → Type
  | .mySqlErrorNumber | .cursorErrorNumber => ℤ
  | .mySqlErrorDescription | .cursorErrorDescription => String
  | .connectionId _ | .connectionNumber _ | .cursorId _ | .cursorConnection _ | .cursorNumber _ => ℤ
  | .connectionDescription _ | .cursorDescription _ => String
  | .connectionHandle _ => Option Mysql
  | .recordSet _ => Option MysqlRes
  | .currentRow _ => Option MysqlRow
  | .value _ => WStr

namespace Dll

variable (d : Dll)

/-- What a variable holds. -/
def load : (c : Cell) → c.Value
  | .mySqlErrorNumber => d.mySqlErrorNumber
  | .mySqlErrorDescription => d.mySqlErrorDescription
  | .cursorErrorNumber => d.cursorErrorNumber
  | .cursorErrorDescription => d.cursorErrorDescription
  | .connectionId i => (d.connections i).id
  | .connectionHandle i => (d.connections i).connection
  | .connectionNumber i => (d.connections i).mySqlErrorNumber
  | .connectionDescription i => (d.connections i).mySqlErrorDescription
  | .cursorId k => (d.cursors k).id
  | .cursorConnection k => (d.cursors k).connection
  | .recordSet k => (d.cursors k).recordSet
  | .currentRow k => (d.cursors k).currentRow
  | .value k => (d.cursors k).value
  | .cursorNumber k => (d.cursors k).cursorErrorNumber
  | .cursorDescription k => (d.cursors k).cursorErrorDescription

/-- Write a variable. -/
def store : (c : Cell) → c.Value → Dll
  | .mySqlErrorNumber, v => { d with mySqlErrorNumber := v }
  | .mySqlErrorDescription, v => { d with mySqlErrorDescription := v }
  | .cursorErrorNumber, v => { d with cursorErrorNumber := v }
  | .cursorErrorDescription, v => { d with cursorErrorDescription := v }
  | .connectionId i, v => d.setConnection i fun slot => { slot with id := v }
  | .connectionHandle i, v => d.setConnection i fun slot => { slot with connection := v }
  | .connectionNumber i, v => d.setConnection i fun slot => { slot with mySqlErrorNumber := v }
  | .connectionDescription i, v => d.setConnection i fun slot => { slot with mySqlErrorDescription := v }
  | .cursorId k, v => d.setCursor k fun slot => { slot with id := v }
  | .cursorConnection k, v => d.setCursor k fun slot => { slot with connection := v }
  | .recordSet k, v => d.setCursor k fun slot => { slot with recordSet := v }
  | .currentRow k, v => d.setCursor k fun slot => { slot with currentRow := v }
  | .value k, v => d.setCursor k fun slot => { slot with value := v }
  | .cursorNumber k, v => d.setCursor k fun slot => { slot with cursorErrorNumber := v }
  | .cursorDescription k, v => d.setCursor k fun slot => { slot with cursorErrorDescription := v }

@[simp] theorem load_store_self (c : Cell) (v : c.Value) : (d.store c v).load c = v := by
  cases c <;> simp [load, store]

theorem load_store_of_ne {c c' : Cell} (h : c' ≠ c) (v : c.Value) : (d.store c v).load c' = d.load c' := by
  cases c <;> cases c' <;> simp only [load, store, setConnection, setCursor, Function.update_apply] <;>
    first
    | rfl
    | exact absurd rfl h
    | split <;> simp_all

end Dll

/-- The functions outside the DLL, with their arguments. -/
inductive Request
  | init
  | realConnect (mysql : Mysql) (request : ConnectRequest)
  | close (mysql : Option Mysql)
  | realQuery (mysql : Option Mysql) (query : List UInt8) (length : ℕ)
  | errno (mysql : Option Mysql)
  | error (mysql : Option Mysql)
  | useResult (mysql : Option Mysql)
  | storeResult (mysql : Option Mysql)
  | moreResults (mysql : Option Mysql)
  | nextResult (mysql : Option Mysql)
  | affectedRows (mysql : Option Mysql)
  | freeResult (res : Option MysqlRes)
  | numRows (res : Option MysqlRes)
  | numFields (res : Option MysqlRes)
  | fetchRow (res : Option MysqlRes)
  | rowField (row : MysqlRow) (column : ℕ)
deriving DecidableEq

/-- What a function returns. -/
abbrev Request.Reply : Request → Type
  | .init | .realConnect _ _ => Option Mysql
  | .close _ | .freeResult _ => Unit
  | .realQuery _ _ _ | .nextResult _ => ℤ
  | .errno _ | .affectedRows _ | .numRows _ | .numFields _ => ℕ
  | .error _ => String
  | .useResult _ | .storeResult _ => Option MysqlRes
  | .moreResults _ => Bool
  | .fetchRow _ => Option MysqlRow
  | .rowField _ _ => Option (List UInt8)

/-- The answer of a function, and the state of the library afterwards. -/
def Request.answer {σ : Type} (host : Host σ) : (q : Request) → σ → q.Reply × σ
  | .init, s => host.mysqlInit s
  | .realConnect mysql request, s => host.mysqlRealConnect mysql request s
  | .close mysql, s => ((), host.mysqlClose mysql s)
  | .realQuery mysql query length, s => host.mysqlRealQuery mysql query length s
  | .errno mysql, s => (host.mysqlErrno mysql s, s)
  | .error mysql, s => (host.mysqlError mysql s, s)
  | .useResult mysql, s => host.mysqlUseResult mysql s
  | .storeResult mysql, s => host.mysqlStoreResult mysql s
  | .moreResults mysql, s => (host.mysqlMoreResults mysql s, s)
  | .nextResult mysql, s => host.mysqlNextResult mysql s
  | .affectedRows mysql, s => (host.mysqlAffectedRows mysql s, s)
  | .freeResult res, s => ((), host.mysqlFreeResult res s)
  | .numRows res, s => (host.mysqlNumRows res s, s)
  | .numFields res, s => (host.mysqlNumFields res s, s)
  | .fetchRow res, s => host.mysqlFetchRow res s
  | .rowField row column, s => (host.rowField row column s, s)

/-- One access of a thread. -/
inductive Access
  | lock
  | unlock
  | load (c : Cell)
  | store (c : Cell) (v : c.Value)
  | library (q : Request)
  /-- The process does not come back from here. -/
  | fail (fault : Fault)

/-- What an access returns. -/
abbrev Access.Reply : Access → Type
  | .lock | .unlock | .store _ _ => Unit
  | .load c => c.Value
  | .library q => q.Reply
  | .fail _ => Empty

/-- What all threads share. The mutex is free, or owned by a thread which has taken it that often again. -/
structure Shared (T σ : Type) where
  dll : Dll
  library : σ
  mutex : Option (T × ℕ)

/-- Why an access is not made. -/
inductive Stuck
  /-- Another thread owns the mutex. -/
  | waits
  /-- `ReleaseMutex` fails, and with it the assertion in `~CMutexLock`. -/
  | notOwner
  | fault (fault : Fault)

variable {T σ : Type} [DecidableEq T]

/-- One access to what is shared. -/
def accessStep (host : Host σ) (t : T) : (a : Access) → Shared T σ → Except Stuck (a.Reply × Shared T σ)
  | .lock, s =>
    match s.mutex with
    | none => .ok ((), { s with mutex := some (t, 0) })
    | some (owner, again) =>
      if owner = t then .ok ((), { s with mutex := some (t, again + 1) }) else .error .waits
  | .unlock, s =>
    match s.mutex with
    | none => .error .notOwner
    | some (owner, 0) => if owner = t then .ok ((), { s with mutex := none }) else .error .notOwner
    | some (owner, again + 1) =>
      if owner = t then .ok ((), { s with mutex := some (t, again) }) else .error .notOwner
  | .load c, s => .ok (s.dll.load c, s)
  | .store c v, s => .ok ((), { s with dll := s.dll.store c v })
  | .library q, s => .ok ((q.answer host s.library).1, { s with library := (q.answer host s.library).2 })
  | .fail fault, _ => .error (.fault fault)

end MqlMySql
