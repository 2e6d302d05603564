import MqlMySql.Model.Accesses
import MqlMySql.Model.Exported

/-!
# The exported functions as programs of accesses

The functions of `MQLMySQL.cpp` once more, access by access: every mention of a global variable is a load or a
store of its own, in the order of the source. Of the functions modelled here `SCOPE_LOCK_MUTEX` stands in
`cMySqlConnect`, `cMySqlCursorOpen`, `cMySqlCursorClose` and `cMySqlGetRowField`; `cMySqlDisconnect`, `cMySqlExecute`,
`cMySqlCursorRows`, `cMySqlCursorFetchRow`, `cMySqlRowsAffected` and the getters run without it.

A text which is returned is a pointer into the tables: the terminal copies it when the function has returned.
-/

namespace MqlMySql

open Library

/-- Programs of accesses. -/
abbrev Code : Type → Type := Program Access Access.Reply

namespace Code

variable {α : Type}

/-- Load a variable. -/
abbrev load (c : Cell) : Code c.Value := Program.ask (Access.load c)

/-- Store a variable. -/
abbrev store (c : Cell) (v : c.Value) : Code Unit := Program.ask (Access.store c v)

/-- Call a function outside the DLL. -/
abbrev library (q : Request) : Code q.Reply := Program.ask (Access.library q)

/-- The process does not come back from here. -/
def stop (fault : Fault) : Code α := .call (.fail fault) nofun

/-- `SCOPE_LOCK_MUTEX`: the mutex is released when the block is left. -/
def scopeLockMutex (block : Code α) : Code α := do
  Program.ask Access.lock
  let result ← block
  Program.ask Access.unlock
  return result

/-- Write the DLL-wide connection error. -/
def setMySqlError (number : ℤ) (description : String) : Code Unit := do
  store .mySqlErrorNumber number
  store .mySqlErrorDescription description

/-- Write the DLL-wide cursor error. -/
def setCursorError (number : ℤ) (description : String) : Code Unit := do
  store .cursorErrorNumber number
  store .cursorErrorDescription description

/-- Write the error of one connection slot. -/
def setConnectionError (i : Fin maxConnections) (number : ℤ) (description : String) : Code Unit := do
  store (.connectionNumber i) number
  store (.connectionDescription i) description

/-- Write the error of one cursor slot. -/
def setSlotError (k : Fin maxCursors) (number : ℤ) (description : String) : Code Unit := do
  store (.cursorNumber k) number
  store (.cursorDescription k) description

/-- Write error `-2` to the DLL-wide connection cell. -/
def noConnection : Code Unit := setMySqlError (-2) "No connection to the database."

/-- Write error `-5` to the DLL-wide cursor cell. -/
def wrongCursor : Code Unit := setCursorError (-5) "Wrong CURSOR identifier."

/-- `ClearErrors`. -/
def clearErrors (pId : ℤ) : Code Unit :=
  if pId = -1 then setMySqlError 0 "No errors."
  else match slotIndex maxConnections pId with
    | some i => setConnectionError i 0 "No errors."
    | none => return ()

/-- `ClearCursorErrors`. -/
def clearCursorErrors (pId : ℤ) : Code Unit :=
  if pId = -1 then setCursorError 0 "No errors."
  else match slotIndex maxCursors pId with
    | some k => setSlotError k 0 "No errors."
    | none => return ()

/-- Load the ids of the slots from `start` upwards until one is `-1`, for at most `count` turns. -/
def searchFree {n : ℕ} (loadId : Fin n → Code ℤ) (start : ℕ) : ℕ → Code ℤ
  | 0 => return -1
  | count + 1 =>
    if h : start < n then do
      if (← loadId ⟨start, h⟩) = -1 then return start else searchFree loadId (start + 1) count
    else return -1

/-- `GetNewConnectionId`. -/
def getNewConnectionId : Code ℤ := searchFree (fun i => load (.connectionId i)) 0 maxConnections

/-- `GetNewCursorId`. -/
def getNewCursorId : Code ℤ := searchFree (fun k => load (.cursorId k)) 0 maxCursors

/-- `DeleteConnection`. -/
def deleteConnection (pId : ℤ) : Code Unit :=
  match slotIndex maxConnections pId with
  | some i => store (.connectionId i) (-1)
  | none => return ()

/-- `DeleteCursor`. -/
def deleteCursor (pId : ℤ) : Code Unit :=
  match slotIndex maxCursors pId with
  | some k => store (.cursorId k) (-1)
  | none => return ()

/-- The checks of an id against the table of connections. -/
def liveConnection (pConnection : ℤ) : Code (Option (Fin maxConnections)) :=
  match slotIndex maxConnections pConnection with
  | some i => do
    if (← load (.connectionId i)) = -1 then return none else return some i
  | none => return none

/-- The checks of an id against the table of cursors. -/
def openCursor (pCursor : ℤ) : Code (Option (Fin maxCursors)) :=
  match slotIndex maxCursors pCursor with
  | some k => do
    if (← load (.cursorId k)) = -1 then return none else return some k
  | none => return none

/-- The slot which an index expression on `Connections` denotes. -/
def connectionAt (pConnection : ℤ) : Code (Fin maxConnections) :=
  match slotIndex maxConnections pConnection with
  | some i => return i
  | none => stop .indexOutOfBounds

/-- `sprintf_s` into a local buffer. -/
def sprintfS (capacity size : ℕ) (text : List UInt8) : Code (List UInt8) :=
  if capacity < min size (text.length + 1) then stop .bufferOverrun
  else if size < text.length + 1 then stop .invalidParameter
  else return text

variable {σ : Type} (host : Host σ)

/-- The five copies of `cMySqlConnect`. -/
def copyCredentials (c : Credentials) : Code ConnectRequest := do
  let xHost ← sprintfS 1024 (c.pHost.length + 1) (host.wcstombs c.pHost)
  let xUser ← sprintfS 32 (c.pUser.length + 1) (host.wcstombs c.pUser)
  let xPassword ← sprintfS 32 (c.pPassword.length + 1) (host.wcstombs c.pPassword)
  let xDatabase ← sprintfS 32 (c.pDatabase.length + 1) (host.wcstombs c.pDatabase)
  let xSocket ← sprintfS 64 (c.pSocket.length + 1) (host.wcstombs c.pSocket)
  return ⟨xHost, xUser, xPassword, xDatabase, c.pPort, xSocket, c.pClientFlag⟩

/-- `cMySqlConnect`. -/
def cMySqlConnect (c : Credentials) : Code ℤ := scopeLockMutex do
  clearErrors (-1)
  let cnn ← getNewConnectionId
  match slotIndex maxConnections cnn with
  | none =>
    setMySqlError (-3) "Maximum connections exceeded."
    return -1
  | some i =>
    let request ← copyCredentials host c
    match ← library .init with
    | none =>
      setMySqlError (-1) "Cannot allocate memory for connection."
      return -1
    | some mysql =>
      store (.connectionHandle i) (← library (.realConnect mysql request))
      if (← load (.connectionHandle i)) ≠ some mysql then
        let errno ← library (.errno (some mysql))
        store .mySqlErrorNumber (errno : ℤ)
        store .mySqlErrorDescription (← library (.error (some mysql)))
        return -1
      else
        store (.connectionId i) cnn
        return cnn

/-- `cMySqlDisconnect`. -/
def cMySqlDisconnect (pConnection : ℤ) : Code Unit := do
  clearErrors pConnection
  match ← liveConnection pConnection with
  | none => noConnection
  | some i =>
    library (.close (← load (.connectionHandle i)))
    deleteConnection pConnection

/-- `MySqlExecute`. -/
def mySqlExecute (pConnection : ℤ) (pQuery : WStr) : Code Bool := do
  clearErrors pConnection
  if pConnection = -1 then
    noConnection
    return false
  else if (wideCharToMultiByte pQuery).length < maxQuerySize then
    let query := cString (wideCharToMultiByte pQuery)
    let i ← connectionAt pConnection
    let _ ← library (.realQuery (← load (.connectionHandle i)) query query.length)
    let errno ← library (.errno (← load (.connectionHandle i)))
    store (.connectionNumber i) (errno : ℤ)
    if 0 < (← load .mySqlErrorNumber) then
      store (.connectionDescription i) (← library (.error (← load (.connectionHandle i))))
      return false
    else
      return true
  else
    setMySqlError (-6) "Query is too big"
    return false

/-- The loop of `cMySqlExecute`, with a bound on its turns. -/
def drainResults (i : Fin maxConnections) : ℕ → Code (Option MysqlRes)
  | 0 => stop .stillRunning
  | turns + 1 => do
    let rSet ← library (.storeResult (← load (.connectionHandle i)))
    if rSet.isSome then
      library (.freeResult rSet)
    if ← library (.moreResults (← load (.connectionHandle i))) then
      let status ← library (.nextResult (← load (.connectionHandle i)))
      if status = 0 then drainResults i turns else return rSet
    else
      return rSet

/-- `cMySqlExecute`, with a bound on the turns of its loop. -/
def cMySqlExecute (turns : ℕ) (pConnection : ℤ) (pQuery : WStr) : Code Bool := do
  clearErrors pConnection
  if pConnection = -1 then
    noConnection
    return false
  else if ← mySqlExecute pConnection pQuery then
    let i ← connectionAt pConnection
    let _ ← library (.useResult (← load (.connectionHandle i)))
    let rSet ← drainResults i turns
    let err ← library (.errno (← load (.connectionHandle i)))
    let result ←
      if 0 < err then do
        store (.connectionNumber i) (err : ℤ)
        store (.connectionDescription i) (← library (.error (← load (.connectionHandle i))))
        pure false
      else
        pure true
    library (.freeResult rSet)
    return result
  else
    return false

/-- `cMySqlRowsAffected`. -/
def cMySqlRowsAffected (pConnection : ℤ) : Code ℤ := do
  if pConnection = -1 then
    noConnection
    return 0
  else
    let i ← connectionAt pConnection
    return intOfUInt64 (← library (.affectedRows (← load (.connectionHandle i))))

/-- What `cMySqlCursorOpen` does on a free slot before it looks at the record set. -/
def storeRecordSet (k : Fin maxCursors) (pConnection : ℤ) (pQuery : WStr) : Code Unit := do
  store (.recordSet k) none
  if ← mySqlExecute pConnection pQuery then
    let i ← connectionAt pConnection
    store (.recordSet k) (← library (.storeResult (← load (.connectionHandle i))))

/-- What it does afterwards. -/
def concludeOpen (k : Fin maxCursors) (pConnection : ℤ) : Code ℤ := do
  if (← load (.recordSet k)).isSome then
    store (.cursorId k) k.val
    store (.cursorConnection k) pConnection
    return k.val
  else
    let i ← connectionAt pConnection
    let errno ← library (.errno (← load (.connectionHandle i)))
    store (.connectionNumber i) (errno : ℤ)
    if 0 < (← load (.connectionNumber i)) then
      deleteCursor k.val
      store (.connectionDescription i) (← library (.error (← load (.connectionHandle i))))
      return -1
    else
      return k.val

/-- `cMySqlCursorOpen`. -/
def cMySqlCursorOpen (pConnection : ℤ) (pQuery : WStr) : Code ℤ := scopeLockMutex do
  clearErrors pConnection
  clearCursorErrors (-1)
  if pConnection = -1 then
    noConnection
    return -1
  else
    let cur ← getNewCursorId
    match slotIndex maxCursors cur with
    | some k =>
      storeRecordSet k pConnection pQuery
      concludeOpen k pConnection
    | none =>
      let i ← connectionAt pConnection
      setConnectionError i (-3) "Maximum number of opened cursors was exceeded."
      return -1

/-- `cMySqlCursorClose`. -/
def cMySqlCursorClose (pCursorID : ℤ) : Code Unit := scopeLockMutex do
  clearCursorErrors pCursorID
  match ← openCursor pCursorID with
  | some k =>
    library (.freeResult (← load (.recordSet k)))
    deleteCursor pCursorID
  | none => wrongCursor

/-- `cMySqlCursorRows`. -/
def cMySqlCursorRows (pCursorID : ℤ) : Code ℤ := do
  clearCursorErrors pCursorID
  match ← openCursor pCursorID with
  | some k => return intOfUInt64 (← library (.numRows (← load (.recordSet k))))
  | none =>
    wrongCursor
    return 0

/-- `cMySqlCursorFetchRow`. -/
def cMySqlCursorFetchRow (pCursorID : ℤ) : Code Bool := do
  clearCursorErrors pCursorID
  match ← openCursor pCursorID with
  | some k =>
    store (.currentRow k) (← library (.fetchRow (← load (.recordSet k))))
    if (← load (.currentRow k)).isNone then
      let i ← connectionAt (← load (.cursorConnection k))
      let errno ← library (.errno (← load (.connectionHandle i)))
      store (.cursorNumber k) (errno : ℤ)
      let j ← connectionAt (← load (.cursorConnection k))
      store (.cursorDescription k) (← library (.error (← load (.connectionHandle j))))
      return false
    else
      return true
  | none =>
    wrongCursor
    return false

/-- The text of a column of the current row. -/
def currentField (k : Fin maxCursors) (pField : ℕ) : Code (Option (List UInt8)) := do
  match ← load (.currentRow k) with
  | none => stop .nullRow
  | some row => library (.rowField row pField)

/-- The locked part of `cMySqlGetRowField`, up to the choice between `Value` of the slot and `WideNull`. The text
is converted twice: to measure it, and to write as many units as were measured. -/
def measuredField (pCursorID : ℤ) (pField : ℕ) : Code (Option (Fin maxCursors)) := do
  match ← openCursor pCursorID with
  | some k =>
    clearCursorErrors pCursorID
    if pField < (← library (.numFields (← load (.recordSet k)))) then
      store (.value k) []
      let measured := multiByteToWideChar (← currentField k pField)
      if measured.length ≤ maxFieldValue then
        let unicode := multiByteToWideChar (← currentField k pField)
        if unicode.length ≤ measured.length then
          store (.value k) (wideString unicode)
        return some k
      else
        setSlotError k (-6) "Result value is too big"
        return none
    else
      setSlotError k (-4) "Wrong number of field."
      return none
  | none =>
    wrongCursor
    return none

/-- `cMySqlGetRowField`. -/
def cMySqlGetRowField (pCursorID : ℤ) (pField : ℕ) : Code WStr := do
  match ← scopeLockMutex (measuredField pCursorID pField) with
  | some k => load (.value k)
  | none => return []

/-- `cGetMySqlErrorNumber`. -/
def cGetMySqlErrorNumber (pConnection : ℤ) : Code ℤ := do
  match ← liveConnection pConnection with
  | some i => load (.connectionNumber i)
  | none => load .mySqlErrorNumber

/-- `cGetMySqlErrorDescription`. -/
def cGetMySqlErrorDescription (pConnection : ℤ) : Code String := do
  match ← liveConnection pConnection with
  | some i => load (.connectionDescription i)
  | none => load .mySqlErrorDescription

/-- `cGetCursorErrorNumber`. -/
def cGetCursorErrorNumber (pCursor : ℤ) : Code ℤ := do
  match ← openCursor pCursor with
  | some k => load (.cursorNumber k)
  | none => load .cursorErrorNumber

/-- `cGetCursorErrorDescription`. -/
def cGetCursorErrorDescription (pCursor : ℤ) : Code String := do
  match ← openCursor pCursor with
  | some k => load (.cursorDescription k)
  | none => load .cursorErrorDescription

end Code

variable {σ : Type}

/-- The program of an exported function; result loops get `turns` turns. -/
def code (host : Host σ) (turns : ℕ) : (e : Exported) → Code e.Reply
  | .connect credentials => Code.cMySqlConnect host credentials
  | .disconnect pConnection => Code.cMySqlDisconnect pConnection
  | .execute pConnection pQuery => Code.cMySqlExecute turns pConnection pQuery
  | .cursorOpen pConnection pQuery => Code.cMySqlCursorOpen pConnection pQuery
  | .cursorClose pCursorID => Code.cMySqlCursorClose pCursorID
  | .cursorRows pCursorID => Code.cMySqlCursorRows pCursorID
  | .cursorFetchRow pCursorID => Code.cMySqlCursorFetchRow pCursorID
  | .getRowField pCursorID pField => Code.cMySqlGetRowField pCursorID pField
  | .rowsAffected pConnection => Code.cMySqlRowsAffected pConnection
  | .getMySqlErrorNumber pConnection => Code.cGetMySqlErrorNumber pConnection
  | .getMySqlErrorDescription pConnection => Code.cGetMySqlErrorDescription pConnection
  | .getCursorErrorNumber pCursor => Code.cGetCursorErrorNumber pCursor
  | .getCursorErrorDescription pCursor => Code.cGetCursorErrorDescription pCursor

/-- The DLL and the threads which call it. -/
abbrev Threads (T σ : Type) := Pool T (Shared T σ) Access.Reply Exported.Reply

/-- One step of a thread: it enters an exported function, makes one access, or returns. -/
abbrev threadStep {T : Type} [DecidableEq T] (host : Host σ) (turns : ℕ) :=
  poolStep (T := T) (code host turns) (accessStep host)

/-- The DLL after process attach, before any thread has called it. -/
def Threads.start (T : Type) (library : σ) : Threads T σ := ⟨⟨Dll.attached, library, none⟩, fun _ => none⟩

/-- One recorded step of a thread. -/
abbrev Threaded (T σ : Type) := Moved T (Shared T σ) Access.Reply Exported.Reply

/-- A run of the threads from process attach. -/
abbrev ThreadRun {T : Type} [DecidableEq T] (host : Host σ) (turns : ℕ) (library : σ)
    (tr : List (Threaded T σ)) (s : Threads T σ) : Prop :=
  Run (threadStep host turns) (Threads.start T library) tr s

end MqlMySql
