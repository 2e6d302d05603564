import MqlMySql.Model.Action

/-!
# Connecting, executing and disconnecting

The exported functions of `MQLMySQL.cpp` that take a connection, and the internal `MySqlExecute`
which both `cMySqlExecute` and `cMySqlCursorOpen` run. The checks of the connection id are exactly
those of the source: `cMySqlDisconnect` looks at the slot, the others only compare with `-1`.
-/

namespace MqlMySql

open Library

variable {σ : Type} (host : Host σ)

/-- The arguments of `cMySqlConnect`, as the caller passes them. -/
structure Credentials where
  pHost : WStr
  pUser : WStr
  pPassword : WStr
  pDatabase : WStr
  pPort : ℤ
  pSocket : WStr
  pClientFlag : ℤ
deriving DecidableEq, Repr

/-- Write error `-2` to the DLL-wide connection cell. -/
def noConnection (d : Dll) : Dll := d.setMySqlError (-2) "No connection to the database."

@[simp] theorem noConnection_connections (d : Dll) :
    (noConnection d).connections = d.connections := rfl

@[simp] theorem noConnection_cursors (d : Dll) : (noConnection d).cursors = d.cursors := rfl

@[simp] theorem noConnection_mySqlErrorNumber (d : Dll) :
    (noConnection d).mySqlErrorNumber = -2 := rfl

@[simp] theorem noConnection_cursorErrorNumber (d : Dll) :
    (noConnection d).cursorErrorNumber = d.cursorErrorNumber := rfl

/-- `sprintf_s(dst, size, "%S", s)` for a destination of `capacity` bytes and a text already
encoded for the locale. Bytes are written up to `size`, then the runtime aborts. -/
def sprintfS (capacity size : ℕ) (text : List UInt8) : Act σ (List UInt8) :=
  if capacity < min size (text.length + 1) then throw .bufferOverrun
  else if size < text.length + 1 then throw .invalidParameter
  else pure text

/-- The five copies of `cMySqlConnect` into `xHost[1024]`, `xUser[32]`, `xPassword[32]`,
`xDatabase[32]` and `xSocket[64]`. The size given for each is the length of the wide string, plus
one. -/
def copyCredentials (c : Credentials) : Act σ ConnectRequest := do
  let xHost ← sprintfS 1024 (c.pHost.length + 1) (host.wcstombs c.pHost)
  let xUser ← sprintfS 32 (c.pUser.length + 1) (host.wcstombs c.pUser)
  let xPassword ← sprintfS 32 (c.pPassword.length + 1) (host.wcstombs c.pPassword)
  let xDatabase ← sprintfS 32 (c.pDatabase.length + 1) (host.wcstombs c.pDatabase)
  let xSocket ← sprintfS 64 (c.pSocket.length + 1) (host.wcstombs c.pSocket)
  return ⟨xHost, xUser, xPassword, xDatabase, c.pPort, xSocket, c.pClientFlag⟩

/-- `cMySqlConnect`. -/
def cMySqlConnect (c : Credentials) : Act σ ℤ := do
  modifyDll (clearErrors (-1))
  let cnn ← readDll getNewConnectionId
  match slotIndex maxConnections cnn with
  | none =>
    modifyDll (·.setMySqlError (-3) "Maximum connections exceeded.")
    return -1
  | some i =>
    let request ← copyCredentials host c
    match ← perform host.mysqlInit .init with
    | none =>
      modifyDll (·.setMySqlError (-1) "Cannot allocate memory for connection.")
      return -1
    | some mysql =>
      let connection ← perform (host.mysqlRealConnect mysql request) (.realConnect mysql request)
      modifyDll (·.setConnection i fun slot => { slot with connection := connection })
      if connection ≠ some mysql then
        -- the slot keeps the null pointer and stays free; the handle is not closed
        let errno ← inspect (host.mysqlErrno (some mysql)) (.errno (some mysql))
        let text ← inspect (host.mysqlError (some mysql)) (.error (some mysql))
        modifyDll (·.setMySqlError errno text)
        return -1
      else
        modifyDll (·.setConnection i fun slot => { slot with id := cnn })
        return cnn

/-- `cMySqlDisconnect`. -/
def cMySqlDisconnect (pConnection : ℤ) : Act σ Unit := do
  modifyDll (clearErrors pConnection)
  match ← readDll (·.liveConnection pConnection) with
  | none => modifyDll noConnection
  | some i =>
    let mysql ← readDll fun d => (d.connections i).connection
    command (host.mysqlClose mysql) (.close mysql)
    modifyDll (deleteConnection pConnection)

/-- `MySqlExecute`. The slot's number is written, but the test reads the DLL-wide number. -/
def mySqlExecute (pConnection : ℤ) (pQuery : WStr) : Act σ Bool := do
  modifyDll (clearErrors pConnection)
  if pConnection = -1 then
    modifyDll noConnection
    return false
  else if (wideCharToMultiByte pQuery).length < maxQuerySize then
    let query := cString (wideCharToMultiByte pQuery)
    let i ← connectionAt pConnection
    let mysql ← readDll fun d => (d.connections i).connection
    let _ ← perform (host.mysqlRealQuery mysql query query.length)
      fun _ => .realQuery mysql query query.length
    let errno ← inspect (host.mysqlErrno mysql) (.errno mysql)
    modifyDll (·.setConnection i fun slot => { slot with mySqlErrorNumber := errno })
    if 0 < (← readDll (·.mySqlErrorNumber)) then
      let text ← inspect (host.mysqlError mysql) (.error mysql)
      modifyDll (·.setConnection i fun slot => { slot with mySqlErrorDescription := text })
      return false
    else
      return true
  else
    modifyDll (·.setMySqlError (-6) "Query is too big")
    return false

/-- The loop of `cMySqlExecute`, with a bound on its turns. It returns the value which `RSet` holds
when the loop is left. -/
def drainResults (mysql : Option Mysql) : ℕ → Act σ (Option MysqlRes)
  | 0 => throw .stillRunning
  | turns + 1 => do
    let rSet ← perform (host.mysqlStoreResult mysql) (.storeResult mysql)
    if rSet.isSome then
      command (host.mysqlFreeResult rSet) (.freeResult rSet)
    if ← inspect (host.mysqlMoreResults mysql) (.moreResults mysql) then
      let status ← perform (host.mysqlNextResult mysql) fun _ => .nextResult mysql
      if status = 0 then drainResults mysql turns else return rSet
    else
      return rSet

/-- `cMySqlExecute`, with a bound on the turns of its loop. The result of `mysql_use_result` is
overwritten on the first turn. -/
def cMySqlExecute (turns : ℕ) (pConnection : ℤ) (pQuery : WStr) : Act σ Bool := do
  modifyDll (clearErrors pConnection)
  if pConnection = -1 then
    modifyDll noConnection
    return false
  else if ← mySqlExecute host pConnection pQuery then
    let i ← connectionAt pConnection
    let mysql ← readDll fun d => (d.connections i).connection
    let _ ← perform (host.mysqlUseResult mysql) (.useResult mysql)
    let rSet ← drainResults host mysql turns
    let err ← inspect (host.mysqlErrno mysql) (.errno mysql)
    let result ←
      if 0 < err then do
        let text ← inspect (host.mysqlError mysql) (.error mysql)
        modifyDll (·.setConnectionError i err text)
        pure false
      else
        pure true
    command (host.mysqlFreeResult rSet) (.freeResult rSet)
    return result
  else
    return false

/-- `cMySqlRowsAffected`. -/
def cMySqlRowsAffected (pConnection : ℤ) : Act σ ℤ := do
  if pConnection = -1 then
    modifyDll noConnection
    return 0
  else
    let i ← connectionAt pConnection
    let mysql ← readDll fun d => (d.connections i).connection
    let rows ← inspect (host.mysqlAffectedRows mysql) (.affectedRows mysql)
    return intOfUInt64 rows

/-- `ConnectionsDeinit`: close every live connection, from slot `0` upwards. -/
def connectionsDeinit : Act σ Unit := do
  modifyDll (clearErrors (-1))
  (List.finRange maxConnections).forM fun i => do
    if (← readDll fun d => (d.connections i).id) ≠ -1 then
      let mysql ← readDll fun d => (d.connections i).connection
      command (host.mysqlClose mysql) (.close mysql)
      modifyDll (deleteConnection i.val)

end MqlMySql
