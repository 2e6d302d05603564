import MqlMySql.Model.Client

/-!
# The procedural wrapper

The functions `MySqlConnect` to `MySqlRowsAffected` of the older `MQLMySQL.mqh`. They keep their error in two
globals of the script, and the ids in variables of their caller. Tracing and `MySqlLastConnect` are left out, as
for the classes; the other conversions of a field only convert the text which `MySqlGetRowField` returns.

The last part lets one script use either wrapper with the same commands.
-/

namespace MqlMySql

open Library

/-- `MySqlErrorNumber` and `MySqlErrorDescription` of the script. -/
structure Globals where
  mySqlErrorNumber : ℤ
  mySqlErrorDescription : String
deriving DecidableEq, Repr

namespace Globals

/-- `ClearErrors`. -/
def clearErrors : Globals := ⟨0, "No errors."⟩

/-- Copy the error of a connection from the DLL. -/
def readMySqlError (pConnection : ℤ) : Script Globals := do
  let number ← dll (.getMySqlErrorNumber pConnection)
  let description ← dll (.getMySqlErrorDescription pConnection)
  return ⟨number, description⟩

/-- Copy the error of a cursor from the DLL. -/
def readCursorError (pCursorID : ℤ) : Script Globals := do
  let number ← dll (.getCursorErrorNumber pCursorID)
  let description ← dll (.getCursorErrorDescription pCursorID)
  return ⟨number, description⟩

/-- `MySqlExecute`. -/
def mySqlExecute (pConnection : ℤ) (pQuery : WStr) : Script (Bool × Globals) :=
  if pConnection = -1 then
    return (false, ⟨-2, "No connection to the database."⟩)
  else do
    let accepted ← dll (.execute pConnection pQuery)
    if accepted then
      return (true, clearErrors)
    else
      return (false, ← readMySqlError pConnection)

/-- `MySqlConnect`. The names are set also when there is no connection. -/
def mySqlConnect (c : Credentials) : Script (ℤ × Globals) := do
  let connection ← dll (.connect c)
  let _ ← if connection = -1 then readMySqlError (-1) else pure clearErrors
  let (accepted, globals) ← mySqlExecute connection (wide "SET NAMES UTF8")
  if accepted then
    return (connection, globals)
  else
    return (connection, ← readMySqlError (-1))

/-- `MySqlDisconnect`, with the value which it leaves in `pConnection`. -/
def mySqlDisconnect (pConnection : ℤ) : Script (ℤ × Globals) :=
  if pConnection = -1 then
    return (pConnection, clearErrors)
  else do
    dll (.disconnect pConnection)
    return (-1, clearErrors)

/-- `MySqlCursorOpen`. -/
def mySqlCursorOpen (pConnection : ℤ) (pQuery : WStr) : Script (ℤ × Globals) := do
  let result ← dll (.cursorOpen pConnection pQuery)
  if result = -1 then
    return (result, ← readMySqlError pConnection)
  else
    return (result, clearErrors)

/-- `MySqlCursorClose`. -/
def mySqlCursorClose (pCursorID : ℤ) : Script Globals := do
  dll (.cursorClose pCursorID)
  readCursorError pCursorID

/-- `MySqlCursorRows`. -/
def mySqlCursorRows (pCursorID : ℤ) : Script (ℤ × Globals) := do
  let result ← dll (.cursorRows pCursorID)
  return (result, ← readCursorError pCursorID)

/-- `MySqlCursorFetchRow`. -/
def mySqlCursorFetchRow (pCursorID : ℤ) : Script (Bool × Globals) := do
  let result ← dll (.cursorFetchRow pCursorID)
  return (result, ← readCursorError pCursorID)

/-- `MySqlGetRowField`, which `MySqlGetFieldAsString` returns. -/
def mySqlGetRowField (pCursorID pField : ℤ) : Script (WStr × Globals) := do
  let result ← dll (.getRowField pCursorID (unsignedOfInt pField))
  return (result, ← readCursorError pCursorID)

/-- `MySqlRowsAffected`. -/
def mySqlRowsAffected (pConnection : ℤ) : Script ℤ := dll (.rowsAffected pConnection)

end Globals

/-- What a script with one connection and one cursor does. -/
inductive Command
  | connect (c : Credentials)
  | disconnect
  | execute (pQuery : WStr)
  | rowsAffected
  | cursorOpen (pQuery : WStr)
  | cursorClose
  | rows
  | fetch
  | fieldAsString (pField : ℤ)
deriving DecidableEq, Repr

/-- What the script sees of a command: whether it succeeded, the value or the id it got, and the error number
when the command sets one. -/
structure Seen where
  success : Bool
  value : Answer
  error : Option ℤ
deriving DecidableEq, Repr

/-- A script which uses the procedures. -/
structure ProceduralScript where
  globals : Globals
  connection : ℤ
  cursor : ℤ

namespace ProceduralScript

/-- The script before its first command. -/
def start : ProceduralScript := ⟨⟨0, "No errors."⟩, -1, -1⟩

variable (script : ProceduralScript)

/-- What the script sees after a procedure which sets the error. -/
def sees (success : Bool) (value : Answer) (globals : Globals) : Seen × ProceduralScript :=
  (⟨success, value, some globals.mySqlErrorNumber⟩, { script with globals := globals })

/-- The program of a command. -/
def perform : Command → Script (Seen × ProceduralScript)
  | .connect c => do
    let (connection, globals) ← Globals.mySqlConnect c
    return sees { script with connection := connection } (connection ≠ -1) (.number connection) globals
  | .disconnect => do
    let (connection, globals) ← Globals.mySqlDisconnect script.connection
    return sees { script with connection := connection } true .nothing globals
  | .execute q => do
    let (b, globals) ← Globals.mySqlExecute script.connection q
    return script.sees b (.flag b) globals
  | .rowsAffected => do
    let n ← Globals.mySqlRowsAffected script.connection
    return (⟨true, .number n, none⟩, script)
  | .cursorOpen q => do
    let (cursor, globals) ← Globals.mySqlCursorOpen script.connection q
    return sees { script with cursor := cursor } (cursor ≠ -1) (.number cursor) globals
  | .cursorClose => do
    let globals ← Globals.mySqlCursorClose script.cursor
    return script.sees true .nothing globals
  | .rows => do
    let (n, globals) ← Globals.mySqlCursorRows script.cursor
    return script.sees true (.number n) globals
  | .fetch => do
    let (b, globals) ← Globals.mySqlCursorFetchRow script.cursor
    return script.sees b (.flag b) globals
  | .fieldAsString f => do
    let (s, globals) ← Globals.mySqlGetRowField script.cursor f
    return script.sees true (.text s) globals

end ProceduralScript

/-- A script which uses one object of each class. -/
structure ObjectScript where
  connection : CMySQL
  cursor : CMySQLCursor

namespace ObjectScript

/-- The script before its first command. -/
def start : ObjectScript := ⟨CMySQL.new, CMySQLCursor.new⟩

variable (script : ObjectScript)

/-- What the script sees after a method of the connection object. -/
def seesConnection (success : Bool) (value : Answer) (connection : CMySQL) : Seen × ObjectScript :=
  (⟨success, value, some connection.mySqlErrorNumber⟩, { script with connection := connection })

/-- What the script sees after a method of the cursor object. -/
def seesCursor (success : Bool) (value : Answer) (cursor : CMySQLCursor) : Seen × ObjectScript :=
  (⟨success, value, some cursor.cursorErrorNumber⟩, { script with cursor := cursor })

/-- The program of a command. -/
def perform : Command → Script (Seen × ObjectScript)
  | .connect c => do
    let (b, connection) ← (script.connection.setCredentials c).connect
    return script.seesConnection b (.number connection.connectID) connection
  | .disconnect => do
    let connection ← script.connection.disconnect
    return script.seesConnection true .nothing connection
  | .execute q => do
    let (b, connection) ← script.connection.execute q
    return script.seesConnection b (.flag b) connection
  | .rowsAffected => do
    let n ← script.connection.rowsAffected
    return (⟨true, .number n, none⟩, script)
  | .cursorOpen q => do
    let (b, cursor) ← script.cursor.openOn script.connection q
    return script.seesCursor b (.number cursor.cursorID) cursor
  | .cursorClose => do
    let cursor ← script.cursor.close
    return script.seesCursor true .nothing cursor
  | .rows => do
    let (n, cursor) ← script.cursor.rows
    return script.seesCursor true (.number n) cursor
  | .fetch => do
    let (b, cursor) ← script.cursor.fetch
    return script.seesCursor b (.flag b) cursor
  | .fieldAsString f => do
    let (s, cursor) ← script.cursor.fieldAsString f
    return script.seesCursor true (.text s) cursor

end ObjectScript

variable {σ C : Type}

/-- Perform one command to its end, on a script and the DLL which it uses. -/
def commandStep (host : Host σ) (turns : ℕ) (perform : C → Command → Script (Seen × C)) (command : Command)
    (s : C × World σ) : Except Fault (Seen × C × World σ) := do
  let ((seen, script), world) ← (perform s.1 command).run (dllStep host turns) s.2
  return (seen, script, world)

end MqlMySql
