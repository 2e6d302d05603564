import MqlMySql.Library.Program
import MqlMySql.Model.Exported

/-!
# The wrapper classes

`CMySQL` and `CMySQLCursor` of `MQLMySQLClass.mqh`. A method is a program over the exported calls, from
the fields of its object to the returned value and the fields afterwards.

Tracing and `MySqlLastConnect` are left out, as no other code reads them. `SetCredentials` and
`LoadCredentials` differ only in where the credentials come from.
-/

namespace MqlMySql

open Library

/-- Programs over the exported calls. -/
abbrev Script : Type → Type := Program Exported Exported.Reply

/-- Make one exported call. -/
abbrev dll (e : Exported) : Script e.Reply := Program.ask e

/-- A literal text as a wide string. -/
def wide (text : String) : WStr := text.toList.map fun c => UInt16.ofNat c.toNat

/-- The fields of `CMySQL`. The credentials are present when `vCredentialsSet` is. -/
structure CMySQL where
  mySqlErrorNumber : ℤ
  mySqlErrorDescription : String
  connectID : ℤ
  credentials : Option Credentials
deriving DecidableEq, Repr

namespace CMySQL

/-- The constructor. -/
def new : CMySQL := ⟨0, "No errors.", -1, none⟩

variable (this : CMySQL)

/-- Set the error fields. -/
def setError (number : ℤ) (description : String) : CMySQL :=
  { this with mySqlErrorNumber := number, mySqlErrorDescription := description }

/-- `ClearErrors`. -/
def clearErrors : CMySQL := this.setError 0 "No errors."

/-- `SetCredentials`, and `LoadCredentials` with what it reads. -/
def setCredentials (c : Credentials) : CMySQL := { this with credentials := some c }

/-- Copy the error of a connection from the DLL. -/
def readError (pConnection : ℤ) : Script CMySQL := do
  let number ← dll (.getMySqlErrorNumber pConnection)
  let description ← dll (.getMySqlErrorDescription pConnection)
  return this.setError number description

/-- `Execute`. -/
def execute (pQuery : WStr) : Script (Bool × CMySQL) :=
  let this := this.clearErrors
  if this.connectID = -1 then
    return (false, this.setError (-2) "No connection to the database.")
  else do
    let accepted ← dll (.execute this.connectID pQuery)
    if accepted then
      return (true, this)
    else
      return (false, ← this.readError this.connectID)

/-- `Connect`. The result of `SET NAMES UTF8` only shows in the error fields. -/
def connect : Script (Bool × CMySQL) :=
  let this := this.clearErrors
  match this.credentials with
  | none => return (false, this.setError (-8) "No database credentials.")
  | some c =>
    if 0 ≤ this.connectID then
      return (false, this.setError (-7) "Connection already exists.")
    else do
      let connection ← dll (.connect c)
      if connection = -1 then
        return (false, ← this.readError (-1))
      else
        let (accepted, this) ← execute { this with connectID := connection } (wide "SET NAMES UTF8")
        if accepted then
          return (true, this)
        else
          return (true, ← this.readError (-1))

/-- `Disconnect`. -/
def disconnect : Script CMySQL :=
  let this := this.clearErrors
  if this.connectID = -1 then
    return this
  else do
    dll (.disconnect this.connectID)
    return { this with connectID := -1 }

/-- `RowsAffected`. -/
def rowsAffected : Script ℤ := dll (.rowsAffected this.connectID)

/-- The destructor. -/
def delete : Script Unit :=
  if 0 ≤ this.connectID then do
    let _ ← this.disconnect
    return ()
  else
    return ()

end CMySQL

/-- The fields of `CMySQLCursor`. -/
structure CMySQLCursor where
  cursorID : ℤ
  connectID : ℤ
  cursorErrorNumber : ℤ
  cursorErrorDescription : String
deriving DecidableEq, Repr

namespace CMySQLCursor

/-- The constructor. -/
def new : CMySQLCursor := ⟨-1, -1, 0, "No errors."⟩

variable (this : CMySQLCursor)

/-- Set the error fields. -/
def setError (number : ℤ) (description : String) : CMySQLCursor :=
  { this with cursorErrorNumber := number, cursorErrorDescription := description }

/-- `ClearErrors`. -/
def clearErrors : CMySQLCursor := this.setError 0 "No errors."

/-- Copy the error of the cursor from the DLL. -/
def readError : Script CMySQLCursor := do
  let number ← dll (.getCursorErrorNumber this.cursorID)
  let description ← dll (.getCursorErrorDescription this.cursorID)
  return this.setError number description

/-- `Open`. The id of a cursor which is still open is overwritten. -/
def openOn (connection : CMySQL) (pQuery : WStr) : Script (Bool × CMySQLCursor) := do
  let this := { this with connectID := connection.connectID }.clearErrors
  let cursor ← dll (.cursorOpen this.connectID pQuery)
  let this := { this with cursorID := cursor }
  if cursor = -1 then
    let number ← dll (.getMySqlErrorNumber this.connectID)
    let description ← dll (.getMySqlErrorDescription this.connectID)
    return (false, this.setError number description)
  else
    return (true, this)

/-- `Close`. The id is kept unless the error number read after closing is `0`. -/
def close : Script CMySQLCursor := do
  let this := this.clearErrors
  dll (.cursorClose this.cursorID)
  let this ← this.readError
  if this.cursorErrorNumber = 0 then
    return { this with cursorID := -1 }
  else
    return this

/-- `Rows`. -/
def rows : Script (ℤ × CMySQLCursor) := do
  let result ← dll (.cursorRows this.cursorID)
  return (result, ← this.readError)

/-- `Fetch`. -/
def fetch : Script (Bool × CMySQLCursor) := do
  let result ← dll (.cursorFetchRow this.cursorID)
  return (result, ← this.readError)

/-- `FieldAsString`; the number of the field is passed as an `int`. -/
def fieldAsString (pField : ℤ) : Script (WStr × CMySQLCursor) := do
  let result ← dll (.getRowField this.cursorID (unsignedOfInt pField))
  return (result, ← this.readError)

/-- The destructor. -/
def delete : Script Unit :=
  if 0 ≤ this.cursorID then do
    let _ ← this.close
    return ()
  else
    return ()

end CMySQLCursor

end MqlMySql
