import MqlMySql.Library.Pool
import MqlMySql.Model.Procedures

/-!
# The example scripts

`OnStart` of the scripts `MySQL-001` to `MySQL-005`, once with the classes (the files ending in `c`) and once with
the procedures, and what they use besides: the conversions of a field, and the credentials in an INI file. A script
returns what it prints, one line for each call of `Print`; the lines which tracing adds are left out with it.

The functions of the terminal and of Windows which these scripts call are parameters, collected in `Mql`.
-/

namespace MqlMySql

open Library

/-- `MAX_INIKEY_VALUE`, the size of the buffer of `ReadIni`. -/
def maxIniKeyValue : ℕ := 256

/-- What the terminal, Windows and the build provide. -/
structure Mql where
  /-- `LIB_VERSION`. -/
  version : WStr
  /-- `TerminalInfoString(TERMINAL_PATH)`. -/
  terminalPath : WStr
  /-- What an INI file has under a section and a key, for `GetPrivateProfileStringW`. -/
  privateProfile : (file section_ key : WStr) → WStr
  /-- `StringToInteger`, with a result of 64 bits. -/
  stringToInteger : WStr → ℤ
  /-- `StringToTime`. -/
  stringToTime : WStr → ℤ
  /-- `TimeToString`, with `TIME_DATE|TIME_SECONDS`. -/
  timeToString : ℤ → WStr
  /-- `(string)AccountInfoInteger(ACCOUNT_LOGIN)`. -/
  accountLogin : WStr
  /-- `TimeLocal()`. -/
  timeLocal : ℤ

namespace Mql

variable (mql : Mql)

/-- `ReadIni`. `GetPrivateProfileStringW` is given one place less than there is, and keeps one for the end. -/
def readIni (pFileName pSection pKey : WStr) : WStr :=
  wideString ((mql.privateProfile pFileName pSection pKey).take (maxIniKeyValue - 2))

/-- `(int)StringToInteger(text)`: the lower half of the 64 bits. -/
def asInt (text : WStr) : ℤ := Int.bmod (mql.stringToInteger text) (2 ^ 32)

/-- The path of the INI file of the scripts. -/
def ini : WStr := mql.terminalPath ++ wide "\\MQL5\\Scripts\\MyConnection.ini"

/-- The credentials in an INI file, as `LoadCredentials` and the scripts read them. -/
def loadCredentials (file : WStr) : Credentials where
  pHost := mql.readIni file (wide "MYSQL") (wide "Host")
  pUser := mql.readIni file (wide "MYSQL") (wide "User")
  pPassword := mql.readIni file (wide "MYSQL") (wide "Password")
  pDatabase := mql.readIni file (wide "MYSQL") (wide "Database")
  pPort := mql.asInt (mql.readIni file (wide "MYSQL") (wide "Port"))
  pSocket := mql.readIni file (wide "MYSQL") (wide "Socket")
  pClientFlag := mql.asInt (mql.readIni file (wide "MYSQL") (wide "ClientFlag"))

/-- `StringReplace(x, "-", ".")`. -/
def dotted (x : WStr) : WStr := x.map fun u => if u = 45 then 46 else u

/-- `StringToTime` of a date as the server writes it. -/
def asDatetime (text : WStr) : ℤ := mql.stringToTime (dotted text)

end Mql

/-- An argument of `Print`. -/
inductive Argument
  | literal (text : String)
  | int (n : ℤ)
  | string (text : WStr)
deriving DecidableEq, Repr

/-- What one call of `Print` prints. -/
abbrev Line : Type := List Argument

/-- `CLIENT_MULTI_STATEMENTS`. -/
def clientMultiStatements : ℤ := 65536

section Queries

variable (mql : Mql)

/-- The queries of the scripts. -/
def dropTable : WStr := wide "DROP TABLE IF EXISTS `test_table`"

def createTable : WStr := wide "CREATE TABLE `test_table` (id int, code varchar(50), start_date datetime)"

def insertAccount : WStr :=
  wide "INSERT INTO `test_table` (id, code, start_date) VALUES (" ++ mql.accountLogin ++ wide ",'ACCOUNT','" ++
    mql.timeToString mql.timeLocal ++ wide "')"

def insertRows : WStr :=
  wide "INSERT INTO `test_table` (id, code, start_date) VALUES (1,'EURUSD','2014.01.01 00:00:01');" ++
    wide "INSERT INTO `test_table` (id, code, start_date) VALUES (2,'EURJPY','2014.01.02 00:02:00');" ++
    wide "INSERT INTO `test_table` (id, code, start_date) VALUES (3,'USDJPY','2014.01.03 03:00:00');"

def selectRows : WStr := wide "SELECT id, code, start_date FROM `test_table`"

def selectFirst : WStr := wide "SELECT * FROM `test_table` LIMIT 1"

end Queries

namespace CMySQLCursor

variable (this : CMySQLCursor) (mql : Mql)

/-- `FieldAsInt`. -/
def fieldAsInt (pField : ℤ) : Script (ℤ × CMySQLCursor) := do
  let (text, this) ← this.fieldAsString pField
  return (mql.asInt text, this)

/-- `FieldAsDatetime`. -/
def fieldAsDatetime (pField : ℤ) : Script (ℤ × CMySQLCursor) := do
  let (text, this) ← this.fieldAsString pField
  return (mql.asDatetime text, this)

end CMySQLCursor

namespace Globals

variable (mql : Mql)

/-- `MySqlGetFieldAsInt`. -/
def mySqlGetFieldAsInt (pCursorID pField : ℤ) : Script (ℤ × Globals) := do
  let (text, globals) ← mySqlGetRowField pCursorID pField
  return (mql.asInt text, globals)

/-- `MySqlGetFieldAsDatetime`. -/
def mySqlGetFieldAsDatetime (pCursorID pField : ℤ) : Script (ℤ × Globals) := do
  let (text, globals) ← mySqlGetRowField pCursorID pField
  return (mql.asDatetime text, globals)

end Globals

/-- How a script reads a cursor: with the methods of an object, or with the procedures and its globals. -/
structure Reader (C : Type) where
  rows : C → Script (ℤ × C)
  fetch : C → Script (Bool × C)
  fieldAsInt : C → ℤ → Script (ℤ × C)
  fieldAsString : C → ℤ → Script (WStr × C)
  fieldAsDatetime : C → ℤ → Script (ℤ × C)

/-- The methods of a cursor object. -/
def Reader.object (mql : Mql) : Reader CMySQLCursor where
  rows := CMySQLCursor.rows
  fetch := CMySQLCursor.fetch
  fieldAsInt := fun this => this.fieldAsInt mql
  fieldAsString := CMySQLCursor.fieldAsString
  fieldAsDatetime := fun this => this.fieldAsDatetime mql

/-- The procedures for a cursor id. -/
def Reader.procedures (mql : Mql) (cursor : ℤ) : Reader Globals where
  rows := fun _ => Globals.mySqlCursorRows cursor
  fetch := fun _ => Globals.mySqlCursorFetchRow cursor
  fieldAsInt := fun _ => Globals.mySqlGetFieldAsInt mql cursor
  fieldAsString := fun _ => Globals.mySqlGetRowField cursor
  fieldAsDatetime := fun _ => Globals.mySqlGetFieldAsDatetime mql cursor

section Rows

variable {C : Type} (mql : Mql) (reader : Reader C)

/-- The line for one row. -/
def rowLine (i : ℕ) (vId : ℤ) (vCode : WStr) (vStartTime : ℤ) : Line :=
  [.literal "ROW[", .int i, .literal "]: id = ", .int vId, .literal ", code = ", .string vCode,
    .literal ", start_time = ", .string (mql.timeToString vStartTime)]

/-- `for (i=0; i<Rows; i++)` with `count` turns to make: every row which is fetched is printed. -/
def fetchLoop (i : ℕ) : (count : ℕ) → C → Script (List Line × C)
  | 0, c => return ([], c)
  | count + 1, c => do
    let (fetched, c) ← reader.fetch c
    if fetched then
      let (vId, c) ← reader.fieldAsInt c 0
      let (vCode, c) ← reader.fieldAsString c 1
      let (vStartTime, c) ← reader.fieldAsDatetime c 2
      let (lines, c) ← fetchLoop (i + 1) count c
      return (rowLine mql i vId vCode vStartTime :: lines, c)
    else
      fetchLoop (i + 1) count c

/-- What `MySQL-004` does with an open cursor before it closes it. -/
def showRows (c : C) : Script (List Line × C) := do
  let (count, c) ← reader.rows c
  let (lines, c) ← fetchLoop mql reader 0 count.toNat c
  return ([.int count, .literal " row(s) selected."] :: lines, c)

end Rows

section Tables

variable {C : Type} (mql : Mql) (execute : WStr → C → Script (Bool × C)) (description : C → String)

/-- `MySQL-002`, once it is connected. -/
def createTables (c : C) : Script (List Line × C) := do
  let (_, c) ← execute dropTable c
  let (created, c) ← execute createTable c
  if created then
    return ([[.literal "Table `test_table` created."]], c)
  else
    return ([[.literal "Table `test_table` cannot be created. Error: ", .literal (description c)]], c)

/-- `MySQL-003` after the table was created. -/
def fillTable (c : C) : Script (List Line × C) := do
  let (inserted, c) ← execute (insertAccount mql) c
  let first : List Line :=
    if inserted then [[.literal "Succeeded: ", .string (insertAccount mql)]]
    else [[.literal "Error: ", .literal (description c)], [.literal "Query: ", .string (insertAccount mql)]]
  let (inserted, c) ← execute insertRows c
  let second : Line :=
    if inserted then [.literal "Succeeded! 3 rows has been inserted by one query."]
    else [.literal "Error of multiple statements: ", .literal (description c)]
  return (first ++ [second], c)

/-- `MySQL-003`, once it is connected. -/
def fillTables (c : C) : Script (List Line × C) := do
  let (_, c) ← execute dropTable c
  let (created, c) ← execute createTable c
  if created then
    let (lines, c) ← fillTable mql execute description c
    return ([.literal "Table `test_table` created."] :: lines, c)
  else
    return ([[.literal "Table `test_table` cannot be created. Error: ", .literal (description c)]], c)

end Tables

/-- The lines at the end of a script. -/
def doneLines : List Line := [[.literal "Disconnected. Script done!"]]

/-! ## The scripts with classes -/

section Classes

variable (mql : Mql)

/-- How a script reports on a call of `Connect`. -/
def connectedLine (connected : Bool) (db : CMySQL) : Line :=
  if connected then [.literal "Connection succeeded! ID#", .int db.connectID]
  else [.literal "Connection failed! Error: ", .literal db.mySqlErrorDescription]

/-- `MySQL-001c`. -/
def onStart001c : Script (List Line) := do
  let db1 := CMySQL.new
  let db2 := CMySQL.new
  let db3 := CMySQL.new
  let credentials := mql.loadCredentials mql.ini
  let (b1, db1) ← (db1.setCredentials credentials).connect
  let (b2, db2) ← (db2.setCredentials credentials).connect
  let (b3, db3) ← (db3.setCredentials (mql.loadCredentials mql.ini)).connect
  let line1 := connectedLine b1 db1
  let line2 := connectedLine b2 db2
  let line3 := connectedLine b3 db3
  let db1 ← db1.disconnect
  let db2 ← db2.disconnect
  let db3 ← db3.disconnect
  db1.delete
  db2.delete
  db3.delete
  return [[.string mql.version],
    [.literal "Host: ", .string credentials.pHost, .literal ", User: ", .string credentials.pUser,
      .literal ", Database: ", .string credentials.pDatabase],
    [.literal "Connect test 1: Set Database Credentials directly on Connect..."], line1,
    [.literal "Connect test 2: Set Database Credentials before Connect..."], line2,
    [.literal "Connect test 3: Load Database Credentials from INI file before Connect..."], line3,
    [.literal "Disconnecting..."], [.literal "All connections closed. Script done!"]]

/-- How the other scripts begin: they go on also when there is no connection. -/
def openDatabase : Script (List Line × CMySQL) := do
  let db := CMySQL.new.setCredentials (mql.loadCredentials mql.ini)
  let (connected, db) ← db.connect
  return ([[.string mql.version], [.literal "Connecting..."], connectedLine connected db], db)

/-- How they end. -/
def closeDatabase (db : CMySQL) (lines : List Line) : Script (List Line) := do
  let db ← db.disconnect
  db.delete
  return lines ++ doneLines

/-- `MySQL-002c`. -/
def onStart002c : Script (List Line) := do
  let (head, db) ← openDatabase mql
  let (lines, db) ← createTables (fun q (db : CMySQL) => db.execute q) CMySQL.mySqlErrorDescription db
  closeDatabase db (head ++ lines)

/-- `MySQL-003c`. -/
def onStart003c : Script (List Line) := do
  let (head, db) ← openDatabase mql
  let (lines, db) ← fillTables mql (fun q (db : CMySQL) => db.execute q) CMySQL.mySqlErrorDescription db
  closeDatabase db (head ++ lines)

/-- `MySQL-004c`. -/
def onStart004c : Script (List Line) := do
  let (head, db) ← openDatabase mql
  let (opened, cursor) ← CMySQLCursor.new.openOn db selectRows
  let (lines, cursor) ←
    if opened then do
      let (lines, cursor) ← showRows mql (.object mql) cursor
      let cursor ← cursor.close
      pure (lines, cursor)
    else
      pure ([[.literal "Cursor opening failed. Error: ", .literal cursor.cursorErrorDescription]], cursor)
  cursor.delete
  closeDatabase db (head ++ [[.literal "SQL> ", .string selectRows]] ++ lines)

/-- How `MySQL-005c` reports on a cursor. -/
def openedLine (n : String) (opened : Bool) (cursor : CMySQLCursor) : Line :=
  if opened then [.literal ("Cursor " ++ n ++ " was opened.")]
  else [.literal ("Cursor " ++ n ++ " failed. Error: "), .literal cursor.cursorErrorDescription]

/-- `MySQL-005c`. -/
def onStart005c : Script (List Line) := do
  let (head, db) ← openDatabase mql
  let (b1, cursor1) ← CMySQLCursor.new.openOn db selectFirst
  let (b2, cursor2) ← CMySQLCursor.new.openOn db selectFirst
  let (b3, cursor3) ← CMySQLCursor.new.openOn db selectFirst
  let (b4, cursor4) ← CMySQLCursor.new.openOn db selectFirst
  let lines := [openedLine "1" b1 cursor1, openedLine "2" b2 cursor2, openedLine "3" b3 cursor3,
    openedLine "4" b4 cursor4, [.literal "Closing cursors..."], [.literal "Passed!"]]
  let cursor1 ← cursor1.close
  let cursor2 ← cursor2.close
  let cursor3 ← cursor3.close
  let cursor4 ← cursor4.close
  let db ← db.disconnect
  cursor1.delete
  cursor2.delete
  cursor3.delete
  cursor4.delete
  db.delete
  return head ++ lines ++ doneLines

end Classes

/-! ## The scripts with procedures -/

section Procedures

variable (mql : Mql)

/-- How a script reports on a call of `MySqlConnect`. -/
def connectedId (db : ℤ) (globals : Globals) : Line :=
  if db = -1 then [.literal ("Connection failed! Error: " ++ globals.mySqlErrorDescription)]
  else [.literal "Connected! DBID#", .int db]

/-- The lines at the begin of a script. -/
def headLines (credentials : Credentials) : List Line :=
  [[.string mql.version],
    [.literal "Host: ", .string credentials.pHost, .literal ", User: ", .string credentials.pUser,
      .literal ", Database: ", .string credentials.pDatabase],
    [.literal "Connecting..."]]

/-- `MySQL-001`. -/
def onStart001 : Script (List Line) := do
  let credentials := mql.loadCredentials mql.ini
  let (db1, globals) ← Globals.mySqlConnect credentials
  let line1 := connectedId db1 globals
  let (db2, globals) ← Globals.mySqlConnect credentials
  let line2 := connectedId db2 globals
  let (db3, globals) ← Globals.mySqlConnect credentials
  let line3 := connectedId db3 globals
  let _ ← Globals.mySqlDisconnect db3
  let _ ← Globals.mySqlDisconnect db2
  let _ ← Globals.mySqlDisconnect db1
  return headLines mql credentials ++ [line1, line2, line3, [.literal "All connections closed. Script done!"]]

/-- How the scripts begin which have one connection. -/
def openConnection (credentials : Credentials) : Script (List Line × ℤ × Globals) := do
  let (db, globals) ← Globals.mySqlConnect credentials
  return (headLines mql credentials ++ [connectedId db globals], db, globals)

/-- How they end. -/
def closeConnection (db : ℤ) (lines : List Line) : Script (List Line) := do
  let _ ← Globals.mySqlDisconnect db
  return lines ++ doneLines

/-- `MySQL-002`. -/
def onStart002 : Script (List Line) := do
  let (head, db, globals) ← openConnection mql (mql.loadCredentials mql.ini)
  let (lines, _) ←
    createTables (fun q _ => Globals.mySqlExecute db q) Globals.mySqlErrorDescription globals
  closeConnection db (head ++ lines)

/-- `MySQL-003`: the client flag is not the one of the file. -/
def onStart003 : Script (List Line) := do
  let credentials := { mql.loadCredentials mql.ini with pClientFlag := clientMultiStatements }
  let (head, db, globals) ← openConnection mql credentials
  let (lines, _) ←
    fillTables mql (fun q _ => Globals.mySqlExecute db q) Globals.mySqlErrorDescription globals
  closeConnection db (head ++ lines)

/-- `MySQL-004`: of these scripts only this one stops when there is no connection. -/
def onStart004 : Script (List Line) := do
  let (head, db, _) ← openConnection mql (mql.loadCredentials mql.ini)
  if db = -1 then
    return head
  else
    let (cursor, globals) ← Globals.mySqlCursorOpen db selectRows
    let lines ←
      if 0 ≤ cursor then do
        let (lines, _) ← showRows mql (.procedures mql cursor) globals
        let _ ← Globals.mySqlCursorClose cursor
        pure lines
      else
        pure [[.literal "Cursor opening failed. Error: ", .literal globals.mySqlErrorDescription]]
    closeConnection db (head ++ [[.literal "SQL> ", .string selectRows]] ++ lines)

/-- How `MySQL-005` reports on a cursor. -/
def openedId (n : String) (cursor : ℤ) (globals : Globals) : Line :=
  if 0 ≤ cursor then [.literal ("Cursor " ++ n ++ " was opened.")]
  else [.literal ("Cursor " ++ n ++ " failed. Error: "), .literal globals.mySqlErrorDescription]

/-- `MySQL-005`. -/
def onStart005 : Script (List Line) := do
  let (head, db, _) ← openConnection mql (mql.loadCredentials mql.ini)
  let (cursor1, globals) ← Globals.mySqlCursorOpen db selectFirst
  let line1 := openedId "1" cursor1 globals
  let (cursor2, globals) ← Globals.mySqlCursorOpen db selectFirst
  let line2 := openedId "2" cursor2 globals
  let (cursor3, globals) ← Globals.mySqlCursorOpen db selectFirst
  let line3 := openedId "3" cursor3 globals
  let (cursor4, globals) ← Globals.mySqlCursorOpen db selectFirst
  let line4 := openedId "4" cursor4 globals
  let lines := [line1, line2, line3, line4, [.literal "Closing cursors..."], [.literal "Passed!"]]
  let _ ← Globals.mySqlCursorClose cursor1
  let _ ← Globals.mySqlCursorClose cursor2
  let _ ← Globals.mySqlCursorClose cursor3
  let _ ← Globals.mySqlCursorClose cursor4
  closeConnection db (head ++ lines)

end Procedures

/-- The scripts. -/
inductive Demo
  | mySQL001c | mySQL002c | mySQL003c | mySQL004c | mySQL005c
  | mySQL001 | mySQL002 | mySQL003 | mySQL004 | mySQL005
deriving DecidableEq, Repr

/-- `OnStart` of a script. -/
def onStart (mql : Mql) : Demo → Script (List Line)
  | .mySQL001c => onStart001c mql
  | .mySQL002c => onStart002c mql
  | .mySQL003c => onStart003c mql
  | .mySQL004c => onStart004c mql
  | .mySQL005c => onStart005c mql
  | .mySQL001 => onStart001 mql
  | .mySQL002 => onStart002 mql
  | .mySQL003 => onStart003 mql
  | .mySQL004 => onStart004 mql
  | .mySQL005 => onStart005 mql

/-- Programs in a terminal which run example scripts. -/
abbrev Charts (T σ : Type) := Pool T (World σ) Exported.Reply fun _ : Demo => List Line

/-- One step of one program: it starts a script, makes one call, or comes to the end of the script. -/
abbrev chartStep {T σ : Type} [DecidableEq T] (mql : Mql) (host : Host σ) (turns : ℕ) :=
  poolStep (T := T) (V := fun _ : Demo => List Line) (onStart mql) fun _ => dllStep host turns

end MqlMySql
