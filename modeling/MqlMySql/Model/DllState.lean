import MqlMySql.Library.SlotTable
import MqlMySql.Model.Host

/-!
# The global variables of the DLL

The two error cells shared by everyone, the table of connections and the table of cursors, with the
functions of `MQLMySQL.h` which only read or write them. A slot is live when its `id` is not `-1`.
-/

namespace MqlMySql

open Library

/-- Maximum connections supported. -/
def maxConnections : ℕ := 32

/-- Maximum cursors opened concurrently. -/
def maxCursors : ℕ := 256

/-- Maximum length of a field value returned to MQL, in wide characters. -/
def maxFieldValue : ℕ := 32 * 1024

/-- Size of the buffer for an SQL query, in bytes. -/
def maxQuerySize : ℕ := 65535

/-- One entry of `Connections`. -/
structure Connection where
  id : ℤ
  connection : Option Mysql
  mySqlErrorNumber : ℤ
  mySqlErrorDescription : String

/-- One entry of `Cursors`; `connection` is an index into `Connections`. -/
structure Cursor where
  id : ℤ
  connection : ℤ
  recordSet : Option MysqlRes
  currentRow : Option MysqlRow
  value : WStr
  cursorErrorNumber : ℤ
  cursorErrorDescription : String

/-- The globals of the DLL. The first two pairs are the DLL-wide error cells. -/
structure Dll where
  mySqlErrorNumber : ℤ
  mySqlErrorDescription : String
  cursorErrorNumber : ℤ
  cursorErrorDescription : String
  connections : Fin maxConnections → Connection
  cursors : Fin maxCursors → Cursor

/-- Static storage before the loader has run any code. -/
def Dll.zeroed : Dll where
  mySqlErrorNumber := 0
  mySqlErrorDescription := ""
  cursorErrorNumber := 0
  cursorErrorDescription := ""
  connections := fun _ => ⟨0, none, 0, ""⟩
  cursors := fun _ => ⟨0, 0, none, none, [], 0, ""⟩

namespace Dll

variable (d : Dll)

/-- Change one entry of `Connections`. -/
def setConnection (i : Fin maxConnections) (f : Connection → Connection) : Dll :=
  { d with connections := Function.update d.connections i (f (d.connections i)) }

/-- Change one entry of `Cursors`. -/
def setCursor (k : Fin maxCursors) (f : Cursor → Cursor) : Dll :=
  { d with cursors := Function.update d.cursors k (f (d.cursors k)) }

/-- Write the DLL-wide connection error. -/
def setMySqlError (number : ℤ) (description : String) : Dll :=
  { d with mySqlErrorNumber := number, mySqlErrorDescription := description }

/-- Write the DLL-wide cursor error. -/
def setCursorError (number : ℤ) (description : String) : Dll :=
  { d with cursorErrorNumber := number, cursorErrorDescription := description }

/-- Write the error of one connection slot. -/
def setConnectionError (i : Fin maxConnections) (number : ℤ) (description : String) : Dll :=
  d.setConnection i fun c =>
    { c with mySqlErrorNumber := number, mySqlErrorDescription := description }

/-- Write the error of one cursor slot. -/
def setSlotError (k : Fin maxCursors) (number : ℤ) (description : String) : Dll :=
  d.setCursor k fun c =>
    { c with cursorErrorNumber := number, cursorErrorDescription := description }

@[simp] theorem setConnection_connections (i j : Fin maxConnections) (f : Connection → Connection) :
    (d.setConnection i f).connections j =
      if j = i then f (d.connections i) else d.connections j := by
  simp only [setConnection, Function.update_apply]

@[simp] theorem setCursor_cursors (k j : Fin maxCursors) (f : Cursor → Cursor) :
    (d.setCursor k f).cursors j = if j = k then f (d.cursors k) else d.cursors j := by
  simp only [setCursor, Function.update_apply]

section Projections

variable (i j : Fin maxConnections) (k l : Fin maxCursors) (f : Connection → Connection)
  (g : Cursor → Cursor) (number : ℤ) (description : String)

@[simp] theorem setConnection_cursors : (d.setConnection i f).cursors = d.cursors := rfl
@[simp] theorem setConnection_mySqlErrorNumber :
    (d.setConnection i f).mySqlErrorNumber = d.mySqlErrorNumber := rfl
@[simp] theorem setConnection_cursorErrorNumber :
    (d.setConnection i f).cursorErrorNumber = d.cursorErrorNumber := rfl
@[simp] theorem setCursor_connections : (d.setCursor k g).connections = d.connections := rfl
@[simp] theorem setCursor_mySqlErrorNumber :
    (d.setCursor k g).mySqlErrorNumber = d.mySqlErrorNumber := rfl
@[simp] theorem setCursor_cursorErrorNumber :
    (d.setCursor k g).cursorErrorNumber = d.cursorErrorNumber := rfl
@[simp] theorem setMySqlError_connections :
    (d.setMySqlError number description).connections = d.connections := rfl
@[simp] theorem setMySqlError_cursors :
    (d.setMySqlError number description).cursors = d.cursors := rfl
@[simp] theorem setMySqlError_mySqlErrorNumber :
    (d.setMySqlError number description).mySqlErrorNumber = number := rfl
@[simp] theorem setMySqlError_cursorErrorNumber :
    (d.setMySqlError number description).cursorErrorNumber = d.cursorErrorNumber := rfl
@[simp] theorem setCursorError_connections :
    (d.setCursorError number description).connections = d.connections := rfl
@[simp] theorem setCursorError_cursors :
    (d.setCursorError number description).cursors = d.cursors := rfl
@[simp] theorem setCursorError_mySqlErrorNumber :
    (d.setCursorError number description).mySqlErrorNumber = d.mySqlErrorNumber := rfl
@[simp] theorem setCursorError_cursorErrorNumber :
    (d.setCursorError number description).cursorErrorNumber = number := rfl
@[simp] theorem setConnectionError_cursors :
    (d.setConnectionError i number description).cursors = d.cursors := rfl
@[simp] theorem setConnectionError_mySqlErrorNumber :
    (d.setConnectionError i number description).mySqlErrorNumber = d.mySqlErrorNumber := rfl
@[simp] theorem setConnectionError_cursorErrorNumber :
    (d.setConnectionError i number description).cursorErrorNumber = d.cursorErrorNumber := rfl
@[simp] theorem setSlotError_connections :
    (d.setSlotError k number description).connections = d.connections := rfl
@[simp] theorem setSlotError_mySqlErrorNumber :
    (d.setSlotError k number description).mySqlErrorNumber = d.mySqlErrorNumber := rfl
@[simp] theorem setSlotError_cursorErrorNumber :
    (d.setSlotError k number description).cursorErrorNumber = d.cursorErrorNumber := rfl

@[simp] theorem setConnectionError_id :
    ((d.setConnectionError i number description).connections j).id = (d.connections j).id := by
  by_cases hji : j = i
  · simp [setConnectionError, hji]
  · simp [setConnectionError, hji]

@[simp] theorem setConnectionError_connection :
    ((d.setConnectionError i number description).connections j).connection =
      (d.connections j).connection := by
  by_cases hji : j = i
  · simp [setConnectionError, hji]
  · simp [setConnectionError, hji]

@[simp] theorem setConnectionError_self :
    ((d.setConnectionError i number description).connections i).mySqlErrorNumber = number := by
  simp [setConnectionError]

/-- Writing the error of a cursor slot changes nothing else in the slot. -/
theorem setSlotError_cursors :
    (d.setSlotError k number description).cursors l =
      if l = k then { d.cursors l with
        cursorErrorNumber := number, cursorErrorDescription := description }
      else d.cursors l := by
  by_cases hlk : l = k
  · simp [setSlotError, hlk]
  · simp [setSlotError, hlk]

@[simp] theorem setSlotError_id :
    ((d.setSlotError k number description).cursors l).id = (d.cursors l).id := by
  rw [setSlotError_cursors]
  split <;> rfl

@[simp] theorem setSlotError_connection :
    ((d.setSlotError k number description).cursors l).connection = (d.cursors l).connection := by
  rw [setSlotError_cursors]
  split <;> rfl

@[simp] theorem setSlotError_recordSet :
    ((d.setSlotError k number description).cursors l).recordSet = (d.cursors l).recordSet := by
  rw [setSlotError_cursors]
  split <;> rfl

@[simp] theorem setSlotError_currentRow :
    ((d.setSlotError k number description).cursors l).currentRow = (d.cursors l).currentRow := by
  rw [setSlotError_cursors]
  split <;> rfl

@[simp] theorem setSlotError_self :
    ((d.setSlotError k number description).cursors k).cursorErrorNumber = number := by
  simp [setSlotError]

end Projections

end Dll

/-- `ClearErrors`: an index outside the table clears nothing. -/
def clearErrors (pId : ℤ) (d : Dll) : Dll :=
  if pId = -1 then d.setMySqlError 0 "No errors."
  else match slotIndex maxConnections pId with
    | some i => d.setConnectionError i 0 "No errors."
    | none => d

/-- `ClearCursorErrors`: an index outside the table clears nothing. -/
def clearCursorErrors (pId : ℤ) (d : Dll) : Dll :=
  if pId = -1 then d.setCursorError 0 "No errors."
  else match slotIndex maxCursors pId with
    | some k => d.setSlotError k 0 "No errors."
    | none => d

/-- `GetNewConnectionId`: the first slot which is not live, or `-1`. -/
def getNewConnectionId (d : Dll) : ℤ :=
  firstSlot fun i => decide ((d.connections i).id = -1)

/-- `GetNewCursorId`: the first slot which is not open, or `-1`. -/
def getNewCursorId (d : Dll) : ℤ :=
  firstSlot fun k => decide ((d.cursors k).id = -1)

/-- `DeleteConnection`. -/
def deleteConnection (pId : ℤ) (d : Dll) : Dll :=
  match slotIndex maxConnections pId with
  | some i => d.setConnection i fun c => { c with id := -1 }
  | none => d

/-- `DeleteCursor`. -/
def deleteCursor (pId : ℤ) (d : Dll) : Dll :=
  match slotIndex maxCursors pId with
  | some k => d.setCursor k fun c => { c with id := -1 }
  | none => d

/-- `ConnectionsInit`. -/
def connectionsInit (d : Dll) : Dll :=
  { d with connections := fun i => { d.connections i with id := -1 } }

/-- `CursorsInit`. -/
def cursorsInit (d : Dll) : Dll :=
  { d with cursors := fun k => { d.cursors k with id := -1 } }

/-- The state of the globals after `DLL_PROCESS_ATTACH`. -/
def Dll.attached : Dll := cursorsInit (connectionsInit Dll.zeroed)

/-- The slot of a live connection, if the id names one. -/
def Dll.liveConnection (d : Dll) (pConnection : ℤ) : Option (Fin maxConnections) :=
  (slotIndex maxConnections pConnection).filter fun i => (d.connections i).id ≠ -1

/-- The slot of an open cursor, if the id names one. -/
def Dll.openCursor (d : Dll) (pCursor : ℤ) : Option (Fin maxCursors) :=
  (slotIndex maxCursors pCursor).filter fun k => (d.cursors k).id ≠ -1

/-- `cGetMySqlErrorNumber`: the slot's number for a live connection, otherwise the DLL-wide one. -/
def cGetMySqlErrorNumber (pConnection : ℤ) (d : Dll) : ℤ :=
  match d.liveConnection pConnection with
  | some i => (d.connections i).mySqlErrorNumber
  | none => d.mySqlErrorNumber

/-- `cGetMySqlErrorDescription`, routed as the number is. -/
def cGetMySqlErrorDescription (pConnection : ℤ) (d : Dll) : String :=
  match d.liveConnection pConnection with
  | some i => (d.connections i).mySqlErrorDescription
  | none => d.mySqlErrorDescription

/-- `cGetCursorErrorNumber`: the slot's number for an open cursor, otherwise the DLL-wide one. -/
def cGetCursorErrorNumber (pCursor : ℤ) (d : Dll) : ℤ :=
  match d.openCursor pCursor with
  | some k => (d.cursors k).cursorErrorNumber
  | none => d.cursorErrorNumber

/-- `cGetCursorErrorDescription`, routed as the number is. -/
def cGetCursorErrorDescription (pCursor : ℤ) (d : Dll) : String :=
  match d.openCursor pCursor with
  | some k => (d.cursors k).cursorErrorDescription
  | none => d.cursorErrorDescription

end MqlMySql
