import MqlMySql.Model.ConnectionCalls

/-!
# Opening, reading and closing cursors

The exported functions of `MQLMySQL.cpp` that take or return a cursor. A cursor keeps the stored
result of one query, the row fetched last, and the index of the connection it was opened on.
-/

namespace MqlMySql

open Library

variable {σ : Type} (host : Host σ)

/-- Write error `-5` to the DLL-wide cursor cell. -/
def wrongCursor (d : Dll) : Dll := d.setCursorError (-5) "Wrong CURSOR identifier."

@[simp] theorem wrongCursor_connections (d : Dll) :
    (wrongCursor d).connections = d.connections := rfl

@[simp] theorem wrongCursor_cursors (d : Dll) : (wrongCursor d).cursors = d.cursors := rfl

@[simp] theorem wrongCursor_mySqlErrorNumber (d : Dll) :
    (wrongCursor d).mySqlErrorNumber = d.mySqlErrorNumber := rfl

@[simp] theorem wrongCursor_cursorErrorNumber (d : Dll) :
    (wrongCursor d).cursorErrorNumber = -5 := rfl

/-- The first half of `cMySqlCursorOpen` on a free slot: run the query and store its result. -/
def storeRecordSet (k : Fin maxCursors) (pConnection : ℤ) (pQuery : WStr) : Act σ Unit := do
  modifyDll (·.setCursor k fun c => { c with recordSet := none })
  if ← mySqlExecute host pConnection pQuery then
    let i ← connectionAt pConnection
    let mysql ← readDll fun d => (d.connections i).connection
    let recordSet ← perform (host.mysqlStoreResult mysql) (.storeResult mysql)
    modifyDll (·.setCursor k fun c => { c with recordSet := recordSet })

/-- The second half of `cMySqlCursorOpen` on a free slot. The slot is marked open only when a result
set was stored; without one, the number which is returned depends on `mysql_errno`. -/
def concludeOpen (k : Fin maxCursors) (pConnection : ℤ) : Act σ ℤ := do
  if (← readDll fun d => (d.cursors k).recordSet).isSome then
    modifyDll (·.setCursor k fun c => { c with id := k.val, connection := pConnection })
    return k.val
  else
    let i ← connectionAt pConnection
    let mysql ← readDll fun d => (d.connections i).connection
    let errno ← inspect (host.mysqlErrno mysql) (.errno mysql)
    modifyDll (·.setConnection i fun slot => { slot with mySqlErrorNumber := errno })
    if 0 < errno then
      modifyDll (deleteCursor k.val)
      let text ← inspect (host.mysqlError mysql) (.error mysql)
      modifyDll (·.setConnection i fun slot => { slot with mySqlErrorDescription := text })
      return -1
    else
      return k.val

/-- `cMySqlCursorOpen`. -/
def cMySqlCursorOpen (pConnection : ℤ) (pQuery : WStr) : Act σ ℤ := do
  modifyDll (clearErrors pConnection)
  modifyDll (clearCursorErrors (-1))
  if pConnection = -1 then
    modifyDll noConnection
    return -1
  else
    let cur ← readDll getNewCursorId
    match slotIndex maxCursors cur with
    | some k =>
      storeRecordSet host k pConnection pQuery
      concludeOpen host k pConnection
    | none =>
      let i ← connectionAt pConnection
      modifyDll (·.setConnectionError i (-3) "Maximum number of opened cursors was exceeded.")
      return -1

/-- `cMySqlCursorClose`. -/
def cMySqlCursorClose (pCursorID : ℤ) : Act σ Unit := do
  modifyDll (clearCursorErrors pCursorID)
  match ← readDll (·.openCursor pCursorID) with
  | some k =>
    let recordSet ← readDll fun d => (d.cursors k).recordSet
    command (host.mysqlFreeResult recordSet) (.freeResult recordSet)
    modifyDll (deleteCursor pCursorID)
  | none => modifyDll wrongCursor

/-- `cMySqlCursorRows`. -/
def cMySqlCursorRows (pCursorID : ℤ) : Act σ ℤ := do
  modifyDll (clearCursorErrors pCursorID)
  match ← readDll (·.openCursor pCursorID) with
  | some k =>
    let recordSet ← readDll fun d => (d.cursors k).recordSet
    let rows ← inspect (host.mysqlNumRows recordSet) (.numRows recordSet)
    return intOfUInt64 rows
  | none =>
    modifyDll wrongCursor
    return 0

/-- `cMySqlCursorFetchRow`. At the end of the rows the error is read from whatever connection the
remembered index denotes now. -/
def cMySqlCursorFetchRow (pCursorID : ℤ) : Act σ Bool := do
  modifyDll (clearCursorErrors pCursorID)
  match ← readDll (·.openCursor pCursorID) with
  | some k =>
    let recordSet ← readDll fun d => (d.cursors k).recordSet
    let row ← perform (host.mysqlFetchRow recordSet) (.fetchRow recordSet)
    modifyDll (·.setCursor k fun c => { c with currentRow := row })
    if row.isNone then
      let i ← connectionAt (← readDll fun d => (d.cursors k).connection)
      let mysql ← readDll fun d => (d.connections i).connection
      let errno ← inspect (host.mysqlErrno mysql) (.errno mysql)
      let text ← inspect (host.mysqlError mysql) (.error mysql)
      modifyDll (·.setSlotError k errno text)
      return false
    else
      return true
  | none =>
    modifyDll wrongCursor
    return false

/-- `cMySqlGetRowField`; the column number arrives as an `unsigned int`. The returned text is the
contents of the slot's `Value` buffer, or the empty `WideNull`. -/
def cMySqlGetRowField (pCursorID : ℤ) (pField : ℕ) : Act σ WStr := do
  match ← readDll (·.openCursor pCursorID) with
  | some k =>
    modifyDll (clearCursorErrors pCursorID)
    let recordSet ← readDll fun d => (d.cursors k).recordSet
    let columns ← inspect (host.mysqlNumFields recordSet) (.numFields recordSet)
    if pField < columns then
      modifyDll (·.setCursor k fun c => { c with value := [] })
      match ← readDll fun d => (d.cursors k).currentRow with
      | none => throw .nullRow
      | some row =>
        let text ← inspect (host.rowField row pField) (.rowField row pField)
        let unicode := multiByteToWideChar text
        if unicode.length ≤ maxFieldValue then
          modifyDll (·.setCursor k fun c => { c with value := wideString unicode })
          return wideString unicode
        else
          modifyDll (·.setSlotError k (-6) "Result value is too big")
          return []
    else
      modifyDll (·.setSlotError k (-4) "Wrong number of field.")
      return []
  | none =>
    modifyDll wrongCursor
    return []

/-- `CursorsDeinit`: free every open cursor, from slot `0` upwards. -/
def cursorsDeinit : Act σ Unit := do
  modifyDll (clearCursorErrors (-1))
  (List.finRange maxCursors).forM fun k => do
    if (← readDll fun d => (d.cursors k).id) ≠ -1 then
      let recordSet ← readDll fun d => (d.cursors k).recordSet
      command (host.mysqlFreeResult recordSet) (.freeResult recordSet)
      modifyDll (deleteCursor k.val)

end MqlMySql
