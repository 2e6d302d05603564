import MqlMySql.Library.Buffer
import MqlMySql.Model.CursorCalls

/-!
# The array `Query` and the arrays `Value`

`MySqlExecute` and `cMySqlGetRowField` once more, with the arrays which they convert text into. A conversion
writes as many elements as it was given the size for; a write or a read past the end of an array faults. What
an array holds beforehand is arbitrary.
-/

namespace MqlMySql

open Library

variable {σ α : Type} {n : ℕ}

/-- Store elements from the start of an array. -/
def storeInto (text : List α) (dst : Buffer α n) : Act σ (Buffer α n) :=
  match dst.write text with
  | some dst => pure dst
  | none => throw .bufferOverrun

/-- A conversion whose whole output is `text`, into an array, for a given size. -/
def convertInto (text : List α) (size : ℕ) (dst : Buffer α n) : Act σ (Buffer α n) :=
  storeInto (text.take size) dst

/-- Read an array as a C string. -/
def readString [DecidableEq α] [Zero α] (src : Buffer α n) : Act σ (List α) :=
  match src.read with
  | some text => pure text
  | none => throw .bufferOverrun

variable (host : Host σ)

/-- `MySqlExecute`, with its array `Query`. -/
def mySqlExecuteIn (query : Buffer UInt8 maxQuerySize) (pConnection : ℤ) (pQuery : WStr) : Act σ Bool := do
  modifyDll (clearErrors pConnection)
  if pConnection = -1 then
    modifyDll noConnection
    return false
  else
    let unicodeLen := (wideCharToMultiByte pQuery).length
    if unicodeLen < maxQuerySize then
      let query ← convertInto (wideCharToMultiByte pQuery) unicodeLen query
      let text ← readString query
      let i ← connectionAt pConnection
      let mysql ← readDll fun d => (d.connections i).connection
      let _ ← perform (host.mysqlRealQuery mysql text text.length)
        fun _ => .realQuery mysql text text.length
      let errno ← inspect (host.mysqlErrno mysql) (.errno mysql)
      modifyDll (·.setConnection i fun slot => { slot with mySqlErrorNumber := errno })
      if 0 < (← readDll (·.mySqlErrorNumber)) then
        let text ← inspect (host.mysqlError mysql) (.error mysql)
        modifyDll (·.setConnection i fun slot => { slot with mySqlErrorDescription := text })
        return false
      else
        return true
    else
      modifyDll (·.setMySqlError (-6) "Query is too big")
      return false

/-- `cMySqlGetRowField`, with the array `Value` of the cursor. -/
def cMySqlGetRowFieldIn (value : Buffer WChar maxFieldValue) (pCursorID : ℤ) (pField : ℕ) : Act σ WStr := do
  match ← readDll (·.openCursor pCursorID) with
  | some k =>
    modifyDll (clearCursorErrors pCursorID)
    let recordSet ← readDll fun d => (d.cursors k).recordSet
    let columns ← inspect (host.mysqlNumFields recordSet) (.numFields recordSet)
    if pField < columns then
      let value ← storeInto [0] value
      let text ← readString value
      modifyDll (·.setCursor k fun c => { c with value := text })
      match ← readDll fun d => (d.cursors k).currentRow with
      | none => throw .nullRow
      | some row =>
        let cell ← inspect (host.rowField row pField) (.rowField row pField)
        let unicodeLen := (multiByteToWideChar cell).length
        if unicodeLen ≤ maxFieldValue then
          let value ← convertInto (multiByteToWideChar cell) unicodeLen value
          let text ← readString value
          modifyDll (·.setCursor k fun c => { c with value := text })
          return text
        else
          modifyDll (·.setSlotError k (-6) "Result value is too big")
          return []
    else
      modifyDll (·.setSlotError k (-4) "Wrong number of field.")
      return []
  | none =>
    modifyDll wrongCursor
    return []

end MqlMySql
