import MqlMySql.Library.Run
import MqlMySql.Model.CursorCalls

/-!
# The exported interface and its runs

The functions which `MQLMySQL.def` exports, as one type of calls with typed replies. A run of the
DLL starts from the state after process attach and executes calls one after the other.

`cMySqlVersion` and `ReadIni` are left out: they read and write no connection, cursor or error cell. `ReadIni` takes
the mutex as well, around a buffer of its own.
-/

namespace MqlMySql

open Library

/-- The exported calls with their arguments. -/
inductive Exported
  | connect (credentials : Credentials)
  | disconnect (pConnection : ℤ)
  | execute (pConnection : ℤ) (pQuery : WStr)
  | cursorOpen (pConnection : ℤ) (pQuery : WStr)
  | cursorClose (pCursorID : ℤ)
  | cursorRows (pCursorID : ℤ)
  | cursorFetchRow (pCursorID : ℤ)
  | getRowField (pCursorID : ℤ) (pField : ℕ)
  | rowsAffected (pConnection : ℤ)
  | getMySqlErrorNumber (pConnection : ℤ)
  | getMySqlErrorDescription (pConnection : ℤ)
  | getCursorErrorNumber (pCursor : ℤ)
  | getCursorErrorDescription (pCursor : ℤ)
deriving DecidableEq, Repr

/-- The type of a call's return value. -/
abbrev Exported.Reply : Exported → Type
  | connect _ | cursorOpen _ _ | cursorRows _ | rowsAffected _ => ℤ
  | getMySqlErrorNumber _ | getCursorErrorNumber _ => ℤ
  | execute _ _ | cursorFetchRow _ => Bool
  | disconnect _ | cursorClose _ => Unit
  | getRowField _ _ => WStr
  | getMySqlErrorDescription _ | getCursorErrorDescription _ => String

/-- The id passed to a connection call is live. -/
def OnLiveId (d : Dll) : Exported → Prop
  | .execute p _ | .cursorOpen p _ | .disconnect p | .rowsAffected p => d.liveConnection p ≠ none
  | _ => True

instance (d : Dll) : (e : Exported) → Decidable (OnLiveId d e)
  | .execute _ _ | .cursorOpen _ _ | .disconnect _ | .rowsAffected _ =>
    inferInstanceAs (Decidable (_ ≠ _))
  | .connect _ | .cursorClose _ | .cursorRows _ | .cursorFetchRow _ | .getRowField _ _ =>
    isTrue trivial
  | .getMySqlErrorNumber _ | .getMySqlErrorDescription _ | .getCursorErrorNumber _
  | .getCursorErrorDescription _ => isTrue trivial

variable {σ : Type}

/-- Execute one exported call; result loops get `turns` turns. -/
def call (host : Host σ) (turns : ℕ) : (e : Exported) → Act σ e.Reply
  | .connect credentials => cMySqlConnect host credentials
  | .disconnect pConnection => cMySqlDisconnect host pConnection
  | .execute pConnection pQuery => cMySqlExecute host turns pConnection pQuery
  | .cursorOpen pConnection pQuery => cMySqlCursorOpen host pConnection pQuery
  | .cursorClose pCursorID => cMySqlCursorClose host pCursorID
  | .cursorRows pCursorID => cMySqlCursorRows host pCursorID
  | .cursorFetchRow pCursorID => cMySqlCursorFetchRow host pCursorID
  | .getRowField pCursorID pField => cMySqlGetRowField host pCursorID pField
  | .rowsAffected pConnection => cMySqlRowsAffected host pConnection
  | .getMySqlErrorNumber pConnection => readDll (cGetMySqlErrorNumber pConnection)
  | .getMySqlErrorDescription pConnection => readDll (cGetMySqlErrorDescription pConnection)
  | .getCursorErrorNumber pCursor => readDll (cGetCursorErrorNumber pCursor)
  | .getCursorErrorDescription pCursor => readDll (cGetCursorErrorDescription pCursor)

/-- `DLL_PROCESS_ATTACH`, for a library in the given state. -/
def attach (library : σ) : World σ := ⟨Dll.attached, library, []⟩

/-- `DLL_PROCESS_DETACH`. -/
def detach (host : Host σ) : Act σ Unit := do
  connectionsDeinit host
  cursorsDeinit host

/-- The step function of runs of the DLL. -/
abbrev dllStep (host : Host σ) (turns : ℕ) (e : Exported) (w : World σ) :
    Except Fault (e.Reply × World σ) :=
  (call host turns e).run w

/-- One executed exported call. -/
abbrev Called (σ : Type) := Recorded (World σ) Exported Exported.Reply

/-- A run of exported calls from process attach. -/
abbrev DllRun (host : Host σ) (turns : ℕ) (library : σ) (tr : List (Called σ)) (w : World σ) :
    Prop :=
  Run (dllStep host turns) (attach library) tr w

end MqlMySql
