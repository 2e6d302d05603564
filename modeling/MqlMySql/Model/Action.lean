import MqlMySql.Library.Fallible
import MqlMySql.Model.DllState

/-!
# Actions of the DLL

An action runs on the globals of the DLL, the state of the library, and the record of the calls
made to it, most recent first. It either returns or faults: a fault stands for behaviour from which
the process does not come back, or, for the result loop, for a call that has not returned yet.
-/

namespace MqlMySql

open Library

/-- Why a call does not return. -/
inductive Fault
  /-- `Connections` is indexed outside its bounds. -/
  | indexOutOfBounds
  /-- `CurrentRow` is dereferenced while it is null. -/
  | nullRow
  /-- A local buffer is written past its end. -/
  | bufferOverrun
  /-- The C runtime rejects the arguments of `sprintf_s` and ends the process. -/
  | invalidParameter
  /-- The result loop needs more turns than it was given. -/
  | stillRunning
deriving DecidableEq, Repr

/-- Everything a call can read or change. -/
structure World (σ : Type) where
  dll : Dll
  library : σ
  calls : List LibraryCall

/-- The code of the DLL, running over a library with state `σ`. -/
abbrev Act (σ : Type) : Type → Type := StateT (World σ) (Except Fault)

variable {σ α : Type}

namespace World

/-- The world after a change to the globals of the DLL. -/
def onDll (f : Dll → Dll) (w : World σ) : World σ := { w with dll := f w.dll }

/-- The world after a library call. -/
def performed (f : σ → α × σ) (record : α → LibraryCall) (w : World σ) : World σ :=
  { w with library := (f w.library).2, calls := record (f w.library).1 :: w.calls }

/-- The world after a library call that leaves the library's state alone. -/
def inspected (record : LibraryCall) (w : World σ) : World σ :=
  { w with calls := record :: w.calls }

/-- The world after a library call that returns nothing. -/
def commanded (f : σ → σ) (record : LibraryCall) (w : World σ) : World σ :=
  { w with library := f w.library, calls := record :: w.calls }

/-- The handle stored in a connection slot. -/
def handle (w : World σ) (i : Fin maxConnections) : Option Mysql := (w.dll.connections i).connection

section Projections

variable (w : World σ) (g : Dll → Dll) (f : σ → α × σ) (record : α → LibraryCall) (h : σ → σ)
  (c : LibraryCall)

@[simp] theorem onDll_dll : (w.onDll g).dll = g w.dll := rfl
@[simp] theorem onDll_library : (w.onDll g).library = w.library := rfl
@[simp] theorem onDll_calls : (w.onDll g).calls = w.calls := rfl
@[simp] theorem performed_dll : (w.performed f record).dll = w.dll := rfl
@[simp] theorem performed_library : (w.performed f record).library = (f w.library).2 := rfl
@[simp] theorem performed_calls :
    (w.performed f record).calls = record (f w.library).1 :: w.calls := rfl
@[simp] theorem inspected_dll : (w.inspected c).dll = w.dll := rfl
@[simp] theorem inspected_library : (w.inspected c).library = w.library := rfl
@[simp] theorem inspected_calls : (w.inspected c).calls = c :: w.calls := rfl
@[simp] theorem commanded_dll : (w.commanded h c).dll = w.dll := rfl
@[simp] theorem commanded_library : (w.commanded h c).library = h w.library := rfl
@[simp] theorem commanded_calls : (w.commanded h c).calls = c :: w.calls := rfl

variable (i : Fin maxConnections)

@[simp] theorem onDll_handle : (w.onDll g).handle i = ((g w.dll).connections i).connection := rfl
@[simp] theorem performed_handle : (w.performed f record).handle i = w.handle i := rfl
@[simp] theorem inspected_handle : (w.inspected c).handle i = w.handle i := rfl
@[simp] theorem commanded_handle : (w.commanded h c).handle i = w.handle i := rfl

end Projections

end World

/-- Change the globals of the DLL. -/
def modifyDll (f : Dll → Dll) : Act σ Unit := modify (World.onDll f)

/-- Read the globals of the DLL. -/
def readDll (f : Dll → α) : Act σ α := do return f (← get).dll

/-- Call a library function and record the call with its answer. -/
def perform (f : σ → α × σ) (record : α → LibraryCall) : Act σ α := do
  let w ← get
  set (w.performed f record)
  return (f w.library).1

/-- Call a library function which only reads the library's state. -/
def inspect (f : σ → α) (record : LibraryCall) : Act σ α := do
  let w ← get
  set (w.inspected record)
  return f w.library

/-- Call a library function which returns nothing. -/
def command (f : σ → σ) (record : LibraryCall) : Act σ Unit := modify (World.commanded f record)

/-- The slot which an index expression on `Connections` denotes. -/
def connectionAt (pConnection : ℤ) : Act σ (Fin maxConnections) :=
  match slotIndex maxConnections pConnection with
  | some i => pure i
  | none => throw .indexOutOfBounds

/-- A change of the memory, run. -/
@[simp] theorem run_modifyDll (f : Dll → Dll) (w : World σ) :
    (modifyDll f).run w = .ok ((), w.onDll f) := rfl

/-- A read of the memory, run. -/
@[simp] theorem run_readDll (f : Dll → α) (w : World σ) :
    (readDll f).run w = .ok (f w.dll, w) := rfl

/-- A library call with an answer, run. -/
@[simp] theorem run_perform (f : σ → α × σ) (record : α → LibraryCall) (w : World σ) :
    (perform f record).run w = .ok ((f w.library).1, w.performed f record) := rfl

/-- A library call which only asks, run. -/
@[simp] theorem run_inspect (f : σ → α) (record : LibraryCall) (w : World σ) :
    (inspect f record).run w = .ok (f w.library, w.inspected record) := rfl

/-- A library call without an answer, run. -/
@[simp] theorem run_command (f : σ → σ) (record : LibraryCall) (w : World σ) :
    (command f record).run w = .ok ((), w.commanded f record) := rfl

/-- Addressing a slot of the table, run. -/
@[simp] theorem run_connectionAt_val (i : Fin maxConnections) (w : World σ) :
    (connectionAt (i.val : ℤ)).run w = .ok (i, w) := by
  simp [connectionAt]

/-- An index outside the table faults. -/
theorem run_connectionAt_none {p : ℤ} (h : slotIndex maxConnections p = none) (w : World σ) :
    (connectionAt p).run w = .error .indexOutOfBounds := by
  simp [connectionAt, h]

end MqlMySql
