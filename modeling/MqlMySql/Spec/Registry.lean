import MqlMySql.Spec.CursorReads

/-!
# The registry of live connections and open cursors

The purpose of the two tables, without error cells, rows and buffers: which connection ids are live
and with which handle, and which cursor ids are open, on which connection and with which record set.
`Registry.Step` says what each exported call may do to it, and `call_refines` that the DLL does
nothing else.

One way of opening a cursor hands out the number of a slot without taking it; it is kept apart
as `Registry.Step.undecided`.
-/

namespace MqlMySql

open Library

/-- What is registered under each id. -/
@[ext] structure Registry where
  connections : Occupancy maxConnections (Option Mysql)
  cursors : Occupancy maxCursors (ℤ × Option MysqlRes)

namespace Registry

/-- Nothing is live and nothing is open. -/
def empty : Registry := ⟨fun _ => none, fun _ => none⟩

/-- A cursor is registered under the slot. -/
def IsOpen (t : Registry) (k : Fin maxCursors) : Prop := t.cursors k ≠ none

/-- Register a connection. -/
def connect (t : Registry) (i : Fin maxConnections) (mysql : Mysql) : Registry :=
  { t with connections := Function.update t.connections i (some (some mysql)) }

/-- Forget a connection. -/
def disconnect (t : Registry) (i : Fin maxConnections) : Registry :=
  { t with connections := Function.update t.connections i none }

/-- Register a cursor on a connection. -/
def openCursor (t : Registry) (k : Fin maxCursors) (p : ℤ) (res : MysqlRes) : Registry :=
  { t with cursors := Function.update t.cursors k (some (p, some res)) }

/-- Forget a cursor. -/
def closeCursor (t : Registry) (k : Fin maxCursors) : Registry :=
  { t with cursors := Function.update t.cursors k none }

/-- The calls which never register or forget anything. -/
def Keeps : Exported → Prop
  | .connect _ | .disconnect _ | .cursorOpen _ _ | .cursorClose _ => False
  | _ => True

/-- What an exported call with a given reply may do to the registry. -/
inductive Step : (e : Exported) → e.Reply → Registry → Registry → Prop
  | connected {t : Registry} {c : Credentials} (i : Fin maxConnections) (mysql : Mysql)
      (free : t.connections i = none) : Step (.connect c) (i.val : ℤ) t (t.connect i mysql)
  | notConnected {t : Registry} {c : Credentials} : Step (.connect c) (-1 : ℤ) t t
  | disconnected {t : Registry} (i : Fin maxConnections) (live : t.connections i ≠ none) :
      Step (.disconnect i.val) () t (t.disconnect i)
  | notDisconnected {t : Registry} {p : ℤ}
      (dead : ∀ i : Fin maxConnections, p = i.val → t.connections i = none) :
      Step (.disconnect p) () t t
  | opened {t : Registry} {q : WStr} (i : Fin maxConnections) (k : Fin maxCursors) (res : MysqlRes)
      (free : t.cursors k = none) :
      Step (.cursorOpen i.val q) (k.val : ℤ) t (t.openCursor k i.val res)
  | notOpened {t : Registry} {p : ℤ} {q : WStr} : Step (.cursorOpen p q) (-1 : ℤ) t t
  | undecided {t : Registry} {q : WStr} (i : Fin maxConnections) (k : Fin maxCursors)
      (free : t.cursors k = none) : Step (.cursorOpen i.val q) (k.val : ℤ) t t
  | closed {t : Registry} (k : Fin maxCursors) (isOpen : t.cursors k ≠ none) :
      Step (.cursorClose k.val) () t (t.closeCursor k)
  | notClosed {t : Registry} {p : ℤ}
      (shut : ∀ k : Fin maxCursors, p = k.val → t.cursors k = none) :
      Step (.cursorClose p) () t t
  | kept {t : Registry} {e : Exported} (r : e.Reply) (keeps : Keeps e) : Step e r t t

end Registry

/-- The calls which register no connection and forget none. -/
def Registry.KeepsConnections : Exported → Prop
  | .connect _ | .disconnect _ => False
  | _ => True

/-- The calls which register no cursor and forget none. -/
def Registry.KeepsCursors : Exported → Prop
  | .cursorOpen _ _ | .cursorClose _ => False
  | _ => True

/-- Only connecting and disconnecting change the registered connections. -/
theorem Registry.Step.connections {e : Exported} {r : e.Reply} {t t' : Registry}
    (h : Registry.Step e r t t') (keeps : KeepsConnections e) : t'.connections = t.connections := by
  cases h with
  | connected => cases keeps
  | disconnected => cases keeps
  | _ => rfl

/-- What disconnecting does to the registry. -/
theorem Registry.Step.disconnect_cases {p : ℤ} {r : (Exported.disconnect p).Reply}
    {t t' : Registry} (h : Registry.Step (.disconnect p) r t t') :
    (∃ i : Fin maxConnections, p = i.val ∧ t.connections i ≠ none ∧ t' = t.disconnect i) ∨
      (∀ i : Fin maxConnections, p = i.val → t.connections i = none) ∧ t' = t := by
  cases h with
  | disconnected i live => exact Or.inl ⟨i, rfl, live, rfl⟩
  | notDisconnected dead => exact Or.inr ⟨dead, rfl⟩
  | kept r keeps => cases keeps

/-- What opening a cursor does to the registry. -/
theorem Registry.Step.open_cases {p : ℤ} {q : WStr} {r : (Exported.cursorOpen p q).Reply}
    {t t' : Registry} (h : Registry.Step (.cursorOpen p q) r t t') :
    (∃ (k : Fin maxCursors) (res : MysqlRes), r = k.val ∧ t.cursors k = none ∧
      t' = t.openCursor k p res) ∨ t' = t := by
  cases h with
  | opened i k res free => exact Or.inl ⟨k, res, rfl, free, rfl⟩
  | notOpened => exact Or.inr rfl
  | undecided => exact Or.inr rfl
  | kept r keeps => cases keeps

/-- Opening a cursor returns no slot which is open already. -/
theorem Registry.Step.open_free {p : ℤ} {q : WStr} {r : (Exported.cursorOpen p q).Reply}
    {t t' : Registry} (h : Registry.Step (.cursorOpen p q) r t t') (k : Fin maxCursors)
    (hr : r = (k.val : ℤ)) : t.cursors k = none := by
  cases h with
  | opened i l res free =>
    obtain rfl : l = k := Fin.ext (Int.ofNat_inj.mp hr)
    exact free
  | notOpened => exact absurd hr.symm (val_ne_neg_one k)
  | undecided i l free =>
    obtain rfl : l = k := Fin.ext (Int.ofNat_inj.mp hr)
    exact free
  | kept r keeps => cases keeps

/-- What closing a cursor does to the registry. -/
theorem Registry.Step.close_cases {p : ℤ} {r : (Exported.cursorClose p).Reply} {t t' : Registry}
    (h : Registry.Step (.cursorClose p) r t t') :
    (∃ k : Fin maxCursors, p = k.val ∧ t.IsOpen k ∧ t' = t.closeCursor k) ∨
      (∀ k : Fin maxCursors, p = k.val → t.cursors k = none) ∧ t' = t := by
  cases h with
  | closed k isOpen => exact Or.inl ⟨k, rfl, isOpen, rfl⟩
  | notClosed shut => exact Or.inr ⟨shut, rfl⟩
  | kept r keeps => cases keeps

/-- Only opening and closing change the registered cursors. -/
theorem Registry.Step.cursors {e : Exported} {r : e.Reply} {t t' : Registry}
    (h : Registry.Step e r t t') (keeps : KeepsCursors e) : t'.cursors = t.cursors := by
  cases h with
  | opened => cases keeps
  | closed => cases keeps
  | _ => rfl

/-- A cursor stays registered as it is unless it is closed. -/
theorem Registry.Step.cursor_stays {e : Exported} {r : e.Reply} {t t' : Registry}
    (h : Registry.Step e r t t') {k : Fin maxCursors} (isOpen : t.IsOpen k)
    (hclose : e ≠ .cursorClose k.val) : t'.cursors k = t.cursors k := by
  cases h with
  | opened i l res free =>
    have hkl : k ≠ l := by
      intro hkl
      subst hkl
      exact isOpen free
    simp [Registry.openCursor, hkl]
  | closed l =>
    have hkl : k ≠ l := by
      intro hkl
      subst hkl
      exact hclose rfl
    simp [Registry.closeCursor, hkl]
  | _ => rfl

namespace Dll

variable (d : Dll)

/-- The registry which the tables represent. -/
def registry : Registry where
  connections := fun i =>
    if (d.connections i).id = -1 then none else some (d.connections i).connection
  cursors := fun k =>
    if (d.cursors k).id = -1 then none else some ((d.cursors k).connection, (d.cursors k).recordSet)

/-- The registry has no entry for a connection slot exactly when the slot is free. -/
theorem registry_connections_eq_none {i : Fin maxConnections} :
    d.registry.connections i = none ↔ (d.connections i).id = -1 := by
  simp [registry]

/-- The registry has no entry for a cursor slot exactly when the slot is free. -/
theorem registry_cursors_eq_none {k : Fin maxCursors} :
    d.registry.cursors k = none ↔ (d.cursors k).id = -1 := by
  simp [registry]

variable {d} in
/-- Two states of the tables represent the same registry when the slots agree on what is registered. -/
theorem registry_congr {d' : Dll}
    (hc : ∀ i, (d'.connections i).id = (d.connections i).id ∧
      ((d.connections i).id ≠ -1 → (d'.connections i).connection = (d.connections i).connection))
    (hk : ∀ k, (d'.cursors k).id = (d.cursors k).id ∧
      ((d.cursors k).id ≠ -1 → (d'.cursors k).connection = (d.cursors k).connection ∧
        (d'.cursors k).recordSet = (d.cursors k).recordSet)) :
    d'.registry = d.registry := by
  ext1
  · funext i
    by_cases hid : (d.connections i).id = -1
    · simp [registry, hc, hid]
    · simp [registry, hc, hid]
  · funext k
    by_cases hid : (d.cursors k).id = -1
    · simp [registry, hk, hid]
    · simp [registry, hk, hid]

/-- Errors are not registered; so the DLL-wide connection error may be written. -/
@[simp] theorem registry_setMySqlError (number : ℤ) (description : String) :
    (d.setMySqlError number description).registry = d.registry := rfl

/-- The DLL-wide cursor error is not registered. -/
@[simp] theorem registry_setCursorError (number : ℤ) (description : String) :
    (d.setCursorError number description).registry = d.registry := rfl

/-- The refusal of a connection registers nothing. -/
@[simp] theorem registry_noConnection : (noConnection d).registry = d.registry := rfl

/-- The refusal of a cursor registers nothing. -/
@[simp] theorem registry_wrongCursor : (wrongCursor d).registry = d.registry := rfl

/-- The error of a connection is not registered. -/
@[simp] theorem registry_setConnectionError (i : Fin maxConnections) (number : ℤ)
    (description : String) : (d.setConnectionError i number description).registry = d.registry :=
  registry_congr (fun _ => by simp) fun _ => by simp

/-- The error of a cursor is not registered. -/
@[simp] theorem registry_setSlotError (k : Fin maxCursors) (number : ℤ) (description : String) :
    (d.setSlotError k number description).registry = d.registry :=
  registry_congr (fun _ => by simp) fun _ => by simp

/-- Clearing the errors of a connection registers nothing. -/
@[simp] theorem registry_clearErrors (p : ℤ) : (clearErrors p d).registry = d.registry :=
  registry_congr (fun _ => by simp) fun _ => by simp

/-- Clearing the errors of a cursor registers nothing. -/
@[simp] theorem registry_clearCursorErrors (p : ℤ) :
    (clearCursorErrors p d).registry = d.registry := by
  unfold clearCursorErrors
  split
  · rfl
  · split <;> simp

/-- Changing a connection slot without its id and handle does not show in the registry. -/
theorem registry_setConnection_of {i : Fin maxConnections} {f : Connection → Connection}
    (hid : ∀ c, (f c).id = c.id) (hc : ∀ c, (f c).connection = c.connection) :
    (d.setConnection i f).registry = d.registry := by
  refine registry_congr (fun j => ?_) fun _ => by simp
  by_cases hji : j = i
  · simp [hji, hid, hc]
  · simp [hji]

/-- Changing a free connection slot does not show in the registry as long as it stays free. -/
theorem registry_setConnection_free {i : Fin maxConnections} {f : Connection → Connection}
    (free : (d.connections i).id = -1) (hid : (f (d.connections i)).id = -1) :
    (d.setConnection i f).registry = d.registry := by
  refine registry_congr (fun j => ?_) fun _ => by simp
  by_cases hji : j = i
  · simp [hji, hid, free]
  · simp [hji]

/-- Changing a cursor slot without its id, connection and record set does not show. -/
theorem registry_setCursor_of {k : Fin maxCursors} {f : Cursor → Cursor}
    (hid : ∀ c, (f c).id = c.id) (hc : ∀ c, (f c).connection = c.connection)
    (hr : ∀ c, (f c).recordSet = c.recordSet) :
    (d.setCursor k f).registry = d.registry := by
  refine registry_congr (fun _ => by simp) fun j => ?_
  by_cases hjk : j = k
  · simp [hjk, hid, hc, hr]
  · simp [hjk]

/-- Changing a free cursor slot does not show in the registry as long as it stays free. -/
theorem registry_setCursor_free {k : Fin maxCursors} {f : Cursor → Cursor}
    (free : (d.cursors k).id = -1) (hid : (f (d.cursors k)).id = -1) :
    (d.setCursor k f).registry = d.registry := by
  refine registry_congr (fun _ => by simp) fun j => ?_
  by_cases hjk : j = k
  · simp [hjk, hid, free]
  · simp [hjk]

/-- Giving a connection slot an id registers the handle it holds. -/
theorem registry_connect {i : Fin maxConnections} (mysql : Mysql)
    (handle : (d.connections i).connection = some mysql) :
    (d.setConnection i fun slot => { slot with id := i.val }).registry =
      d.registry.connect i mysql := by
  ext1
  · funext j
    by_cases hji : j = i
    · subst hji
      simp [registry, Registry.connect, handle, val_ne_neg_one]
    · simp [registry, Registry.connect, hji]
  · rfl

/-- Taking the id from a connection slot forgets it. -/
theorem registry_disconnect (i : Fin maxConnections) :
    (d.setConnection i fun slot => { slot with id := -1 }).registry = d.registry.disconnect i := by
  ext1
  · funext j
    by_cases hji : j = i
    · subst hji
      simp [registry, Registry.disconnect]
    · simp [registry, Registry.disconnect, hji]
  · rfl

/-- Giving a cursor slot an id registers the record set it holds. -/
theorem registry_openCursor {k : Fin maxCursors} {p : ℤ} (res : MysqlRes)
    (recordSet : (d.cursors k).recordSet = some res) :
    (d.setCursor k fun c => { c with id := k.val, connection := p }).registry =
      d.registry.openCursor k p res := by
  ext1
  · rfl
  · funext j
    by_cases hjk : j = k
    · subst hjk
      simp [registry, Registry.openCursor, recordSet, val_ne_neg_one]
    · simp [registry, Registry.openCursor, hjk]

/-- Taking the id from a cursor slot forgets it. -/
theorem registry_closeCursor (k : Fin maxCursors) :
    (d.setCursor k fun c => { c with id := -1 }).registry = d.registry.closeCursor k := by
  ext1
  · rfl
  · funext j
    by_cases hjk : j = k
    · subst hjk
      simp [registry, Registry.closeCursor]
    · simp [registry, Registry.closeCursor, hjk]

end Dll

/-- The live connections can be read off the registry. -/
theorem liveConnection_of_registry {d d' : Dll}
    (h : d'.registry.connections = d.registry.connections) (p : ℤ) :
    d'.liveConnection p = d.liveConnection p := by
  unfold Dll.liveConnection
  congr 1
  funext i
  have hi : d'.registry.connections i = none ↔ d.registry.connections i = none := by rw [h]
  rw [Dll.registry_connections_eq_none, Dll.registry_connections_eq_none] at hi
  simp [hi]

/-- A registered cursor is open. -/
theorem openCursor_of_registry {d : Dll} {k : Fin maxCursors} (h : d.registry.cursors k ≠ none) :
    d.openCursor k.val = some k := by
  rw [openCursor_val, if_neg]
  intro hid
  exact h (d.registry_cursors_eq_none.mpr hid)

/-- The number read for a live id, after a call which registers no connection, is the slot's. -/
theorem number_of_registry {d d' : Dll} {i : Fin maxConnections}
    (live : d.liveConnection i.val ≠ none)
    (h : d'.registry.connections = d.registry.connections) :
    cGetMySqlErrorNumber i.val d' = (d'.connections i).mySqlErrorNumber := by
  obtain ⟨j, hj⟩ := Option.ne_none_iff_exists'.mp live
  obtain ⟨hij, hid⟩ := liveConnection_eq_some_iff.mp hj
  obtain rfl : i = j := Fin.ext (by omega)
  exact cGetMySqlErrorNumber_of_live ((liveConnection_of_registry h _).trans hj)

end MqlMySql
