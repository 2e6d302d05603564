import MqlMySql.Model.Exported

/-!
# Reading and clearing the error cells

What the cell functions of the DLL do, in the form in which the later proofs use them: on a slot's
own number clearing writes that slot's cell, on `-1` the DLL-wide one, and reading is routed by
whether the slot is live at that moment.
-/

namespace MqlMySql

open Library

variable (d : Dll)

/-- With the number `-1`, the DLL-wide connection error is cleared. -/
@[simp] theorem clearErrors_neg_one : clearErrors (-1) d = d.setMySqlError 0 "No errors." := by
  rw [clearErrors, if_pos rfl]

/-- With the number of a slot, the error of the slot is cleared. -/
@[simp] theorem clearErrors_val (i : Fin maxConnections) :
    clearErrors i.val d = d.setConnectionError i 0 "No errors." := by
  simp [clearErrors, val_ne_neg_one]

/-- With the number `-1`, the DLL-wide cursor error is cleared. -/
@[simp] theorem clearCursorErrors_neg_one :
    clearCursorErrors (-1) d = d.setCursorError 0 "No errors." := by
  rw [clearCursorErrors, if_pos rfl]

/-- With the number of a slot, the error of the slot is cleared. -/
@[simp] theorem clearCursorErrors_val (k : Fin maxCursors) :
    clearCursorErrors k.val d = d.setSlotError k 0 "No errors." := by
  simp [clearCursorErrors, val_ne_neg_one]

/-- Giving a connection slot back sets its id to `-1` and keeps the rest, the handle included. -/
@[simp] theorem deleteConnection_val (i : Fin maxConnections) :
    deleteConnection i.val d = d.setConnection i fun c => { c with id := -1 } := by
  simp [deleteConnection]

/-- Giving a cursor slot back sets its id to `-1` and keeps the rest, the record set included. -/
@[simp] theorem deleteCursor_val (k : Fin maxCursors) :
    deleteCursor k.val d = d.setCursor k fun c => { c with id := -1 } := by
  simp [deleteCursor]

section ClearErrors

variable (p : ℤ)

/-- Clearing errors writes at most one connection cell, and nothing but its error. -/
theorem clearErrors_connections (j : Fin maxConnections) :
    (clearErrors p d).connections j =
      if p = j.val then ⟨(d.connections j).id, (d.connections j).connection, 0, "No errors."⟩
      else d.connections j := by
  unfold clearErrors
  by_cases hp : p = -1
  · subst hp
    rw [if_pos rfl, if_neg (val_ne_neg_one j).symm]
    rfl
  · cases hi : slotIndex maxConnections p with
    | none =>
      have hne : p ≠ j.val := by
        rintro rfl
        simp at hi
      simp [hp, hne]
    | some i =>
      obtain rfl := slotIndex_eq_some_iff.mp hi
      by_cases hij : j = i
      · subst hij
        simp [hp, Dll.setConnectionError]
      · have hne : (i.val : ℤ) ≠ j.val := by
          intro h
          exact hij (Fin.ext (by omega))
        simp [hp, hij, hne, Dll.setConnectionError]

/-- Clearing the errors keeps the ids of the connections. -/
@[simp] theorem clearErrors_id (j : Fin maxConnections) :
    ((clearErrors p d).connections j).id = (d.connections j).id := by
  rw [clearErrors_connections]
  split <;> rfl

/-- Clearing the errors keeps the handles. -/
@[simp] theorem clearErrors_connection (j : Fin maxConnections) :
    ((clearErrors p d).connections j).connection = (d.connections j).connection := by
  rw [clearErrors_connections]
  split <;> rfl

/-- Clearing the errors of a connection keeps the cursors. -/
@[simp] theorem clearErrors_cursors : (clearErrors p d).cursors = d.cursors := by
  unfold clearErrors
  split
  · rfl
  · split <;> rfl

/-- Clearing the errors of a connection keeps the DLL-wide cursor number. -/
@[simp] theorem clearErrors_cursorErrorNumber :
    (clearErrors p d).cursorErrorNumber = d.cursorErrorNumber := by
  unfold clearErrors
  split
  · rfl
  · split <;> rfl

/-- Clearing twice is clearing once. -/
theorem clearErrors_clearErrors : clearErrors p (clearErrors p d) = clearErrors p d := by
  by_cases hp : p = -1
  · subst hp
    rfl
  · cases hi : slotIndex maxConnections p with
    | none => simp [clearErrors, hp, hi]
    | some i => simp [clearErrors, hp, hi, Dll.setConnectionError, Dll.setConnection]

/-- Only `-1` clears the DLL-wide connection number. -/
theorem clearErrors_mySqlErrorNumber (hp : p ≠ -1) :
    (clearErrors p d).mySqlErrorNumber = d.mySqlErrorNumber := by
  unfold clearErrors
  rw [if_neg hp]
  split <;> rfl

/-- Clearing the errors of a cursor keeps the connections. -/
@[simp] theorem clearCursorErrors_connections :
    (clearCursorErrors p d).connections = d.connections := by
  unfold clearCursorErrors
  split
  · rfl
  · split <;> rfl

/-- Clearing the errors of a cursor keeps the DLL-wide connection number. -/
@[simp] theorem clearCursorErrors_mySqlErrorNumber :
    (clearCursorErrors p d).mySqlErrorNumber = d.mySqlErrorNumber := by
  unfold clearCursorErrors
  split
  · rfl
  · split <;> rfl

end ClearErrors

section Liveness

variable {d}

/-- An id is live exactly when it is the number of a slot whose `id` is set. -/
theorem liveConnection_eq_some_iff {p : ℤ} {i : Fin maxConnections} :
    d.liveConnection p = some i ↔ p = i.val ∧ (d.connections i).id ≠ -1 := by
  simp [Dll.liveConnection, Option.filter_eq_some_iff, slotIndex_eq_some_iff]

/-- A live id is the number of a live slot. -/
theorem exists_slot_of_live {p : ℤ} (h : d.liveConnection p ≠ none) :
    ∃ i : Fin maxConnections, p = i.val ∧ (d.connections i).id ≠ -1 := by
  obtain ⟨i, hi⟩ := Option.ne_none_iff_exists'.mp h
  exact ⟨i, liveConnection_eq_some_iff.mp hi⟩

/-- A cursor id is open exactly when it is the number of a slot whose `id` is set. -/
theorem openCursor_eq_some_iff {p : ℤ} {k : Fin maxCursors} :
    d.openCursor p = some k ↔ p = k.val ∧ (d.cursors k).id ≠ -1 := by
  simp [Dll.openCursor, Option.filter_eq_some_iff, slotIndex_eq_some_iff]

/-- No connection is live at `-1`. -/
@[simp] theorem liveConnection_neg_one : d.liveConnection (-1) = none := by
  simp [Dll.liveConnection]

/-- No cursor is open at `-1`. -/
@[simp] theorem openCursor_neg_one : d.openCursor (-1) = none := by
  simp [Dll.openCursor]

/-- The slot numbered `i` is live exactly when its `id` is set. -/
theorem liveConnection_val (i : Fin maxConnections) :
    d.liveConnection i.val = if (d.connections i).id = -1 then none else some i := by
  simp [Dll.liveConnection, Option.filter]

/-- The slot numbered `k` is open exactly when its `id` is set. -/
theorem openCursor_val (k : Fin maxCursors) :
    d.openCursor k.val = if (d.cursors k).id = -1 then none else some k := by
  simp [Dll.openCursor, Option.filter]

/-- Liveness depends on the slots' ids alone. -/
theorem liveConnection_congr {d' : Dll} (h : ∀ i, (d'.connections i).id = (d.connections i).id)
    (p : ℤ) : d'.liveConnection p = d.liveConnection p := by
  unfold Dll.liveConnection
  simp only [h]

/-- Being open depends on the slots' ids alone. -/
theorem openCursor_congr {d' : Dll} (h : ∀ k, (d'.cursors k).id = (d.cursors k).id)
    (p : ℤ) : d'.openCursor p = d.openCursor p := by
  unfold Dll.openCursor
  simp only [h]

/-- The number read for a live connection is its slot's. -/
theorem cGetMySqlErrorNumber_of_live {p : ℤ} {i : Fin maxConnections}
    (h : d.liveConnection p = some i) :
    cGetMySqlErrorNumber p d = (d.connections i).mySqlErrorNumber := by
  simp [cGetMySqlErrorNumber, h]

/-- The number read for any other id is the DLL-wide one. -/
theorem cGetMySqlErrorNumber_of_dead {p : ℤ} (h : d.liveConnection p = none) :
    cGetMySqlErrorNumber p d = d.mySqlErrorNumber := by
  simp [cGetMySqlErrorNumber, h]

/-- The number read for an open cursor is its slot's. -/
theorem cGetCursorErrorNumber_of_open {p : ℤ} {k : Fin maxCursors}
    (h : d.openCursor p = some k) :
    cGetCursorErrorNumber p d = (d.cursors k).cursorErrorNumber := by
  simp [cGetCursorErrorNumber, h]

/-- The number read for any other cursor id is the DLL-wide one. -/
theorem cGetCursorErrorNumber_of_closed {p : ℤ} (h : d.openCursor p = none) :
    cGetCursorErrorNumber p d = d.cursorErrorNumber := by
  simp [cGetCursorErrorNumber, h]

/-- A new connection id is `-1` or the number of a slot which is not live. -/
theorem getNewConnectionId_cases (d : Dll) :
    getNewConnectionId d = -1 ∨
      ∃ i : Fin maxConnections, getNewConnectionId d = i.val ∧ (d.connections i).id = -1 := by
  simpa [getNewConnectionId] using firstSlot_cases fun i => decide ((d.connections i).id = -1)

/-- A new cursor id is `-1` or the number of a slot which is not open. -/
theorem getNewCursorId_cases (d : Dll) :
    getNewCursorId d = -1 ∨
      ∃ k : Fin maxCursors, getNewCursorId d = k.val ∧ (d.cursors k).id = -1 := by
  simpa [getNewCursorId] using firstSlot_cases fun k => decide ((d.cursors k).id = -1)

/-- The search for a connection slot depends on the slots' ids alone. -/
theorem getNewConnectionId_congr {d' : Dll}
    (h : ∀ i, (d'.connections i).id = (d.connections i).id) :
    getNewConnectionId d' = getNewConnectionId d := by
  unfold getNewConnectionId
  simp only [h]

/-- The search for a cursor slot depends on the slots' ids alone. -/
theorem getNewCursorId_congr {d' : Dll} (h : ∀ k, (d'.cursors k).id = (d.cursors k).id) :
    getNewCursorId d' = getNewCursorId d := by
  unfold getNewCursorId
  simp only [h]

end Liveness

end MqlMySql
