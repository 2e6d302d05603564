import MqlMySql.Spec.Refinement

/-!
# What is read through a cursor

A cursor slot apart from its error and its value buffer: `Dll.reading`. Only fetching, opening and closing
change it, each for one slot, and none of them but fetching changes the current row.
-/

namespace MqlMySql

open Library

/-- The part of a cursor slot which decides what is read through it. -/
structure Reading where
  id : ℤ
  connection : ℤ
  recordSet : Option MysqlRes
  currentRow : Option MysqlRow

/-- What is read through a cursor slot. -/
def Dll.reading (d : Dll) (k : Fin maxCursors) : Reading :=
  ⟨(d.cursors k).id, (d.cursors k).connection, (d.cursors k).recordSet, (d.cursors k).currentRow⟩

section Projections

variable (d : Dll) (k l : Fin maxCursors)

/-- Writing an error keeps the reading, also that of the slot itself. -/
@[simp] theorem reading_setSlotError (number : ℤ) (description : String) :
    (d.setSlotError l number description).reading k = d.reading k := by
  simp [Dll.reading]

/-- The refusal of a cursor keeps every reading. -/
@[simp] theorem reading_wrongCursor : (wrongCursor d).reading k = d.reading k := rfl

/-- Clearing errors keeps every reading. -/
@[simp] theorem reading_clearCursorErrors (p : ℤ) :
    (clearCursorErrors p d).reading k = d.reading k := by
  unfold clearCursorErrors
  split
  · rfl
  · split
    · exact reading_setSlotError d k _ 0 "No errors."
    · rfl

variable {d k l} in
/-- Changing another slot. -/
theorem reading_setCursor_of_ne (hkl : k ≠ l) (f : Cursor → Cursor) :
    (d.setCursor l f).reading k = d.reading k := by
  simp [Dll.reading, hkl]

/-- Changing the value buffer. -/
@[simp] theorem reading_setCursor_value (value : WStr) :
    (d.setCursor l fun c => { c with value := value }).reading k = d.reading k := by
  by_cases hkl : k = l
  · subst hkl
    simp [Dll.reading]
  · exact reading_setCursor_of_ne hkl _

variable {d k} in
/-- The reading depends on the cursor slots alone. -/
theorem reading_congr {d' : Dll} (h : d'.cursors = d.cursors) : d'.reading k = d.reading k := by
  rw [Dll.reading, Dll.reading, h]

/-- Clearing the errors of a connection keeps every reading. -/
@[simp] theorem reading_clearErrors (p : ℤ) : (clearErrors p d).reading k = d.reading k :=
  reading_congr (clearErrors_cursors d p)

/-- The DLL-wide cursor error is in no reading. -/
@[simp] theorem reading_setCursorError (number : ℤ) (description : String) :
    (d.setCursorError number description).reading k = d.reading k := rfl

/-- The refusal of a connection keeps every reading. -/
@[simp] theorem reading_noConnection : (noConnection d).reading k = d.reading k := rfl

/-- A connection slot is in no reading. -/
@[simp] theorem reading_setConnection (i : Fin maxConnections) (f : Connection → Connection) :
    (d.setConnection i f).reading k = d.reading k := rfl

/-- The error of a connection is in no reading. -/
@[simp] theorem reading_setConnectionError (i : Fin maxConnections) (number : ℤ)
    (description : String) : (d.setConnectionError i number description).reading k = d.reading k :=
  rfl

end Projections

variable {σ : Type} {host : Host σ} {w w' : World σ} {k : Fin maxCursors}

/-- Executing a query. -/
theorem ExecuteOutcome.cursors {turns : ℕ} {p : ℤ} {q : WStr} {b : Bool}
    (h : ExecuteOutcome host turns p q w b w') : w'.dll.cursors = w.dll.cursors := by
  cases h with
  | rejected query => exact query.cursors
  | failed i hp fits quiet drained => simp [drainResults_dll host drained, World.used]
  | succeeded i hp fits quiet drained => simp [drainResults_dll host drained, World.used]

/-- Connecting. -/
theorem ConnectOutcome.cursors {c : Credentials} {r : ℤ} (h : ConnectOutcome host c w r w') :
    w'.dll.cursors = w.dll.cursors := by
  cases h <;> simp [World.asked]

/-- Disconnecting. -/
theorem DisconnectOutcome.cursors {p : ℤ} (h : DisconnectOutcome host p w w') :
    w'.dll.cursors = w.dll.cursors := by
  cases h with
  | dead => simp
  | closed i hp =>
    subst hp
    simp

/-- Reading a field. -/
theorem FieldOutcome.reading {p : ℤ} {f : ℕ} {text : WStr} (h : FieldOutcome host p f w text w') :
    w'.dll.reading k = w.dll.reading k := by
  cases h <;> simp [World.measured]

/-- Counting the rows. -/
theorem RowsOutcome.reading {p r : ℤ} (h : RowsOutcome host p w r w') :
    w'.dll.reading k = w.dll.reading k := by
  cases h <;> simp

/-- The calls which change no reading at all. -/
def KeepsReadings : Exported → Prop
  | .cursorOpen _ _ | .cursorClose _ | .cursorFetchRow _ => False
  | _ => True

/-- A call which reads, opens and closes no cursor keeps every reading. -/
theorem call_keeps_readings {turns : ℕ} {e : Exported} {r : e.Reply}
    (h : (call host turns e).run w = .ok (r, w')) (keeps : KeepsReadings e) :
    w'.dll.reading k = w.dll.reading k := by
  cases e with
  | connect c => exact reading_congr (cMySqlConnect_outcome host h).cursors
  | disconnect p => exact reading_congr (cMySqlDisconnect_outcome host h).cursors
  | execute p q => exact reading_congr (cMySqlExecute_outcome host h).cursors
  | cursorRows p => exact (cMySqlCursorRows_outcome host h).reading
  | getRowField p f => exact (cMySqlGetRowField_outcome host h).reading
  | rowsAffected p =>
    apply reading_congr
    cases cMySqlRowsAffected_outcome host h <;> rfl
  | getMySqlErrorNumber p | getMySqlErrorDescription p | getCursorErrorNumber p
  | getCursorErrorDescription p =>
    cases h
    rfl
  | cursorOpen | cursorClose | cursorFetchRow => cases keeps

/-- The reading of a slot from which a row was fetched. -/
theorem World.fetched_reading : (w.fetched host k).dll.reading k =
    { w.dll.reading k with currentRow := (host.mysqlFetchRow (w.recordSet k) w.library).1 } := by
  simp [World.fetched, Dll.reading]

section Opening

variable {i : Fin maxConnections} {q : WStr} {l : Fin maxCursors}

/-- The first half of an opening keeps the readings of the other slots. -/
theorem StoreOutcome.reading_of_ne {rs : Option MysqlRes} (h : StoreOutcome host i q l w rs w')
    (hkl : k ≠ l) : w'.dll.reading k = w.dll.reading k := by
  have hopening : (w.opening i.val l).dll.reading k = w.dll.reading k := by
    rw [World.opening, World.onDll_dll, reading_setCursor_of_ne hkl, reading_clearCursorErrors,
      reading_clearErrors]
  cases h with
  | rejected query => rw [reading_congr query.cursors, hopening]
  | stored =>
    rw [World.onDll_dll, reading_setCursor_of_ne hkl, World.performed_dll,
      reading_congr (World.sent_cursors host i q _), hopening]

/-- The first half of an opening keeps the current row, which a slot has until it is fetched from again. -/
theorem StoreOutcome.currentRow {rs : Option MysqlRes} (h : StoreOutcome host i q l w rs w') :
    (w'.dll.cursors k).currentRow = (w.dll.cursors k).currentRow := by
  by_cases hkl : k = l
  · subst hkl
    have hopening : ((w.opening i.val k).dll.cursors k).currentRow = (w.dll.cursors k).currentRow := by
      simp [World.opening]
    cases h with
    | rejected query => rw [query.cursors, hopening]
    | stored => simpa using hopening
  · exact congrArg Reading.currentRow (h.reading_of_ne hkl)

/-- Opening a cursor changes the slot which was free only. -/
theorem OpenOutcome.reading_of_ne {p r : ℤ} (h : OpenOutcome host p q w r w')
    (hk : getNewCursorId w.dll ≠ k.val) : w'.dll.reading k = w.dll.reading k := by
  have hne : ∀ l : Fin maxCursors, getNewCursorId w.dll = l.val → k ≠ l := by
    rintro l hl rfl
    exact hk hl
  cases h with
  | noConnection hp => simp
  | full i hp => simp
  | opened i hp l free res store =>
    rw [World.onDll_dll, reading_setCursor_of_ne (hne l free), store.reading_of_ne (hne l free)]
  | refused i hp l free store =>
    rw [World.onDll_dll, reading_setConnection, World.inspected_dll, World.onDll_dll, deleteCursor_val,
      reading_setCursor_of_ne (hne l free), World.blamed, World.onDll_dll, reading_setConnection,
      World.inspected_dll, store.reading_of_ne (hne l free)]
  | undecided i hp l free store =>
    rw [World.blamed, World.onDll_dll, reading_setConnection, World.inspected_dll,
      store.reading_of_ne (hne l free)]

/-- Opening a cursor leaves the current rows of all slots, also of the one which it takes. -/
theorem OpenOutcome.currentRow {p r : ℤ} (h : OpenOutcome host p q w r w') :
    (w'.dll.cursors k).currentRow = (w.dll.cursors k).currentRow := by
  cases h with
  | noConnection hp => simp
  | full i hp => simp
  | opened i hp l free res store =>
    by_cases hkl : k = l <;> simp [hkl, store.currentRow]
  | refused i hp l free store =>
    by_cases hkl : k = l <;> simp [hkl, store.currentRow, World.blamed]
  | undecided i hp l free store => simp [World.blamed, store.currentRow]

end Opening

/-- Fetching from another cursor. -/
theorem FetchOutcome.reading_of_ne {p : ℤ} {b : Bool} (h : FetchOutcome host p w b w')
    (hp : p ≠ k.val) : w'.dll.reading k = w.dll.reading k := by
  have hfetched : ∀ l : Fin maxCursors, p = l.val → (w.fetched host l).dll.reading k = w.dll.reading k := by
    intro l hl
    have hkl : k ≠ l := by
      rintro rfl
      exact hp hl
    rw [World.fetched, World.onDll_dll, reading_setCursor_of_ne hkl]
    simp
  cases h with
  | wrong => simp
  | fetched l hl => exact hfetched l hl
  | ended l hl => simpa using hfetched l hl

/-- Closing keeps all but the id of a slot. -/
theorem CloseOutcome.reading {p : ℤ} (h : CloseOutcome host p w w') :
    ∃ id, w'.dll.reading k = { w.dll.reading k with id := id } := by
  cases h with
  | wrong => exact ⟨(w.dll.reading k).id, by simp⟩
  | closed l hl =>
    subst hl
    by_cases hkl : k = l
    · subst hkl
      exact ⟨-1, by simp [Dll.reading]⟩
    · exact ⟨(w.dll.reading k).id, by simp [reading_setCursor_of_ne hkl]⟩

/-- Every call but fetching from it leaves the current row of a slot. -/
theorem call_currentRow {turns : ℕ} {e : Exported} {r : e.Reply}
    (h : (call host turns e).run w = .ok (r, w')) (hfetch : e ≠ .cursorFetchRow k.val) :
    (w'.dll.cursors k).currentRow = (w.dll.cursors k).currentRow := by
  have hkept (keeps : KeepsReadings e) :
      (w'.dll.cursors k).currentRow = (w.dll.cursors k).currentRow :=
    congrArg Reading.currentRow (call_keeps_readings h keeps)
  cases e with
  | cursorOpen p q => exact (cMySqlCursorOpen_outcome host h).currentRow
  | cursorClose p =>
    obtain ⟨id, hreading⟩ := (cMySqlCursorClose_outcome host h).reading
    exact congrArg Reading.currentRow hreading
  | cursorFetchRow p =>
    have hp : p ≠ k.val := by
      rintro rfl
      exact hfetch rfl
    exact congrArg Reading.currentRow ((cMySqlCursorFetchRow_outcome host h).reading_of_ne hp)
  | _ => exact hkept trivial

end MqlMySql
