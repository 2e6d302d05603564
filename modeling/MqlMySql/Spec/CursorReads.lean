import MqlMySql.Spec.CursorCalls

/-!
# What closing and reading a cursor can do

The calls which take a cursor id first look whether the slot is open. On any other id they write the
DLL-wide cursor cell, and nothing else.
-/

namespace MqlMySql

open Library

variable {σ : Type} (host : Host σ)

/-- The record set stored in a cursor slot. -/
abbrev World.recordSet (w : World σ) (k : Fin maxCursors) : Option MysqlRes :=
  (w.dll.cursors k).recordSet

/-- How `cMySqlCursorClose` returns. -/
inductive CloseOutcome (p : ℤ) (w : World σ) : World σ → Prop
  | wrong (shut : w.dll.openCursor p = none) :
      CloseOutcome p w (w.onDll fun d => wrongCursor (clearCursorErrors p d))
  | closed (k : Fin maxCursors) (hp : p = k.val) (isOpen : (w.dll.cursors k).id ≠ -1) :
      CloseOutcome p w (((w.onDll (clearCursorErrors p)).commanded
        (host.mysqlFreeResult (w.recordSet k)) (.freeResult (w.recordSet k))).onDll
          (deleteCursor p))

/-- How `cMySqlCursorRows` returns. -/
inductive RowsOutcome (p : ℤ) (w : World σ) : ℤ → World σ → Prop
  | wrong (shut : w.dll.openCursor p = none) :
      RowsOutcome p w 0 (w.onDll fun d => wrongCursor (clearCursorErrors p d))
  | counted (k : Fin maxCursors) (hp : p = k.val) (isOpen : (w.dll.cursors k).id ≠ -1) :
      RowsOutcome p w (intOfUInt64 (host.mysqlNumRows (w.recordSet k) w.library))
        ((w.onDll (clearCursorErrors p)).inspected (.numRows (w.recordSet k)))

/-- The world after `mysql_fetch_row` has been asked for the next row of an open slot. -/
def World.fetched (k : Fin maxCursors) (w : World σ) : World σ :=
  ((w.onDll (clearCursorErrors k.val)).performed (host.mysqlFetchRow (w.recordSet k))
    (.fetchRow (w.recordSet k))).onDll fun d => d.setCursor k fun c =>
      { c with currentRow := (host.mysqlFetchRow (w.recordSet k) w.library).1 }

/-- Fetching a row is one call, on the record set of the slot. -/
@[simp] theorem World.fetched_calls (k : Fin maxCursors) (w : World σ) :
    (w.fetched host k).calls =
      .fetchRow (w.recordSet k) (host.mysqlFetchRow (w.recordSet k) w.library).1 :: w.calls := by
  simp [World.fetched]

/-- How `cMySqlCursorFetchRow` returns. -/
inductive FetchOutcome (p : ℤ) (w : World σ) : Bool → World σ → Prop
  | wrong (shut : w.dll.openCursor p = none) :
      FetchOutcome p w false (w.onDll fun d => wrongCursor (clearCursorErrors p d))
  | fetched (k : Fin maxCursors) (hp : p = k.val) (isOpen : (w.dll.cursors k).id ≠ -1)
      (row : (host.mysqlFetchRow (w.recordSet k) w.library).1 ≠ none) :
      FetchOutcome p w true (w.fetched host k)
  | ended (k : Fin maxCursors) (hp : p = k.val) (isOpen : (w.dll.cursors k).id ≠ -1)
      (row : (host.mysqlFetchRow (w.recordSet k) w.library).1 = none) (i : Fin maxConnections)
      (owner : (w.dll.cursors k).connection = i.val) :
      FetchOutcome p w false
        ((((w.fetched host k).inspected (.errno (w.handle i))).inspected
          (.error (w.handle i))).onDll fun d =>
            d.setSlotError k
              (host.mysqlErrno (w.handle i) (host.mysqlFetchRow (w.recordSet k) w.library).2)
              (host.mysqlError (w.handle i) (host.mysqlFetchRow (w.recordSet k) w.library).2))

/-- The world in which `cMySqlGetRowField` knows the number of columns of an open slot. -/
def World.measured (k : Fin maxCursors) (w : World σ) : World σ :=
  (w.onDll (clearCursorErrors k.val)).inspected (.numFields (w.recordSet k))

/-- How `cMySqlGetRowField` returns. -/
inductive FieldOutcome (p : ℤ) (f : ℕ) (w : World σ) : WStr → World σ → Prop
  | wrong (shut : w.dll.openCursor p = none) :
      FieldOutcome p f w [] (w.onDll wrongCursor)
  | noField (k : Fin maxCursors) (hp : p = k.val) (isOpen : (w.dll.cursors k).id ≠ -1)
      (outside : host.mysqlNumFields (w.recordSet k) w.library ≤ f) :
      FieldOutcome p f w [] ((w.measured k).onDll fun d =>
        d.setSlotError k (-4) "Wrong number of field.")
  | read (k : Fin maxCursors) (hp : p = k.val) (isOpen : (w.dll.cursors k).id ≠ -1)
      (inside : f < host.mysqlNumFields (w.recordSet k) w.library) (row : MysqlRow)
      (current : (w.dll.cursors k).currentRow = some row)
      (fits : (multiByteToWideChar (host.rowField row f w.library)).length ≤ maxFieldValue) :
      FieldOutcome p f w (wideString (multiByteToWideChar (host.rowField row f w.library)))
        ((((w.measured k).onDll fun d => d.setCursor k fun c => { c with value := [] }).inspected
          (.rowField row f)).onDll fun d => d.setCursor k fun c =>
            { c with value := wideString (multiByteToWideChar (host.rowField row f w.library)) })
  | tooBig (k : Fin maxCursors) (hp : p = k.val) (isOpen : (w.dll.cursors k).id ≠ -1)
      (inside : f < host.mysqlNumFields (w.recordSet k) w.library) (row : MysqlRow)
      (current : (w.dll.cursors k).currentRow = some row)
      (long : maxFieldValue < (multiByteToWideChar (host.rowField row f w.library)).length) :
      FieldOutcome p f w []
        ((((w.measured k).onDll fun d => d.setCursor k fun c => { c with value := [] }).inspected
          (.rowField row f)).onDll fun d => d.setSlotError k (-6) "Result value is too big")

/-- Writing the error of a slot opens and shuts nothing. -/
@[simp] theorem openCursor_setSlotError (d : Dll) (k : Fin maxCursors) (number : ℤ)
    (description : String) (p : ℤ) :
    (d.setSlotError k number description).openCursor p = d.openCursor p :=
  openCursor_congr (fun l => by simp) p

/-- Whether a cursor is open is not affected by clearing cursor errors. -/
@[simp] theorem openCursor_clearCursorErrors (p q : ℤ) (d : Dll) :
    (clearCursorErrors p d).openCursor q = d.openCursor q := by
  unfold clearCursorErrors
  split
  · rfl
  · split <;> simp

/-- `cMySqlCursorClose` ends in one of these ways. -/
theorem cMySqlCursorClose_outcome {p : ℤ} {w w' : World σ}
    (h : (cMySqlCursorClose host p).run w = .ok ((), w')) : CloseOutcome host p w w' := by
  cases hopen : w.dll.openCursor p with
  | none =>
    simp [cMySqlCursorClose, hopen] at h
    subst h
    exact .wrong hopen
  | some k =>
    obtain ⟨rfl, hid⟩ := openCursor_eq_some_iff.mp hopen
    simp [cMySqlCursorClose, hopen] at h
    subst h
    exact .closed k rfl hid

/-- `cMySqlCursorRows` ends in one of these ways. -/
theorem cMySqlCursorRows_outcome {p r : ℤ} {w w' : World σ}
    (h : (cMySqlCursorRows host p).run w = .ok (r, w')) : RowsOutcome host p w r w' := by
  cases hopen : w.dll.openCursor p with
  | none =>
    simp [cMySqlCursorRows, hopen] at h
    obtain ⟨rfl, rfl⟩ := h
    exact .wrong hopen
  | some k =>
    obtain ⟨rfl, hid⟩ := openCursor_eq_some_iff.mp hopen
    simp [cMySqlCursorRows, hopen] at h
    obtain ⟨rfl, rfl⟩ := h
    exact .counted k rfl hid

/-- `cMySqlCursorFetchRow` ends in one of these ways; at the end of the rows it has asked for the number. -/
theorem cMySqlCursorFetchRow_outcome {p : ℤ} {b : Bool} {w w' : World σ}
    (h : (cMySqlCursorFetchRow host p).run w = .ok (b, w')) : FetchOutcome host p w b w' := by
  cases hopen : w.dll.openCursor p with
  | none =>
    simp [cMySqlCursorFetchRow, hopen] at h
    obtain ⟨rfl, rfl⟩ := h
    exact .wrong hopen
  | some k =>
    obtain ⟨rfl, hid⟩ := openCursor_eq_some_iff.mp hopen
    by_cases hrow : (host.mysqlFetchRow (w.recordSet k) w.library).1 = none
    · cases hi : slotIndex maxConnections (w.dll.cursors k).connection with
      | none =>
        simp [cMySqlCursorFetchRow, hopen, hrow, run_connectionAt_none hi] at h
      | some i =>
        have howner := slotIndex_eq_some_iff.mp hi
        simp [cMySqlCursorFetchRow, hopen, hrow, howner] at h
        obtain ⟨rfl, rfl⟩ := h
        have hdone : FetchOutcome host k.val w false _ := .ended k rfl hid hrow i howner
        rwa [World.fetched, hrow] at hdone
    · simp [cMySqlCursorFetchRow, hopen, hrow] at h
      obtain ⟨rfl, rfl⟩ := h
      exact .fetched k rfl hid hrow

/-- Reading a column of an open cursor, run. -/
theorem run_getRowField_open {k : Fin maxCursors} {w : World σ} (isOpen : w.dll.openCursor k.val = some k)
    (n : ℕ) : (cMySqlGetRowField host k.val n).run w =
      if n < host.mysqlNumFields (w.recordSet k) w.library then
        match (w.dll.cursors k).currentRow with
        | none => .error .nullRow
        | some row =>
          let unicode := multiByteToWideChar (host.rowField row n w.library)
          let read := ((w.measured k).onDll fun d => d.setCursor k fun c => { c with value := [] }).inspected
            (.rowField row n)
          if unicode.length ≤ maxFieldValue then
            .ok (wideString unicode, read.onDll fun d => d.setCursor k fun c =>
              { c with value := wideString unicode })
          else .ok ([], read.onDll fun d => d.setSlotError k (-6) "Result value is too big")
      else .ok ([], (w.measured k).onDll fun d => d.setSlotError k (-4) "Wrong number of field.") := by
  by_cases hfield : n < host.mysqlNumFields (w.dll.cursors k).recordSet w.library
  · cases hrow : (w.dll.cursors k).currentRow with
    | none => simp [cMySqlGetRowField, isOpen, hfield, hrow]
    | some row =>
      by_cases hfits : (multiByteToWideChar (host.rowField row n w.library)).length ≤ maxFieldValue
      · simp [cMySqlGetRowField, isOpen, hfield, hrow, hfits, World.measured]
      · simp [cMySqlGetRowField, isOpen, hfield, hrow, hfits, World.measured]
  · simp [cMySqlGetRowField, isOpen, hfield, World.measured]

/-- `cMySqlGetRowField` ends in one of these ways; the value is in the buffer before it is returned. -/
theorem cMySqlGetRowField_outcome {p : ℤ} {f : ℕ} {text : WStr} {w w' : World σ}
    (h : (cMySqlGetRowField host p f).run w = .ok (text, w')) :
    FieldOutcome host p f w text w' := by
  cases hopen : w.dll.openCursor p with
  | none =>
    simp [cMySqlGetRowField, hopen] at h
    obtain ⟨rfl, rfl⟩ := h
    exact .wrong hopen
  | some k =>
    obtain ⟨rfl, hid⟩ := openCursor_eq_some_iff.mp hopen
    rw [run_getRowField_open host hopen] at h
    split at h
    · rename_i hfield
      split at h
      · cases h
      · rename_i row hrow
        dsimp only at h
        split at h
        · rename_i hfits
          cases h
          exact .read k rfl hid hfield row hrow hfits
        · rename_i hbig
          cases h
          exact .tooBig k rfl hid hfield row hrow (not_le.mp hbig)
    · rename_i hnone
      cases h
      exact .noField k rfl hid (not_lt.mp hnone)

variable {host} in
/-- The number read after closing an open cursor is the DLL-wide one from before. -/
theorem CloseOutcome.number {p : ℤ} {w w' : World σ} (h : CloseOutcome host p w w')
    (isOpen : w.dll.openCursor p ≠ none) :
    cGetCursorErrorNumber p w'.dll = w.dll.cursorErrorNumber := by
  cases h with
  | wrong shut => exact absurd shut isOpen
  | closed k hp _ =>
    subst hp
    rw [cGetCursorErrorNumber_of_closed]
    · simp
    · simp [openCursor_val]

end MqlMySql
