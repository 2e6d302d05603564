import MqlMySql.Spec.CursorCalls
import MqlMySql.Spec.CursorReads

/-!
# Ids of no open cursor

The calls on an id of no open cursor all do the same, except that they clear the error of the slot first. On
`-1`, and on a slot which a close has shut, there is no error to clear.
-/

namespace MqlMySql

/-- The id of a slot which is shut, with its error cleared. -/
def Shut (d : Dll) (p : ℤ) : Prop :=
  ∃ k : Fin maxCursors, p = k.val ∧ (d.cursors k).id = -1 ∧
    (d.cursors k).cursorErrorNumber = 0 ∧ (d.cursors k).cursorErrorDescription = "No errors."

/-- The id of no open cursor, on which the calls clear no error that is not clear already. -/
def NoCursor (d : Dll) (p : ℤ) : Prop := p = -1 ∨ Shut d p

section NoCursor

variable {d : Dll} {p : ℤ}

/-- No cursor is open at such an id. -/
theorem NoCursor.openCursor (h : NoCursor d p) : d.openCursor p = none := by
  rcases h with rfl | ⟨k, rfl, hid, -⟩
  · exact openCursor_neg_one
  · rw [openCursor_val, if_pos hid]

/-- Clearing the error of no cursor does not show after error `-5`. -/
theorem NoCursor.cleared (h : NoCursor d p) :
    wrongCursor (clearCursorErrors p d) = wrongCursor d := by
  rcases h with rfl | ⟨k, rfl, -, hnumber, hdescription⟩
  · rw [clearCursorErrors_neg_one]
    rfl
  · have hslot : { d.cursors k with cursorErrorNumber := 0, cursorErrorDescription := "No errors." } =
        d.cursors k := by
      rw [← hnumber, ← hdescription]
    rw [clearCursorErrors_val, Dll.setSlotError, Dll.setCursor, hslot, Function.update_eq_self]

/-- Whether an id is one depends on the cursor slots alone. -/
theorem NoCursor.of_cursors {d' : Dll} (h : NoCursor d p) (cursors : d'.cursors = d.cursors) :
    NoCursor d' p := by
  unfold NoCursor Shut
  rw [cursors]
  exact h

/-- The number read after a call on no cursor. -/
theorem NoCursor.number (h : NoCursor d p) : cGetCursorErrorNumber p (wrongCursor d) = -5 :=
  cGetCursorErrorNumber_of_closed (h.of_cursors rfl).openCursor

end NoCursor

variable {σ : Type} {host : Host σ} {turns : ℕ} {w w' : World σ} {p : ℤ}

/-- A close which leaves the number `0` has shut its slot. -/
theorem CloseOutcome.shut (h : CloseOutcome host p w w') (hzero : cGetCursorErrorNumber p w'.dll = 0) :
    Shut w'.dll p := by
  cases h with
  | wrong shut =>
    have hshut : (wrongCursor (clearCursorErrors p w.dll)).openCursor p = none :=
      (openCursor_clearCursorErrors p p w.dll).trans shut
    have hnumber := cGetCursorErrorNumber_of_closed hshut
    rw [World.onDll_dll, hnumber] at hzero
    cases hzero
  | closed k hp isOpen =>
    subst hp
    exact ⟨k, rfl, by simp, by simp, by simp [Dll.setSlotError_cursors]⟩

section NoCursorCalls

variable (h : NoCursor w.dll p)

include h

/-- The number of rows of no cursor is 0, with error `-5`. -/
theorem NoCursor.run_rows : (cMySqlCursorRows host p).run w = .ok (0, w.onDll wrongCursor) := by
  simp [cMySqlCursorRows, h.openCursor, World.onDll, h.cleared]

/-- A fetch from no cursor answers false, with error `-5`. -/
theorem NoCursor.run_fetch : (cMySqlCursorFetchRow host p).run w = .ok (false, w.onDll wrongCursor) := by
  simp [cMySqlCursorFetchRow, h.openCursor, World.onDll, h.cleared]

/-- A field of no cursor is empty, with error `-5`. -/
theorem NoCursor.run_field (f : ℕ) : (cMySqlGetRowField host p f).run w = .ok ([], w.onDll wrongCursor) := by
  simp [cMySqlGetRowField, h.openCursor]

/-- Closing no cursor changes nothing but the error, which becomes `-5`. -/
theorem NoCursor.run_close : (cMySqlCursorClose host p).run w = .ok ((), w.onDll wrongCursor) := by
  simp [cMySqlCursorClose, h.openCursor, World.onDll, h.cleared]

end NoCursorCalls

end MqlMySql
