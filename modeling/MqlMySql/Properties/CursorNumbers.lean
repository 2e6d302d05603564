import MqlMySql.Model.Exported
import MqlMySql.Spec.CursorReads
import MqlMySql.Spec.Server

/-!
# What the error number says about the last cursor call

After a close, a row count or a field read, the number read for the cursor should name what went wrong
with that call. The slot's cell is cleared by each of these calls, so this holds as long as the number is
read from the slot. A close frees the slot, and the number read then is whatever the DLL-wide cell holds.
-/

namespace MqlMySql

open Library

variable {σ : Type} (host : Host σ)

/-- The number which a field read of an open slot should leave. -/
def World.fieldNumber (k : Fin maxCursors) (f : ℕ) (w : World σ) : ℤ :=
  if host.mysqlNumFields (w.recordSet k) w.library ≤ f then -4
  else match (w.dll.cursors k).currentRow with
    | none => 0
    | some row =>
      if (multiByteToWideChar (host.rowField row f w.library)).length ≤ maxFieldValue then 0 else -6

/-- The number which should be read for the cursor after a call, by the state before it. -/
def World.cursorNumber (w : World σ) : Exported → ℤ
  | .cursorClose p | .cursorRows p => if w.dll.openCursor p = none then -5 else 0
  | .getRowField p f =>
    match w.dll.openCursor p with
    | none => -5
    | some k => w.fieldNumber host k f
  | _ => 0

/-- The number read for the cursor after a close, a row count or a field read is the right one. -/
def CursorTellsTruth (w : World σ) (d : Dll) : Exported → Prop
  | .cursorClose p => cGetCursorErrorNumber p d = w.cursorNumber host (.cursorClose p)
  | .cursorRows p => cGetCursorErrorNumber p d = w.cursorNumber host (.cursorRows p)
  | .getRowField p f => cGetCursorErrorNumber p d = w.cursorNumber host (.getRowField p f)
  | _ => True

/-- A close of an open cursor finds no error in the DLL-wide cell. -/
def ClosesQuietly (w : World σ) : Exported → Prop
  | .cursorClose p => w.dll.openCursor p ≠ none → w.dll.cursorErrorNumber = 0
  | _ => True

variable {host}

/-- On an id which is not open, each call leaves `-5` to be read. -/
theorem wrongCursor_number {p : ℤ} {d : Dll} (shut : d.openCursor p = none) :
    cGetCursorErrorNumber p (wrongCursor (clearCursorErrors p d)) = -5 ∧
      cGetCursorErrorNumber p (wrongCursor d) = -5 := by
  have hwrong : ∀ e : Dll, e.openCursor p = none → cGetCursorErrorNumber p (wrongCursor e) = -5 := by
    intro e he
    rw [cGetCursorErrorNumber_of_closed]
    · rfl
    · exact he
  exact ⟨hwrong _ (by simpa using shut), hwrong d shut⟩

/-- After a close. -/
theorem CloseOutcome.tellsTruth_iff {p : ℤ} {w w' : World σ} (h : CloseOutcome host p w w') :
    CursorTellsTruth host w w'.dll (.cursorClose p) ↔ ClosesQuietly w (.cursorClose p) := by
  by_cases shut : w.dll.openCursor p = none
  · cases h with
    | wrong => simp [CursorTellsTruth, ClosesQuietly, World.cursorNumber, shut, wrongCursor_number]
    | closed k hp isOpen => simp [hp, openCursor_val, isOpen] at shut
  · simp only [CursorTellsTruth, ClosesQuietly, World.cursorNumber, h.number shut, ne_eq, shut, if_false,
      not_false_iff, forall_true_left]

/-- After counting the rows. -/
theorem RowsOutcome.tellsTruth {p r : ℤ} {w w' : World σ} (h : RowsOutcome host p w r w') :
    CursorTellsTruth host w w'.dll (.cursorRows p) := by
  cases h with
  | wrong shut => simp [CursorTellsTruth, World.cursorNumber, shut, wrongCursor_number]
  | counted k hp isOpen =>
    subst hp
    have hopen : w.dll.openCursor k.val = some k := by rw [openCursor_val, if_neg isOpen]
    simp only [CursorTellsTruth, World.cursorNumber, hopen]
    rw [cGetCursorErrorNumber_of_open (k := k)]
    · simp
    · simpa using hopen

/-- After reading a field. -/
theorem FieldOutcome.tellsTruth {p : ℤ} {f : ℕ} {text : WStr} {w w' : World σ}
    (h : FieldOutcome host p f w text w') : CursorTellsTruth host w w'.dll (.getRowField p f) := by
  cases h with
  | wrong shut => simp [CursorTellsTruth, World.cursorNumber, shut, wrongCursor_number]
  | noField k hp isOpen outside =>
    subst hp
    have hopen : w.dll.openCursor k.val = some k := by rw [openCursor_val, if_neg isOpen]
    simp only [CursorTellsTruth, World.cursorNumber, hopen, World.fieldNumber, if_pos outside]
    rw [cGetCursorErrorNumber_of_open (k := k)]
    · simp
    · simp [World.measured, openCursor_val, isOpen]
  | read k hp isOpen inside row current fits =>
    subst hp
    have hopen : w.dll.openCursor k.val = some k := by rw [openCursor_val, if_neg isOpen]
    simp only [CursorTellsTruth, World.cursorNumber, hopen, World.fieldNumber, if_neg (not_le.mpr inside),
      current, if_pos fits]
    rw [cGetCursorErrorNumber_of_open (k := k)]
    · simp [World.measured]
    · simp [World.measured, openCursor_val, isOpen]
  | tooBig k hp isOpen inside row current long =>
    subst hp
    have hopen : w.dll.openCursor k.val = some k := by rw [openCursor_val, if_neg isOpen]
    simp only [CursorTellsTruth, World.cursorNumber, hopen, World.fieldNumber, if_neg (not_le.mpr inside),
      current, if_neg (not_le.mpr long)]
    rw [cGetCursorErrorNumber_of_open (k := k)]
    · simp
    · simp [World.measured, openCursor_val, isOpen]

/-- The number read right after a close, a row count or a field read is the right one, unless a close of an
open cursor finds an error in the DLL-wide cell. -/
theorem cursorNumber_tellsTruth_iff {turns : ℕ} {e : Exported} {r : e.Reply} {w w' : World σ}
    (h : (call host turns e).run w = .ok (r, w')) :
    CursorTellsTruth host w w'.dll e ↔ ClosesQuietly w e := by
  cases e with
  | cursorClose p => exact (cMySqlCursorClose_outcome host h).tellsTruth_iff
  | cursorRows p => exact iff_of_true (cMySqlCursorRows_outcome host h).tellsTruth trivial
  | getRowField p f => exact iff_of_true (cMySqlGetRowField_outcome host h).tellsTruth trivial
  | _ => exact Iff.rfl

/-- Closing an open cursor, after which the number is that of no error. -/
theorem cursorNumber_tellsTruth_sample :
    ∃ (tr : List (Called Server)) (w w' : World Server),
      DllRun scriptedHost 8 (Server.fresh [.ofResultSet]) tr w ∧
        (call scriptedHost 8 (.cursorClose 0)).run w = .ok ((), w') ∧
          w.dll.openCursor 0 ≠ none ∧ cGetCursorErrorNumber 0 w'.dll = 0 ∧
            (CursorTellsTruth scriptedHost w w'.dll (.cursorClose 0) ↔ ClosesQuietly w (.cursorClose 0)) := by
  have hcheck : passes (fun run => decide (run.2.dll.openCursor 0 ≠ none) &&
        passes (fun reply => decide (cGetCursorErrorNumber 0 reply.2.dll = 0))
          ((call scriptedHost 8 (.cursorClose 0)).run run.2))
      (replay (dllStep scriptedHost 8) [.connect .sample, .cursorOpen 0 [83], .cursorRows 0]
        (attach (Server.fresh [.ofResultSet]))) = true := by
    decide +kernel
  obtain ⟨tr, w, hrun, hcheck⟩ := Run.of_passes hcheck
  obtain ⟨hopen, hcheck⟩ := Bool.and_eq_true_iff.mp hcheck
  obtain ⟨⟨r, w'⟩, hcall, hnumber⟩ := exists_of_passes hcheck
  exact ⟨tr, w, w', hrun, hcall, of_decide_eq_true hopen, of_decide_eq_true hnumber, cursorNumber_tellsTruth_iff hcall⟩

/-- After somebody counted the rows of an id which is not open, closing an open cursor reports `-5`. -/
theorem cursorClose_reports_wrong_cursor :
    ∃ (tr : List (Called Server)) (w w' : World Server),
      DllRun scriptedHost 8 (Server.fresh [.ofResultSet]) tr w ∧
        (call scriptedHost 8 (.cursorClose 0)).run w = .ok ((), w') ∧
          w.dll.openCursor 0 ≠ none ∧ cGetCursorErrorNumber 0 w'.dll = -5 ∧
            ¬ CursorTellsTruth scriptedHost w w'.dll (.cursorClose 0) := by
  have hcheck : passes (fun run => decide (run.2.dll.openCursor 0 ≠ none) &&
        passes (fun reply => decide (cGetCursorErrorNumber 0 reply.2.dll = -5))
          ((call scriptedHost 8 (.cursorClose 0)).run run.2))
      (replay (dllStep scriptedHost 8) [.connect .sample, .cursorOpen 0 [83], .cursorRows 7]
        (attach (Server.fresh [.ofResultSet]))) = true := by
    decide +kernel
  obtain ⟨tr, w, hrun, hcheck⟩ := Run.of_passes hcheck
  obtain ⟨hopen, hcheck⟩ := Bool.and_eq_true_iff.mp hcheck
  obtain ⟨⟨r, w'⟩, hcall, hcheck⟩ := exists_of_passes hcheck
  have hopen : w.dll.openCursor 0 ≠ none := of_decide_eq_true hopen
  have hnumber : cGetCursorErrorNumber 0 w'.dll = -5 := of_decide_eq_true hcheck
  refine ⟨tr, w, w', hrun, hcall, hopen, hnumber, ?_⟩
  simp [CursorTellsTruth, World.cursorNumber, hopen, hnumber]

end MqlMySql
