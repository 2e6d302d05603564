import MqlMySql.Spec.Twins

/-!
# Reading and closing cursors in two worlds
-/

namespace MqlMySql

open Library

variable {σ : Type} {host : Host σ} {turns : ℕ} {S : Pairs} {f f' : Fin maxCursors → Bool} {w v w' v' : World σ}
  {e e' : Exported} {r : e.Reply} {r' : e'.Reply}

/-- Calls which touch no slot. -/
theorem Sees.of_untouched (sees : Sees S f w v) (h : (call host turns e).run w = .ok (r, w'))
    (h' : (call host turns e').run v = .ok (r', v')) (library : w'.library = v'.library)
    (hf : ∀ k, f' k = true → f k = true) (connections : ∀ d i, ¬TouchesConnection d i e ∧ ¬TouchesConnection d i e')
    (cursors : ∀ d k, ¬TouchesCursor d k e ∧ ¬TouchesCursor d k e') : Sees S f' w' v' := by
  have hconnection (i : Fin maxConnections) : w'.dll.connections i = w.dll.connections i ∧
      v'.dll.connections i = v.dll.connections i :=
    ⟨call_keeps_connection_slot h (connections _ i).1, call_keeps_connection_slot h' (connections _ i).2⟩
  apply sees.of_calls h h' library rfl sees.connectionsFaithful sees.cursorsFaithful
  · intro i i' hi
    exact Or.inl ⟨hi, (connections _ i).1, (connections _ i').2, id⟩
  · intro unshared i
    rw [(hconnection i).1, (hconnection i).2]
    exact sees.handles unshared i
  · intro k k' hk
    exact Or.inl ⟨hk, (cursors _ k).1, (cursors _ k').2, id, hf k, fun _ _ _ _ hi => hi⟩
  · intro i' hlive
    rw [(hconnection i').2] at hlive
    exact sees.ownConnections i' hlive
  · intro k' isOpen
    rw [call_keeps_cursor_slot h' (cursors _ k').2] at isOpen
    exact sees.ownCursors k' isOpen

/-- The calls on no slot, which return the same in every world. -/
inductive Nowhere : Exported → Prop
  | rowsAffected : Nowhere (.rowsAffected (-1))
  | cursorOpen (q : WStr) : Nowhere (.cursorOpen (-1) q)
  | close : Nowhere (.cursorClose (-1))
  | rows : Nowhere (.cursorRows (-1))
  | fetch : Nowhere (.cursorFetchRow (-1))
  | field (n : ℕ) : Nowhere (.getRowField (-1) n)

/-- A call on no slot answers from its arguments alone and leaves the library. -/
theorem Nowhere.run (at_none : Nowhere e) (host : Host σ) (turns : ℕ) : ∃ r : e.Reply, ∀ w : World σ, ∃ w',
    (call host turns e).run w = .ok (r, w') ∧ w'.library = w.library := by
  cases at_none with
  | rowsAffected => exact ⟨0, fun w => ⟨_, rfl, rfl⟩⟩
  | cursorOpen q => exact ⟨-1, fun w => ⟨_, rfl, rfl⟩⟩
  | close => exact ⟨(), fun w => by simp [call, cMySqlCursorClose]⟩
  | rows => exact ⟨0, fun w => by simp [call, cMySqlCursorRows]⟩
  | fetch => exact ⟨false, fun w => by simp [call, cMySqlCursorFetchRow]⟩
  | field n => exact ⟨[], fun w => by simp [call, cMySqlGetRowField]⟩

/-- A call on no slot touches none, whatever the tables hold. -/
theorem Nowhere.untouched (at_none : Nowhere e) (d : Dll) :
    (∀ i, ¬TouchesConnection d i e) ∧ ∀ k, ¬TouchesCursor d k e := by
  cases at_none with
  | rowsAffected => exact ⟨fun _ => id, fun _ => id⟩
  | cursorOpen => exact ⟨fun i h => val_ne_neg_one i h.symm, fun _ h => h.1 rfl⟩
  | _ => exact ⟨fun _ => id, fun k h => val_ne_neg_one k h.symm⟩

/-- Calls on no slot. -/
theorem Sees.nowhere (sees : Sees S f w v) (at_none : Nowhere e) (h : (call host turns e).run w = .ok (r, w'))
    (hf : ∀ k, f' k = true → f k = true) :
    ∃ v', (call host turns e).run v = .ok (r, v') ∧ Sees S f' w' v' := by
  obtain ⟨r₀, hall⟩ := at_none.run host turns
  obtain ⟨v', h', hlibrary'⟩ := hall v
  obtain ⟨w₁, h₁, hlibrary⟩ := hall w
  rw [h] at h₁
  cases h₁
  refine ⟨v', h', sees.of_untouched h h' ?_ hf ?_ ?_⟩
  · rw [hlibrary, hlibrary', sees.library]
  · intro d i
    exact ⟨(at_none.untouched d).1 i, (at_none.untouched d).1 i⟩
  · intro d k
    exact ⟨(at_none.untouched d).2 k, (at_none.untouched d).2 k⟩

/-- The calls on one cursor. -/
inductive CursorCall (k : Fin maxCursors) : Exported → Prop
  | close : CursorCall k (.cursorClose k.val)
  | rows : CursorCall k (.cursorRows k.val)
  | fetch : CursorCall k (.cursorFetchRow k.val)
  | field (f : ℕ) : CursorCall k (.getRowField k.val f)

section CursorCall

variable {k k' : Fin maxCursors}

/-- A call on a cursor touches no connection slot. -/
theorem CursorCall.touchesConnection (h : CursorCall k e) (d : Dll) (i : Fin maxConnections) :
    ¬TouchesConnection d i e := by
  cases h <;> exact id

/-- A call on a cursor touches no other cursor slot. -/
theorem CursorCall.touchesCursor (h : CursorCall k e) {d : Dll} {l : Fin maxCursors}
    (touches : TouchesCursor d l e) : l = k := by
  cases h <;> exact Fin.ext (by simp only [TouchesCursor] at touches; omega)

/-- Calls which read one pair of cursors and write its number. -/
theorem Sees.of_cursor (sees : Sees S f w v) (on : CursorCall k e) (on' : CursorCall k' e')
    (h : (call host turns e).run w = .ok (r, w')) (h' : (call host turns e').run v = .ok (r', v'))
    (library : w'.library = v'.library) (hk : S.cursors.Corresponds S.rival.opens k k')
    (hf : ∀ l, l ≠ k → f' l = true → f l = true)
    (same : SameCursor S.connections S.rival True (f' k = true) (w'.dll.cursors k) (v'.dll.cursors k')) :
    Sees (S.withCursorNumber k) f' w' v' := by
  have hconnection (i : Fin maxConnections) : w'.dll.connections i = w.dll.connections i ∧
      v'.dll.connections i = v.dll.connections i :=
    ⟨call_keeps_connection_slot h (on.touchesConnection _ i),
      call_keeps_connection_slot h' (on'.touchesConnection _ i)⟩
  apply sees.of_calls h h' library
  · rfl
  · exact sees.connectionsFaithful
  · exact sees.cursorsFaithful
  · intro i i' hi
    exact Or.inl ⟨hi, on.touchesConnection _ i, on'.touchesConnection _ i', id⟩
  · intro unshared i
    rw [(hconnection i).1, (hconnection i).2]
    exact sees.handles unshared i
  · intro l l' hl
    by_cases hlk : l = k
    · subst hlk
      obtain rfl : k' = l' := sees.cursorsFaithful.right_unique hk hl
      have hcounted : (S.withCursorNumber l).counted l = True := Function.update_self ..
      rw [hcounted]
      exact Or.inr same
    · have hlk' : l' ≠ k' := by
        rintro rfl
        exact hlk (sees.cursorsFaithful.left_unique hl hk)
      refine Or.inl ⟨hl, fun ht => hlk (on.touchesCursor ht), fun ht => hlk' (on'.touchesCursor ht), ?_, hf l hlk,
        fun _ _ _ _ hi => hi⟩
      intro hcounted
      have hsame : (S.withCursorNumber k).counted l = S.counted l := Function.update_of_ne hlk ..
      rwa [hsame] at hcounted
  · intro i' hlive
    rw [(hconnection i').2] at hlive
    exact sees.ownConnections i' hlive
  · intro l' isOpen
    by_cases hlk' : l' = k'
    · rw [hlk']
      exact ⟨k, hk⟩
    · rw [call_keeps_cursor_slot h' fun ht => hlk' (on'.touchesCursor ht)] at isOpen
      exact sees.ownCursors l' isOpen

/-- When a cursor is open, its number names it in its own world, and the counterpart's in the other. -/
theorem Sees.openCursor (sees : Sees S f w v) (hk : S.cursors.Corresponds S.rival.opens k k')
    (isOpen : (w.dll.cursors k).id ≠ -1) :
    w.dll.openCursor k.val = some k ∧ v.dll.openCursor k'.val = some k' :=
  ⟨openCursor_eq_some_iff.mpr ⟨rfl, isOpen⟩,
    openCursor_eq_some_iff.mpr ⟨rfl, (sees.cursor k k' hk).isOpen_iff.mp isOpen⟩⟩

/-- When a cursor is shut, neither number names an open one. -/
theorem Sees.shutCursor (sees : Sees S f w v) (hk : S.cursors.Corresponds S.rival.opens k k')
    (shut : (w.dll.cursors k).id = -1) :
    w.dll.openCursor k.val = none ∧ v.dll.openCursor k'.val = none := by
  have shut' := (sees.cursor k k' hk).shut.mp shut
  simp [openCursor_val, shut, shut']

/-- Calls on a pair of cursors which are shut. -/
theorem Sees.of_wrong (sees : Sees S f w v) (hk : S.cursors.Corresponds S.rival.opens k k')
    (shut : (w.dll.cursors k).id = -1) (on : CursorCall k e) (on' : CursorCall k' e')
    (h : (call host turns e).run w = .ok (r, w.onDll fun d => wrongCursor (clearCursorErrors k.val d)))
    (h' : (call host turns e').run v = .ok (r', v.onDll fun d => wrongCursor (clearCursorErrors k'.val d)))
    (hf : ∀ l, l ≠ k → f' l = true → f l = true) :
    Sees (S.withCursorNumber k) f' (w.onDll fun d => wrongCursor (clearCursorErrors k.val d))
      (v.onDll fun d => wrongCursor (clearCursorErrors k'.val d)) := by
  have hslot := sees.cursor k k' hk
  refine sees.of_cursor on on' h h' (by simpa using sees.library) hk hf ?_
  simp only [World.onDll_dll, wrongCursor_cursors, clearCursorErrors_val, Dll.setSlotError_cursors, if_true]
  exact ⟨hslot.shut, hslot.isOpen, hslot.recordSet,
    fun _ => hslot.row fun hopens => absurd shut (hslot.isOpen hopens), fun _ => rfl, hslot.owner⟩

/-- Open counterparts have one record set, so that reading one is reading the other. -/
theorem Sees.recordSet (sees : Sees S f w v) (hk : S.cursors.Corresponds S.rival.opens k k')
    (isOpen : (w.dll.cursors k).id ≠ -1) : w.recordSet k = v.recordSet k' :=
  (sees.cursor k k' hk).recordSet isOpen

/-- Counting the rows of a cursor. -/
theorem Sees.rows (sees : Sees S f w v) (hk : S.cursors.Corresponds S.rival.opens k k') {n : ℤ}
    (h : (call host turns (.cursorRows k.val)).run w = .ok (n, w')) (hf : ∀ l, f' l = true → f l = true) :
    ∃ v', (call host turns (.cursorRows k'.val)).run v = .ok (n, v') ∧
      Sees (S.withCursorNumber k) f' w' v' := by
  have hslot := sees.cursor k k' hk
  cases cMySqlCursorRows_outcome host h with
  | wrong shut =>
    have hshut : (w.dll.cursors k).id = -1 := by simpa [openCursor_val] using shut
    obtain ⟨n', v', h'⟩ : ∃ n' v', (call host turns (.cursorRows k'.val)).run v = .ok (n', v') := by
      simp [call, cMySqlCursorRows, (sees.shutCursor hk hshut).2]
    cases cMySqlCursorRows_outcome host h' with
    | wrong => exact ⟨_, h', sees.of_wrong hk hshut .rows .rows h h' fun l _ => hf l⟩
    | counted l' hl' isOpen' =>
      obtain rfl : k' = l' := Fin.ext (by omega)
      exact absurd (hslot.shut.mp hshut) isOpen'
  | counted l hl isOpen =>
    obtain rfl : k = l := Fin.ext (by omega)
    have h' : (call host turns (.cursorRows k'.val)).run v =
        .ok (intOfUInt64 (host.mysqlNumRows (w.recordSet k) w.library),
          (v.onDll (clearCursorErrors k'.val)).inspected (.numRows (v.recordSet k'))) := by
      rw [sees.recordSet hk isOpen, sees.library]
      simp [call, cMySqlCursorRows, (sees.openCursor hk isOpen).2]
    refine ⟨_, h', sees.of_cursor .rows .rows h h' (by simpa using sees.library) hk (fun l _ => hf l) ?_⟩
    simp only [World.inspected_dll, World.onDll_dll, clearCursorErrors_val, Dll.setSlotError_cursors, if_true]
    exact ⟨hslot.shut, hslot.isOpen, hslot.recordSet, fun hrow => hslot.row fun hopens => hf k (hrow hopens),
      fun _ => rfl, hslot.owner⟩

/-- Fetching the next row of a cursor. -/
theorem Sees.fetch (sees : Sees S f w v) (hk : S.cursors.Corresponds S.rival.opens k k') {b : Bool}
    (h : (call host turns (.cursorFetchRow k.val)).run w = .ok (b, w'))
    (hf : ∀ l, l ≠ k → f' l = true → f l = true) :
    ∃ v', (call host turns (.cursorFetchRow k'.val)).run v = .ok (b, v') ∧
      Sees (S.withCursorNumber k) f' w' v' := by
  have hslot := sees.cursor k k' hk
  have hanswer (isOpen : (w.dll.cursors k).id ≠ -1) : host.mysqlFetchRow (v.recordSet k') v.library =
      host.mysqlFetchRow (w.recordSet k) w.library := by
    rw [sees.recordSet hk isOpen, sees.library]
  cases cMySqlCursorFetchRow_outcome host h with
  | wrong shut =>
    have hshut : (w.dll.cursors k).id = -1 := by simpa [openCursor_val] using shut
    obtain ⟨b', v', h'⟩ : ∃ b' v', (call host turns (.cursorFetchRow k'.val)).run v = .ok (b', v') := by
      simp [call, cMySqlCursorFetchRow, (sees.shutCursor hk hshut).2]
    cases cMySqlCursorFetchRow_outcome host h' with
    | wrong => exact ⟨_, h', sees.of_wrong hk hshut .fetch .fetch h h' hf⟩
    | fetched l' hl' isOpen' | ended l' hl' isOpen' =>
      obtain rfl : k' = l' := Fin.ext (by omega)
      exact absurd (hslot.shut.mp hshut) isOpen'
  | fetched l hl isOpen row =>
    obtain rfl : k = l := Fin.ext (by omega)
    have hrow := hanswer isOpen
    have row' : (host.mysqlFetchRow (v.recordSet k') v.library).1 ≠ none := by rwa [hrow]
    have h' : (call host turns (.cursorFetchRow k'.val)).run v = .ok (true, v.fetched host k') := by
      simp [call, cMySqlCursorFetchRow, (sees.openCursor hk isOpen).2, row', World.fetched]
    refine ⟨_, h', sees.of_cursor .fetch .fetch h h' ?_ hk hf ?_⟩
    · simp [World.fetched, hrow]
    · simp only [World.fetched, World.onDll_dll, World.performed_dll, clearCursorErrors_val,
        Dll.setCursor_cursors, Dll.setSlotError_cursors, if_true, hrow]
      exact ⟨hslot.shut, hslot.isOpen, hslot.recordSet, fun _ => rfl, fun _ => rfl, hslot.owner⟩
  | ended l hl isOpen row j hj =>
    obtain rfl : k = l := Fin.ext (by omega)
    obtain ⟨i, i', hi, hi', hpair⟩ := hslot.owner isOpen
    obtain rfl : i = j := by
      rw [hi] at hj
      exact Fin.ext (by omega)
    have hhandle : w.handle i = v.handle i' := sees.handle hpair
    have hrow := hanswer isOpen
    have row' : (host.mysqlFetchRow (v.recordSet k') v.library).1 = none :=
      (congrArg Prod.fst hrow).trans row
    obtain ⟨b', v', h'⟩ : ∃ b' v', (call host turns (.cursorFetchRow k'.val)).run v = .ok (b', v') := by
      simp [call, cMySqlCursorFetchRow, (sees.openCursor hk isOpen).2, row', hi']
    have hsame : b' = false ∧ (w.fetched host k).library = v'.library ∧
        SameCursor S.connections S.rival True (f' k = true) (((((w.fetched host k).inspected
          (.errno (w.handle i))).inspected (.error (w.handle i))).onDll fun d => d.setSlotError k
            (host.mysqlErrno (w.handle i) (host.mysqlFetchRow (w.recordSet k) w.library).2)
            (host.mysqlError (w.handle i) (host.mysqlFetchRow (w.recordSet k) w.library).2)).dll.cursors k)
          (v'.dll.cursors k') := by
      cases cMySqlCursorFetchRow_outcome host h' with
      | wrong shut' =>
        rw [(sees.openCursor hk isOpen).2] at shut'
        cases shut'
      | fetched l' hl' isOpen' some' =>
        obtain rfl : k' = l' := Fin.ext (by omega)
        exact absurd row' some'
      | ended l' hl' isOpen' none' j' hj' =>
        obtain rfl : k' = l' := Fin.ext (by omega)
        obtain rfl : i' = j' := Fin.ext (by omega)
        refine ⟨rfl, by simp [World.fetched, hrow], ?_⟩
        simp only [World.fetched, World.inspected_dll, World.onDll_dll, World.performed_dll,
          clearCursorErrors_val, Dll.setCursor_cursors, Dll.setSlotError_cursors, if_true, hrow, hhandle]
        exact ⟨hslot.shut, hslot.isOpen, hslot.recordSet, fun _ => rfl, fun _ => rfl, hslot.owner⟩
    obtain ⟨rfl, hlibrary, hcursor⟩ := hsame
    exact ⟨v', h', sees.of_cursor .fetch .fetch h h' hlibrary hk hf hcursor⟩

/-- Reading a column of the current row, which was fetched when others open cursors as well. -/
theorem Sees.field (sees : Sees S f w v) (hk : S.cursors.Corresponds S.rival.opens k k') {n : ℕ} {s : WStr}
    (h : (call host turns (.getRowField k.val n)).run w = .ok (s, w')) (fetched : S.rival.opens → f k = true)
    (hf : ∀ l, f' l = true → f l = true) :
    ∃ v', (call host turns (.getRowField k'.val n)).run v = .ok (s, v') ∧
      Sees (S.withCursorNumber k) f' w' v' := by
  have hslot := sees.cursor k k' hk
  have hrow : (w.dll.cursors k).currentRow = (v.dll.cursors k').currentRow := hslot.row fetched
  have hkept : (S.rival.opens → f' k = true) → (w.dll.cursors k).currentRow = (v.dll.cursors k').currentRow :=
    fun _ => hrow
  by_cases hshut : (w.dll.cursors k).id = -1
  · obtain ⟨hnone, hnone'⟩ := sees.shutCursor hk hshut
    have hrun {u : World σ} {l : Fin maxCursors} (shut : u.dll.openCursor l.val = none) :
        (call host turns (.getRowField l.val n)).run u = .ok ([], u.onDll wrongCursor) := by
      simp [call, cMySqlGetRowField, shut]
    rw [hrun hnone] at h
    cases h
    refine ⟨_, hrun hnone', sees.of_cursor (.field n) (.field n) (hrun hnone) (hrun hnone')
      (by simpa using sees.library) hk (fun l _ => hf l) ?_⟩
    simp only [World.onDll_dll, wrongCursor_cursors]
    exact ⟨hslot.shut, hslot.isOpen, hslot.recordSet, hkept,
      fun _ => hslot.number fun hopens => absurd hshut (hslot.isOpen hopens), hslot.owner⟩
  · obtain ⟨hopen, hopen'⟩ := sees.openCursor hk hshut
    have hrun := run_getRowField_open host hopen n
    have hrun' := run_getRowField_open host hopen' n
    rw [← sees.recordSet hk hshut, ← sees.library, ← hrow] at hrun'
    have hsame : ∃ v', (call host turns (.getRowField k'.val n)).run v = .ok (s, v') ∧
        w'.library = v'.library ∧
          SameCursor S.connections S.rival True (f' k = true) (w'.dll.cursors k) (v'.dll.cursors k') := by
      rw [call] at h ⊢
      rw [hrun] at h
      rw [hrun']
      by_cases hfield : n < host.mysqlNumFields (w.recordSet k) w.library
      · rw [if_pos hfield] at h ⊢
        cases hcurrent : (w.dll.cursors k).currentRow with
        | none =>
          rw [hcurrent] at h
          cases h
        | some row =>
          simp only [hcurrent] at h ⊢
          by_cases hfits : (multiByteToWideChar (host.rowField row n w.library)).length ≤ maxFieldValue
          · rw [if_pos hfits] at h ⊢
            cases h
            refine ⟨_, rfl, by simpa [World.measured] using sees.library, ?_⟩
            simp only [World.measured, World.inspected_dll, World.onDll_dll, clearCursorErrors_val,
              Dll.setCursor_cursors, Dll.setSlotError_cursors, if_true]
            exact ⟨hslot.shut, hslot.isOpen, hslot.recordSet, hkept, fun _ => rfl, hslot.owner⟩
          · rw [if_neg hfits] at h ⊢
            cases h
            refine ⟨_, rfl, by simpa [World.measured] using sees.library, ?_⟩
            simp only [World.measured, World.inspected_dll, World.onDll_dll, clearCursorErrors_val,
              Dll.setCursor_cursors, Dll.setSlotError_cursors, if_true]
            exact ⟨hslot.shut, hslot.isOpen, hslot.recordSet, hkept, fun _ => rfl, hslot.owner⟩
      · rw [if_neg hfield] at h ⊢
        cases h
        refine ⟨_, rfl, by simpa [World.measured] using sees.library, ?_⟩
        simp only [World.measured, World.inspected_dll, World.onDll_dll, clearCursorErrors_val,
          Dll.setSlotError_cursors, if_true]
        exact ⟨hslot.shut, hslot.isOpen, hslot.recordSet, hkept, fun _ => rfl, hslot.owner⟩
    obtain ⟨v', h', hlibrary, hcursor⟩ := hsame
    exact ⟨v', h', sees.of_cursor (.field n) (.field n) h h' hlibrary hk (fun l _ => hf l) hcursor⟩

/-- Closing a cursor where others open cursors as well: the slot may be somebody else's afterwards. -/
theorem Sees.close_shared (sees : Sees S f w v) (hk : S.cursors k = some k') (shared : S.rival.opens)
    (h : (call host turns (.cursorClose k.val)).run w = .ok ((), w')) (hf : ∀ l, f' l = true → f l = true) :
    ∃ v', (call host turns (.cursorClose k'.val)).run v = .ok ((), v') ∧ Sees (S.dropCursor k) f' w' v' := by
  have isOpen := (sees.cursor k k' (Or.inl hk)).isOpen shared
  obtain ⟨hopen, hopen'⟩ := sees.openCursor (Or.inl hk) isOpen
  obtain ⟨v', h'⟩ : ∃ v', (call host turns (.cursorClose k'.val)).run v = .ok ((), v') := by
    simp [call, cMySqlCursorClose, hopen']
  have hsame : w'.library = v'.library ∧ (v'.dll.cursors k').id = -1 := by
    cases cMySqlCursorClose_outcome host h with
    | wrong shut =>
      rw [hopen] at shut
      cases shut
    | closed l hl =>
      obtain rfl : k = l := Fin.ext (by omega)
      cases cMySqlCursorClose_outcome host h' with
      | wrong shut =>
        rw [hopen'] at shut
        cases shut
      | closed l' hl' =>
        obtain rfl : k' = l' := Fin.ext (by omega)
        exact ⟨by simp [sees.recordSet (Or.inl hk) isOpen, sees.library], by simp⟩
  obtain ⟨hlibrary, hclosed⟩ := hsame
  have hother {l l' : Fin maxCursors} : (S.dropCursor k).cursors l = some l' ↔ l ≠ k ∧ S.cursors l = some l' :=
    Pairing.drop_eq_some_iff
  have on (l : Fin maxCursors) : CursorCall l (.cursorClose l.val) := CursorCall.close
  refine ⟨v', h', sees.of_calls h h' hlibrary rfl sees.connectionsFaithful ?_ ?_ ?_ ?_ ?_ ?_⟩
  · exact sees.cursorsFaithful.drop k
  · intro i i' hi
    exact Or.inl ⟨hi, (on k).touchesConnection _ i, (on k').touchesConnection _ i', id⟩
  · intro unshared i
    exact (sees.handles unshared i).of_calls h h' trivial trivial
  · intro l l' hl
    obtain ⟨hlk, hl⟩ := hother.mp (hl.resolve_right fun h => h.1 shared)
    have hlk' : l' ≠ k' := by
      rintro rfl
      exact hlk (sees.cursorsFaithful.distinct l k l' hl hk)
    exact Or.inl ⟨Or.inl hl, fun ht => hlk ((on k).touchesCursor ht), fun ht => hlk' ((on k').touchesCursor ht), id,
      hf l, fun _ _ _ _ hi => hi⟩
  · intro i' hlive
    rw [call_keeps_connection_slot h' ((on k').touchesConnection _ i')] at hlive
    exact sees.ownConnections i' hlive
  · intro l' isOpen'
    have hlk' : l' ≠ k' := by
      rintro rfl
      exact isOpen' hclosed
    rw [call_keeps_cursor_slot h' fun ht => hlk' ((on k').touchesCursor ht)] at isOpen'
    obtain ⟨l, hl⟩ := sees.ownCursors l' isOpen'
    have hlk : l ≠ k := by
      rintro rfl
      exact hlk' (sees.cursorsFaithful.right_unique hl (Or.inl hk))
    exact ⟨l, Or.inl (hother.mpr ⟨hlk, hl.resolve_right fun h => h.1 shared⟩)⟩

/-- Closing a cursor where nobody else opens cursors: the slot is shut in both worlds. -/
theorem Sees.close_unshared (sees : Sees S f w v) (hk : S.cursors.Corresponds S.rival.opens k k')
    (unshared : ¬S.rival.opens) (h : (call host turns (.cursorClose k.val)).run w = .ok ((), w'))
    (hf : ∀ l, f' l = true → f l = true) :
    ∃ v', (call host turns (.cursorClose k'.val)).run v = .ok ((), v') ∧
      Sees (S.withCursorNumber k) f' w' v' := by
  have hslot := sees.cursor k k' hk
  obtain ⟨v', h'⟩ : ∃ v', (call host turns (.cursorClose k'.val)).run v = .ok ((), v') := by
    by_cases hshut : (w.dll.cursors k).id = -1
    · simp [call, cMySqlCursorClose, (sees.shutCursor hk hshut).2]
    · simp [call, cMySqlCursorClose, (sees.openCursor hk hshut).2]
  cases cMySqlCursorClose_outcome host h with
  | wrong shut =>
    have hshut : (w.dll.cursors k).id = -1 := by simpa [openCursor_val] using shut
    cases cMySqlCursorClose_outcome host h' with
    | wrong => exact ⟨_, h', sees.of_wrong hk hshut .close .close h h' fun l _ => hf l⟩
    | closed l' hl' isOpen' =>
      obtain rfl : k' = l' := Fin.ext (by omega)
      exact absurd (hslot.shut.mp hshut) isOpen'
  | closed l hl isOpen =>
    obtain rfl : k = l := Fin.ext (by omega)
    cases cMySqlCursorClose_outcome host h' with
    | wrong shut' =>
      rw [(sees.openCursor hk isOpen).2] at shut'
      cases shut'
    | closed l' hl' isOpen' =>
      obtain rfl : k' = l' := Fin.ext (by omega)
      refine ⟨_, h', sees.of_cursor .close .close h h' ?_ hk (fun l _ => hf l) ?_⟩
      · simp [sees.recordSet hk isOpen, sees.library]
      · have hrow := hslot.row fun hopens => absurd hopens unshared
        exact
          { shut := iff_of_true (by simp) (by simp)
            isOpen := fun hopens => absurd hopens unshared
            recordSet := fun isOpen => absurd (by simp) isOpen
            row := fun _ => by simpa using hrow
            number := fun _ => by simp [Dll.setSlotError_cursors]
            owner := fun isOpen => absurd (by simp) isOpen }

/-- Closing a cursor. -/
theorem Sees.close (sees : Sees S f w v) (hk : S.cursors k = some k')
    (h : (call host turns (.cursorClose k.val)).run w = .ok ((), w')) (hf : ∀ l, f' l = true → f l = true) :
    ∃ v' S', (call host turns (.cursorClose k'.val)).run v = .ok ((), v') ∧ GivesCursorBack S k k' S' ∧
      Sees S' f' w' v' := by
  by_cases hopens : S.rival.opens
  · obtain ⟨v', h', sees'⟩ := sees.close_shared hk hopens h hf
    refine ⟨v', S.dropCursor k, h', Or.inl ⟨hopens, ?_, rfl⟩, sees'⟩
    intro l hl
    obtain ⟨hlk, hl⟩ := Pairing.drop_eq_some_iff.mp hl
    exact hlk (sees.cursorsFaithful.distinct l k k' hl hk)
  · obtain ⟨v', h', sees'⟩ := sees.close_unshared (Or.inl hk) hopens h hf
    exact ⟨v', S.withCursorNumber k, h', Or.inr ⟨hopens, rfl⟩, sees'⟩

end CursorCall

end MqlMySql
