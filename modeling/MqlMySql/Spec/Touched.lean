import MqlMySql.Spec.Marks
import MqlMySql.Spec.Rows

/-!
# What a call leaves alone

A call changes the slots which it names, the free slot which it may take, and the DLL-wide numbers which it sets.
-/

namespace MqlMySql

open Library

variable {σ : Type} {host : Host σ} {turns : ℕ} {w w' : World σ} {p : ℤ} {q : WStr}

/-- The call takes the number of the connection slot. -/
def NamesConnection (i : Fin maxConnections) : Exported → Prop
  | .disconnect p | .execute p _ | .cursorOpen p _ => p = i.val
  | _ => False

/-- The call takes the number of the cursor slot. -/
def NamesCursor (k : Fin maxCursors) : Exported → Prop
  | .cursorClose p | .cursorRows p | .cursorFetchRow p | .getRowField p _ => p = k.val
  | _ => False

/-- The call may change the connection slot: it takes the number, or the slot is the free one for a new
connection. -/
def TouchesConnection (d : Dll) (i : Fin maxConnections) : Exported → Prop
  | .connect _ => getNewConnectionId d = i.val
  | .disconnect p | .execute p _ | .cursorOpen p _ => p = i.val
  | _ => False

/-- The call may change the cursor slot: it takes the number, or the slot is the free one for a new cursor. -/
def TouchesCursor (d : Dll) (k : Fin maxCursors) : Exported → Prop
  | .cursorOpen p _ => p ≠ -1 ∧ getNewCursorId d = k.val
  | .cursorClose p | .cursorRows p | .cursorFetchRow p | .getRowField p _ => p = k.val
  | _ => False

/-- A call which touches a connection slot takes its number, or is a connect to which the slot is free. -/
theorem TouchesConnection.names_or_free {d : Dll} {i : Fin maxConnections} {e : Exported}
    (h : TouchesConnection d i e) : NamesConnection i e ∨ (d.connections i).id = -1 ∧ ∃ c, e = .connect c := by
  cases e with
  | connect c => exact Or.inr ⟨getNewConnectionId_free h, c, rfl⟩
  | disconnect | execute | cursorOpen => exact Or.inl h
  | _ => exact h.elim

/-- A call which touches a cursor slot takes its number, or is an opening to which the slot is free. -/
theorem TouchesCursor.names_or_free {d : Dll} {k : Fin maxCursors} {e : Exported} (h : TouchesCursor d k e) :
    NamesCursor k e ∨ (d.cursors k).id = -1 ∧ ∃ p q, e = .cursorOpen p q := by
  cases e with
  | cursorOpen p q => exact Or.inr ⟨getNewCursorId_free h.2, p, q, rfl⟩
  | cursorClose | cursorRows | cursorFetchRow | getRowField => exact Or.inl h
  | _ => exact h.elim

section Connections

variable {i : Fin maxConnections}

/-- Clearing the errors of another number leaves the slot. -/
theorem clearErrors_connections_of_ne (hp : p ≠ i.val) (d : Dll) :
    (clearErrors p d).connections i = d.connections i := by
  rw [clearErrors_connections, if_neg hp]

/-- Sending a query on another connection leaves the slot. -/
theorem World.sent_connections_of_ne {j : Fin maxConnections} (hij : i ≠ j) :
    (w.sent host j q).dll.connections i = w.dll.connections i := by
  have hp : (j.val : ℤ) ≠ i.val := fun h => hij (Fin.ext (by omega))
  simp [World.sent, hij, Dll.setConnectionError]

/-- `MySqlExecute` with another number leaves the slot, on each of its ways. -/
theorem QueryOutcome.connections_of_ne {b : Bool} (h : QueryOutcome host p q w b w') (hp : p ≠ i.val) :
    w'.dll.connections i = w.dll.connections i := by
  have hij {j : Fin maxConnections} (hj : p = j.val) : i ≠ j := by
    rintro rfl
    exact hp hj
  cases h with
  | noConnection => simp [clearErrors_connections_of_ne hp]
  | tooBig => simp [clearErrors_connections_of_ne hp]
  | pending j hj => simp [hij hj, World.sent_connections_of_ne (hij hj)]
  | executed j hj => exact World.sent_connections_of_ne (hij hj)

/-- The first half of an opening on another connection leaves the slot. -/
theorem StoreOutcome.connections_of_ne {j : Fin maxConnections} {k : Fin maxCursors} {rs : Option MysqlRes}
    (h : StoreOutcome host j q k w rs w') (hij : i ≠ j) : w'.dll.connections i = w.dll.connections i := by
  have hp : (j.val : ℤ) ≠ i.val := fun h => hij (Fin.ext (by omega))
  have hopening : (w.opening j.val k).dll.connections i = w.dll.connections i := by
    simp [World.opening, hij, Dll.setConnectionError]
  cases h with
  | rejected query => rw [query.connections_of_ne hp, hopening]
  | stored =>
    rw [World.onDll_dll, Dll.setCursor_connections, World.performed_dll, World.sent_connections_of_ne hij,
      hopening]

/-- An opening with another number leaves the slot, since its error goes to its own connection. -/
theorem OpenOutcome.connections_of_ne {r : ℤ} (h : OpenOutcome host p q w r w') (hp : p ≠ i.val) :
    w'.dll.connections i = w.dll.connections i := by
  have hij {j : Fin maxConnections} (hj : p = j.val) : i ≠ j := by
    rintro rfl
    exact hp hj
  cases h with
  | noConnection => simp [clearErrors_connections_of_ne hp]
  | full j hj => simp [Dll.setConnectionError, hij hj, clearErrors_connections_of_ne hp]
  | opened j hj k free res store => simp [store.connections_of_ne (hij hj)]
  | refused j hj k free store => simp [World.blamed, hij hj, store.connections_of_ne (hij hj)]
  | undecided j hj k free store => simp [World.blamed, hij hj, store.connections_of_ne (hij hj)]

/-- An execute with another number leaves the slot, since its error goes to its own connection. -/
theorem ExecuteOutcome.connections_of_ne {b : Bool} (h : ExecuteOutcome host turns p q w b w')
    (hp : p ≠ i.val) : w'.dll.connections i = w.dll.connections i := by
  have hij {j : Fin maxConnections} (hj : p = j.val) : i ≠ j := by
    rintro rfl
    exact hp hj
  cases h with
  | rejected query => exact query.connections_of_ne hp
  | failed j hj fits quiet drained =>
    have hdll := drainResults_dll host drained
    simp [hdll, Dll.setConnectionError, hij hj, World.sent_connections_of_ne (hij hj)]
  | succeeded j hj fits quiet drained =>
    have hdll := drainResults_dll host drained
    simp [hdll, World.sent_connections_of_ne (hij hj)]

/-- A call leaves a connection slot which it does not touch. -/
theorem call_keeps_connection_slot {e : Exported} {r : e.Reply}
    (h : (call host turns e).run w = .ok (r, w')) (touches : ¬TouchesConnection w.dll i e) :
    w'.dll.connections i = w.dll.connections i := by
  cases e with
  | connect c =>
    have hij {j : Fin maxConnections} (free : getNewConnectionId w.dll = j.val) : i ≠ j := by
      rintro rfl
      exact touches free
    cases cMySqlConnect_outcome host h with
    | full => simp
    | unallocated => simp
    | refused j free => simp [World.asked, hij free]
    | connected j free => simp [World.asked, hij free]
  | disconnect p =>
    cases cMySqlDisconnect_outcome host h with
    | dead => simp [clearErrors_connections_of_ne touches]
    | closed j hj =>
      have hij : i ≠ j := by
        rintro rfl
        exact touches hj
      subst hj
      simp [Dll.setConnectionError, hij]
  | execute p q => exact (cMySqlExecute_outcome host h).connections_of_ne touches
  | cursorOpen p q => exact (cMySqlCursorOpen_outcome host h).connections_of_ne touches
  | cursorClose p =>
    cases cMySqlCursorClose_outcome host h with
    | wrong => simp
    | closed k hk =>
      subst hk
      simp
  | cursorRows p => cases cMySqlCursorRows_outcome host h <;> simp
  | cursorFetchRow p => cases cMySqlCursorFetchRow_outcome host h <;> simp [World.fetched]
  | getRowField p f => cases cMySqlGetRowField_outcome host h <;> simp [World.measured]
  | rowsAffected p => cases cMySqlRowsAffected_outcome host h <;> simp
  | getMySqlErrorNumber p | getMySqlErrorDescription p | getCursorErrorNumber p
  | getCursorErrorDescription p =>
    cases h
    rfl

end Connections

section Cursors

variable {k : Fin maxCursors}

/-- The first half of an opening writes to the free slot alone. -/
theorem StoreOutcome.cursors_of_ne {i : Fin maxConnections} {l : Fin maxCursors} {rs : Option MysqlRes}
    (h : StoreOutcome host i q l w rs w') (hkl : k ≠ l) : w'.dll.cursors k = w.dll.cursors k := by
  cases h with
  | rejected query =>
    rw [query.cursors]
    simp [World.opening, hkl]
  | stored => simp [World.opening, hkl]

/-- An opening leaves every cursor slot but the free one which it takes. -/
theorem OpenOutcome.cursors_of_ne {r : ℤ} (h : OpenOutcome host p q w r w')
    (touches : ¬TouchesCursor w.dll k (.cursorOpen p q)) : w'.dll.cursors k = w.dll.cursors k := by
  have hkl {i : Fin maxConnections} (hi : p = i.val) {l : Fin maxCursors}
      (free : getNewCursorId w.dll = l.val) : k ≠ l := by
    rintro rfl
    exact touches ⟨by rw [hi]; exact val_ne_neg_one i, free⟩
  cases h with
  | noConnection => simp
  | full => simp
  | opened i hi l free res store => simp [hkl hi free, store.cursors_of_ne (hkl hi free)]
  | refused i hi l free store => simp [World.blamed, hkl hi free, store.cursors_of_ne (hkl hi free)]
  | undecided i hi l free store => simp [World.blamed, store.cursors_of_ne (hkl hi free)]

/-- Clearing the errors of another number leaves the cursor slot. -/
theorem clearCursorErrors_cursors_of_ne (hp : p ≠ k.val) (d : Dll) :
    (clearCursorErrors p d).cursors k = d.cursors k := by
  unfold clearCursorErrors
  split
  · rfl
  · split
    · rename_i l hl
      obtain rfl := slotIndex_eq_some_iff.mp hl
      have hkl : k ≠ l := by
        rintro rfl
        exact hp rfl
      rw [Dll.setSlotError_cursors, if_neg hkl]
    · rfl

/-- A call leaves a cursor slot which it does not touch. -/
theorem call_keeps_cursor_slot {e : Exported} {r : e.Reply} (h : (call host turns e).run w = .ok (r, w'))
    (touches : ¬TouchesCursor w.dll k e) : w'.dll.cursors k = w.dll.cursors k := by
  have hkl {p : ℤ} (hne : p ≠ k.val) {l : Fin maxCursors} (hl : p = l.val) : k ≠ l := by
    rintro rfl
    exact hne hl
  cases e with
  | connect c => rw [(cMySqlConnect_outcome host h).cursors]
  | disconnect p => rw [(cMySqlDisconnect_outcome host h).cursors]
  | execute p q => rw [(cMySqlExecute_outcome host h).cursors]
  | cursorOpen p q => exact (cMySqlCursorOpen_outcome host h).cursors_of_ne touches
  | cursorClose p =>
    cases cMySqlCursorClose_outcome host h with
    | wrong => simp [clearCursorErrors_cursors_of_ne touches]
    | closed l hl =>
      have hne := hkl touches hl
      subst hl
      simp [Dll.setSlotError_cursors, hne]
  | cursorRows p =>
    cases cMySqlCursorRows_outcome host h with
    | wrong => simp [clearCursorErrors_cursors_of_ne touches]
    | counted => simp [clearCursorErrors_cursors_of_ne touches]
  | cursorFetchRow p =>
    cases cMySqlCursorFetchRow_outcome host h with
    | wrong => simp [clearCursorErrors_cursors_of_ne touches]
    | fetched l hl =>
      have hne := hkl touches hl
      simp [World.fetched, hne, Dll.setSlotError_cursors]
    | ended l hl =>
      have hne := hkl touches hl
      simp [World.fetched, hne, Dll.setSlotError_cursors]
  | getRowField p f =>
    cases cMySqlGetRowField_outcome host h with
    | wrong => simp
    | noField l hl =>
      have hne := hkl touches hl
      simp [World.measured, hne, Dll.setSlotError_cursors]
    | read l hl =>
      have hne := hkl touches hl
      simp [World.measured, hne, Dll.setSlotError_cursors]
    | tooBig l hl =>
      have hne := hkl touches hl
      simp [World.measured, hne, Dll.setSlotError_cursors]
  | rowsAffected p => cases cMySqlRowsAffected_outcome host h <;> simp
  | getMySqlErrorNumber p | getMySqlErrorDescription p | getCursorErrorNumber p
  | getCursorErrorDescription p =>
    cases h
    rfl

end Cursors

section Numbers

/-- The number which a call writes to the DLL-wide `MySqlErrorNumber`, for calls other than `cMySqlConnect`. -/
def numberSet : Exported → ℤ
  | .execute p _ | .cursorOpen p _ => if p = -1 then -2 else -6
  | _ => -2

/-- The number which a call writes to the DLL-wide `CursorErrorNumber`. -/
def cursorNumberSet : Exported → ℤ
  | .cursorOpen _ _ => 0
  | _ => -5

/-- A query sets the DLL-wide number when it is refused before the library sees it. -/
theorem QueryOutcome.number_wide {b : Bool} (h : QueryOutcome host p q w b w') :
    w'.dll.mySqlErrorNumber =
      if p = -1 ∨ ¬QueryFits q then numberSet (.execute p q) else w.dll.mySqlErrorNumber := by
  cases h with
  | noConnection hp => simp [hp, numberSet]
  | tooBig hp big => simp [hp, big, numberSet]
  | pending i hp fits => simp [hp, fits, val_ne_neg_one, World.sent]
  | executed i hp fits => simp [hp, fits, val_ne_neg_one, World.sent]

/-- An execute sets the DLL-wide number when its query does; the result loop never does. -/
theorem ExecuteOutcome.number_wide {b : Bool} (h : ExecuteOutcome host turns p q w b w') :
    w'.dll.mySqlErrorNumber =
      if p = -1 ∨ ¬QueryFits q then numberSet (.execute p q) else w.dll.mySqlErrorNumber := by
  cases h with
  | rejected query => exact query.number_wide
  | failed i hp fits quiet drained =>
    have hdll := drainResults_dll host drained
    simp [hdll, hp, fits, val_ne_neg_one, World.sent]
  | succeeded i hp fits quiet drained =>
    have hdll := drainResults_dll host drained
    simp [hdll, hp, fits, val_ne_neg_one, World.sent]

/-- An opening on a live connection sets the DLL-wide number when its query is too big. -/
theorem StoreOutcome.number_wide {i : Fin maxConnections} {k : Fin maxCursors} {rs : Option MysqlRes}
    (h : StoreOutcome host i q k w rs w') :
    w'.dll.mySqlErrorNumber = if ¬QueryFits q then -6 else w.dll.mySqlErrorNumber := by
  cases h with
  | rejected query =>
    rw [query.number_wide]
    simp [val_ne_neg_one, numberSet, World.opening]
  | stored fits => simp [fits, World.sent, World.opening]

/-- An opening sets the DLL-wide number with the number -1, or when a query which is too big finds a free slot. -/
theorem OpenOutcome.number_wide {r : ℤ} (h : OpenOutcome host p q w r w') :
    w'.dll.mySqlErrorNumber =
      if SetsNumber w.dll (.cursorOpen p q) then numberSet (.execute p q) else w.dll.mySqlErrorNumber := by
  cases h with
  | noConnection hp => simp [hp, numberSet, SetsNumber]
  | full i hp none_free => simp [hp, SetsNumber, val_ne_neg_one, none_free]
  | opened i hp k free res store => simp [hp, SetsNumber, val_ne_neg_one, free, store.number_wide, numberSet]
  | refused i hp k free store =>
    simp [hp, SetsNumber, val_ne_neg_one, free, store.number_wide, numberSet, World.blamed]
  | undecided i hp k free store =>
    simp [hp, SetsNumber, val_ne_neg_one, free, store.number_wide, numberSet, World.blamed]

/-- The DLL-wide `MySqlErrorNumber` after a call other than `cMySqlConnect`. -/
theorem call_number {e : Exported} {r : e.Reply} (h : (call host turns e).run w = .ok (r, w'))
    (hne : ∀ c, e ≠ .connect c) :
    w'.dll.mySqlErrorNumber = if SetsNumber w.dll e then numberSet e else w.dll.mySqlErrorNumber := by
  cases e with
  | connect c => exact absurd rfl (hne c)
  | disconnect p =>
    cases cMySqlDisconnect_outcome host h with
    | dead dead => simp [SetsNumber, dead, numberSet]
    | closed i hi live =>
      subst hi
      simp [SetsNumber, liveConnection_val, live]
  | execute p q => exact (cMySqlExecute_outcome host h).number_wide
  | cursorOpen p q => exact (cMySqlCursorOpen_outcome host h).number_wide
  | cursorClose p =>
    cases cMySqlCursorClose_outcome host h with
    | wrong => simp [SetsNumber]
    | closed k hk =>
      subst hk
      simp [SetsNumber]
  | cursorRows p => cases cMySqlCursorRows_outcome host h <;> simp [SetsNumber]
  | cursorFetchRow p => cases cMySqlCursorFetchRow_outcome host h <;> simp [SetsNumber, World.fetched]
  | getRowField p f => cases cMySqlGetRowField_outcome host h <;> simp [SetsNumber, World.measured]
  | rowsAffected p =>
    cases cMySqlRowsAffected_outcome host h with
    | noConnection hp => simp [SetsNumber, hp, numberSet]
    | counted i hp => simp [SetsNumber, hp, val_ne_neg_one]
  | getMySqlErrorNumber p | getMySqlErrorDescription p | getCursorErrorNumber p
  | getCursorErrorDescription p =>
    cases h
    rfl

/-- A query leaves the DLL-wide cursor number. -/
theorem QueryOutcome.cursorNumber {b : Bool} (h : QueryOutcome host p q w b w') :
    w'.dll.cursorErrorNumber = w.dll.cursorErrorNumber := by
  cases h <;> simp [World.sent]

/-- An execute leaves the DLL-wide cursor number. -/
theorem ExecuteOutcome.cursorNumber {b : Bool} (h : ExecuteOutcome host turns p q w b w') :
    w'.dll.cursorErrorNumber = w.dll.cursorErrorNumber := by
  cases h with
  | rejected query => exact query.cursorNumber
  | failed i hp fits quiet drained =>
    have hdll := drainResults_dll host drained
    simp [hdll, World.sent]
  | succeeded i hp fits quiet drained =>
    have hdll := drainResults_dll host drained
    simp [hdll, World.sent]

/-- The DLL-wide cursor number has been cleared when the query of an opening is sent. -/
theorem StoreOutcome.cursorNumber {i : Fin maxConnections} {k : Fin maxCursors} {rs : Option MysqlRes}
    (h : StoreOutcome host i q k w rs w') : w'.dll.cursorErrorNumber = 0 := by
  cases h with
  | rejected query =>
    rw [query.cursorNumber]
    simp [World.opening]
  | stored => simp [World.opening, World.sent]

/-- Every opening clears the DLL-wide cursor number, and none sets it again. -/
theorem OpenOutcome.cursorNumber {r : ℤ} (h : OpenOutcome host p q w r w') : w'.dll.cursorErrorNumber = 0 := by
  cases h with
  | noConnection => simp
  | full => simp
  | opened i hp k free res store => simp [store.cursorNumber]
  | refused i hp k free store => simp [World.blamed, store.cursorNumber]
  | undecided i hp k free store => simp [World.blamed, store.cursorNumber]

/-- The DLL-wide `CursorErrorNumber` after a call. -/
theorem call_cursorNumber {e : Exported} {r : e.Reply} (h : (call host turns e).run w = .ok (r, w')) :
    w'.dll.cursorErrorNumber =
      if SetsCursorNumber w.dll e then cursorNumberSet e else w.dll.cursorErrorNumber := by
  cases e with
  | connect c => cases cMySqlConnect_outcome host h <;> simp [SetsCursorNumber, World.asked]
  | disconnect p =>
    cases cMySqlDisconnect_outcome host h with
    | dead => simp [SetsCursorNumber]
    | closed i hi =>
      subst hi
      simp [SetsCursorNumber]
  | execute p q => simp [SetsCursorNumber, (cMySqlExecute_outcome host h).cursorNumber]
  | cursorOpen p q => simp [SetsCursorNumber, cursorNumberSet, (cMySqlCursorOpen_outcome host h).cursorNumber]
  | cursorClose p =>
    cases cMySqlCursorClose_outcome host h with
    | wrong shut => simp [SetsCursorNumber, shut, cursorNumberSet]
    | closed k hk isOpen =>
      subst hk
      simp [SetsCursorNumber, openCursor_val, isOpen]
  | cursorRows p =>
    cases cMySqlCursorRows_outcome host h with
    | wrong shut => simp [SetsCursorNumber, shut, cursorNumberSet]
    | counted k hk isOpen =>
      subst hk
      simp [SetsCursorNumber, openCursor_val, isOpen]
  | cursorFetchRow p =>
    cases cMySqlCursorFetchRow_outcome host h with
    | wrong shut => simp [SetsCursorNumber, shut, cursorNumberSet]
    | fetched k hk isOpen => simp [SetsCursorNumber, hk, openCursor_val, isOpen, World.fetched]
    | ended k hk isOpen => simp [SetsCursorNumber, hk, openCursor_val, isOpen, World.fetched]
  | getRowField p f =>
    cases cMySqlGetRowField_outcome host h with
    | wrong shut => simp [SetsCursorNumber, shut, cursorNumberSet]
    | noField k hk isOpen => simp [SetsCursorNumber, hk, openCursor_val, isOpen, World.measured]
    | read k hk isOpen => simp [SetsCursorNumber, hk, openCursor_val, isOpen, World.measured]
    | tooBig k hk isOpen => simp [SetsCursorNumber, hk, openCursor_val, isOpen, World.measured]
  | rowsAffected p => cases cMySqlRowsAffected_outcome host h <;> simp [SetsCursorNumber]
  | getMySqlErrorNumber p | getMySqlErrorDescription p | getCursorErrorNumber p
  | getCursorErrorDescription p =>
    cases h
    rfl

end Numbers

end MqlMySql
