import MqlMySql.Spec.Rows

/-!
# The ids in the slots

A slot of either table has its own number as its id, or `-1`. Only connecting and disconnecting write the id of
a connection slot, only opening and closing that of a cursor slot.
-/

namespace MqlMySql

open Library

/-- Every slot has the id `-1` or its own number. -/
structure SlotIds (d : Dll) : Prop where
  connections : ∀ i, (d.connections i).id = -1 ∨ (d.connections i).id = i.val
  cursors : ∀ k, (d.cursors k).id = -1 ∨ (d.cursors k).id = k.val

variable {σ : Type} {host : Host σ} {w w' : World σ} {i : Fin maxConnections} {k : Fin maxCursors}

/-- Clearing the errors keeps the ids of the cursors. -/
@[simp] theorem clearCursorErrors_id (d : Dll) (p : ℤ) :
    ((clearCursorErrors p d).cursors k).id = (d.cursors k).id :=
  congrArg Reading.id (reading_clearCursorErrors d k p)

variable (host) in
/-- Sending a query keeps the ids of the connections. -/
theorem World.sent_id (j : Fin maxConnections) (q : WStr) (w : World σ) :
    ((w.sent host j q).dll.connections i).id = (w.dll.connections i).id := by
  by_cases hij : i = j
  · simp [World.sent, hij]
  · simp [World.sent, hij]

/-- Sending a query keeps the ids of the connections. -/
theorem QueryOutcome.connection_id {p : ℤ} {q : WStr} {b : Bool} (h : QueryOutcome host p q w b w') :
    (w'.dll.connections i).id = (w.dll.connections i).id := by
  cases h with
  | noConnection => simp
  | tooBig => simp
  | pending j =>
    have hsent := World.sent_id host (i := i) j q w
    by_cases hij : i = j
    · simpa [hij] using hsent
    · simpa [hij] using hsent
  | executed j => exact World.sent_id host j q w

/-- Executing a query keeps the ids of the connections. -/
theorem ExecuteOutcome.connection_id {turns : ℕ} {p : ℤ} {q : WStr} {b : Bool}
    (h : ExecuteOutcome host turns p q w b w') :
    (w'.dll.connections i).id = (w.dll.connections i).id := by
  cases h with
  | rejected query => exact query.connection_id
  | failed j hp fits quiet drained => simp [drainResults_dll host drained, World.sent_id]
  | succeeded j hp fits quiet drained => simp [drainResults_dll host drained, World.sent_id]

/-- The first half of an opening keeps the ids of the connections. -/
theorem StoreOutcome.connection_id {j : Fin maxConnections} {q : WStr} {l : Fin maxCursors}
    {rs : Option MysqlRes} (h : StoreOutcome host j q l w rs w') :
    (w'.dll.connections i).id = (w.dll.connections i).id := by
  have hopening : ((w.opening j.val l).dll.connections i).id = (w.dll.connections i).id := by
    simp [World.opening]
  cases h with
  | rejected query => exact query.connection_id.trans hopening
  | stored =>
    have hsent := World.sent_id host (i := i) j q (w.opening j.val l)
    simpa [hopening] using hsent

variable (host) in
/-- Keeping the error of a failed opening keeps the ids of the connections. -/
theorem World.blamed_id (j : Fin maxConnections) (w : World σ) :
    ((w.blamed host j).dll.connections i).id = (w.dll.connections i).id := by
  by_cases hij : i = j
  · simp [World.blamed, hij]
  · simp [World.blamed, hij]

/-- Opening a cursor keeps the ids of the connections. -/
theorem OpenOutcome.connection_id {p r : ℤ} {q : WStr} (h : OpenOutcome host p q w r w') :
    (w'.dll.connections i).id = (w.dll.connections i).id := by
  cases h with
  | noConnection => simp
  | full => simp
  | opened j hp l free res store => simpa using store.connection_id
  | @refused j hp l free w₂ store =>
    have hblamed := (World.blamed_id host (i := i) j w₂).trans store.connection_id
    by_cases hij : i = j
    · simpa [hij] using hblamed
    · simpa [hij] using hblamed
  | undecided j hp l free store => exact (World.blamed_id host j _).trans store.connection_id

/-- The calls other than connecting and disconnecting keep the ids of the connections. -/
theorem call_connection_id {turns : ℕ} {e : Exported} {r : e.Reply}
    (h : (call host turns e).run w = .ok (r, w')) (keeps : Registry.KeepsConnections e) :
    (w'.dll.connections i).id = (w.dll.connections i).id := by
  cases e with
  | connect c => cases keeps
  | disconnect p => cases keeps
  | execute p q => exact (cMySqlExecute_outcome host h).connection_id
  | cursorOpen p q => exact (cMySqlCursorOpen_outcome host h).connection_id
  | cursorClose p =>
    cases cMySqlCursorClose_outcome host h with
    | wrong => simp
    | closed l hl =>
      subst hl
      simp
  | cursorRows p => cases cMySqlCursorRows_outcome host h <;> simp
  | cursorFetchRow p => cases cMySqlCursorFetchRow_outcome host h <;> simp [World.fetched]
  | getRowField p f => cases cMySqlGetRowField_outcome host h <;> simp [World.measured]
  | rowsAffected p => cases cMySqlRowsAffected_outcome host h <;> simp
  | getMySqlErrorNumber p | getMySqlErrorDescription p | getCursorErrorNumber p
  | getCursorErrorDescription p =>
    cases h
    rfl

/-- Connecting writes the number of the slot which it takes. -/
theorem ConnectOutcome.connection_id {c : Credentials} {r : ℤ} (h : ConnectOutcome host c w r w') :
    (w'.dll.connections i).id = (w.dll.connections i).id ∨ (w'.dll.connections i).id = i.val := by
  cases h with
  | full => exact Or.inl (by simp)
  | unallocated => exact Or.inl (by simp)
  | refused j free mysql allocated answer =>
    apply Or.inl
    by_cases hij : i = j
    · simp [hij, World.asked]
    · simp [hij, World.asked]
  | connected j free mysql allocated answer =>
    by_cases hij : i = j
    · exact Or.inr (by simp [hij])
    · exact Or.inl (by simp [hij, World.asked])

/-- Disconnecting writes `-1`. -/
theorem DisconnectOutcome.connection_id {p : ℤ} (h : DisconnectOutcome host p w w') :
    (w'.dll.connections i).id = (w.dll.connections i).id ∨ (w'.dll.connections i).id = -1 := by
  cases h with
  | dead => exact Or.inl (by simp)
  | closed j hp live =>
    subst hp
    by_cases hij : i = j
    · exact Or.inr (by simp [hij])
    · exact Or.inl (by simp [hij])

/-- Opening writes the number of the slot which it takes, or `-1`. -/
theorem OpenOutcome.cursor_id {p r : ℤ} {q : WStr} (h : OpenOutcome host p q w r w') :
    (w'.dll.cursors k).id = (w.dll.cursors k).id ∨ (w'.dll.cursors k).id = -1 ∨
      (w'.dll.cursors k).id = k.val := by
  by_cases hk : getNewCursorId w.dll = k.val
  · have hslot : ∀ l : Fin maxCursors, getNewCursorId w.dll = l.val → l = k := by
      intro l hl
      exact Fin.ext (by omega)
    cases h with
    | noConnection => exact Or.inl (by simp)
    | full => exact Or.inl (by simp)
    | opened i hp l free =>
      obtain rfl := hslot l free
      exact Or.inr (Or.inr (by simp))
    | refused i hp l free =>
      obtain rfl := hslot l free
      exact Or.inr (Or.inl (by simp))
    | undecided i hp l free store =>
      obtain rfl := hslot l free
      exact Or.inl (by simpa [World.blamed] using store.cursor_id)
  · exact Or.inl (congrArg Reading.id (h.reading_of_ne hk))

/-- Closing writes `-1`. -/
theorem CloseOutcome.cursor_id {p : ℤ} (h : CloseOutcome host p w w') :
    (w'.dll.cursors k).id = (w.dll.cursors k).id ∨ (w'.dll.cursors k).id = -1 := by
  cases h with
  | wrong => exact Or.inl (by simp)
  | closed l hl =>
    subst hl
    by_cases hkl : k = l
    · exact Or.inr (by simp [hkl])
    · exact Or.inl (by simp [hkl])

/-- The calls other than opening and closing keep the ids of the cursors. -/
theorem call_cursor_id {turns : ℕ} {e : Exported} {r : e.Reply}
    (h : (call host turns e).run w = .ok (r, w')) (keeps : Registry.KeepsCursors e) :
    (w'.dll.cursors k).id = (w.dll.cursors k).id := by
  have hkept (keeps : KeepsReadings e) : (w'.dll.cursors k).id = (w.dll.cursors k).id :=
    congrArg Reading.id (call_keeps_readings h keeps)
  cases e with
  | cursorFetchRow p =>
    cases cMySqlCursorFetchRow_outcome host h with
    | wrong => simp
    | fetched l =>
      by_cases hkl : k = l
      · simp [World.fetched, hkl]
      · simp [World.fetched, hkl]
    | ended l =>
      by_cases hkl : k = l
      · simp [World.fetched, hkl]
      · simp [World.fetched, hkl]
  | cursorOpen p q => cases keeps
  | cursorClose p => cases keeps
  | _ => exact hkept trivial

/-- Every call keeps the ids proper. -/
theorem SlotIds.step {turns : ℕ} {e : Exported} {r : e.Reply} (inv : SlotIds w.dll)
    (h : (call host turns e).run w = .ok (r, w')) : SlotIds w'.dll where
  connections := by
    intro i
    have hi := inv.connections i
    cases e with
    | connect c => rcases (cMySqlConnect_outcome host h).connection_id (i := i) with h | h <;> omega
    | disconnect p => rcases (cMySqlDisconnect_outcome host h).connection_id (i := i) with h | h <;> omega
    | _ =>
      rw [call_connection_id h trivial]
      exact hi
  cursors := by
    intro k
    have hk := inv.cursors k
    cases e with
    | cursorOpen p q => rcases (cMySqlCursorOpen_outcome host h).cursor_id (k := k) with h | h | h <;> omega
    | cursorClose p => rcases (cMySqlCursorClose_outcome host h).cursor_id (k := k) with h | h <;> omega
    | _ =>
      rw [call_cursor_id h trivial]
      exact hk

/-- At process attach all ids are `-1`. -/
theorem SlotIds.attached (library : σ) : SlotIds (attach library).dll where
  connections _ := Or.inl rfl
  cursors _ := Or.inl rfl

end MqlMySql
