import MqlMySql.Library.Pairing
import MqlMySql.Spec.Touched
import MqlMySql.Spec.SlotIds

/-!
# The same slots in two worlds

One client is followed in two worlds: in the first somebody else uses the DLL as well, in the second nobody
does. The slots of the client have other numbers in the second world, so they are paired; paired slots hold the
same, and in the second world all taken slots are the client's. A table from which the others take no slot holds
the same in both worlds. The DLL-wide numbers are left out here, as others write them.
-/

namespace MqlMySql

open Library

/-- Which slots of the client are paired, for which of them the error numbers were written by the client, so that
they are the same, and what the others do. -/
structure Pairs where
  connections : Pairing maxConnections
  cursors : Pairing maxCursors
  numbered : Fin maxConnections → Prop
  counted : Fin maxCursors → Prop
  rival : Rival

namespace Pairs

/-- The client has no slots. -/
def none (rival : Rival) : Pairs := ⟨fun _ => .none, fun _ => .none, fun _ => False, fun _ => False, rival⟩

variable (S : Pairs)

/-- A connection was taken. Its slot keeps the number of its last use. -/
def addConnection (i i' : Fin maxConnections) : Pairs :=
  { S with
    connections := Function.update S.connections i (some i')
    numbered := Function.update S.numbered i False }

/-- A connection was given back. -/
def dropConnection (i : Fin maxConnections) : Pairs :=
  { S with connections := Function.update S.connections i .none }

/-- The number of a connection was written. -/
def withNumber (i : Fin maxConnections) : Pairs := { S with numbered := Function.update S.numbered i True }

/-- A cursor was opened. Its slot keeps the number of its last use. -/
def addCursor (k k' : Fin maxCursors) : Pairs :=
  { S with
    cursors := Function.update S.cursors k (some k')
    counted := Function.update S.counted k False }

/-- A cursor was closed. -/
def dropCursor (k : Fin maxCursors) : Pairs := { S with cursors := Function.update S.cursors k .none }

/-- The number of a cursor was written. -/
def withCursorNumber (k : Fin maxCursors) : Pairs := { S with counted := Function.update S.counted k True }

variable (i i' : Fin maxConnections) (k k' : Fin maxCursors)

theorem addConnection_connections :
    (S.addConnection i i').connections = Function.update S.connections i (some i') := rfl

theorem addConnection_numbered : (S.addConnection i i').numbered = Function.update S.numbered i False := rfl

theorem dropConnection_connections :
    (S.dropConnection i).connections = Function.update S.connections i .none := rfl

theorem withNumber_numbered : (S.withNumber i).numbered = Function.update S.numbered i True := rfl

theorem addCursor_cursors : (S.addCursor k k').cursors = Function.update S.cursors k (some k') := rfl

theorem dropCursor_cursors : (S.dropCursor k).cursors = Function.update S.cursors k .none := rfl

theorem withCursorNumber_counted : (S.withCursorNumber k).counted = Function.update S.counted k True := rfl

end Pairs

/-- Two live connection slots with the same contents. -/
structure SameConnection (numbered : Prop) (a b : Connection) : Prop where
  live : a.id ≠ -1
  live' : b.id ≠ -1
  handle : a.connection = b.connection
  number : numbered → a.mySqlErrorNumber = b.mySqlErrorNumber

/-- Two connection slots with the same handle, live or not. -/
structure SameHandle (a b : Connection) : Prop where
  free : a.id = -1 ↔ b.id = -1
  handle : a.connection = b.connection

/-- Two cursor slots with the same contents. Where others open cursors as well, the slots are open, and hold the
same row or number only once it was fetched or written. -/
structure SameCursor (t : Pairing maxConnections) (rival : Rival) (counted fetched : Prop) (a b : Cursor) :
    Prop where
  shut : a.id = -1 ↔ b.id = -1
  isOpen : rival.opens → a.id ≠ -1
  recordSet : a.id ≠ -1 → a.recordSet = b.recordSet
  row : (rival.opens → fetched) → a.currentRow = b.currentRow
  number : (rival.opens → counted) → a.cursorErrorNumber = b.cursorErrorNumber
  owner : a.id ≠ -1 → ∃ i i', a.connection = i.val ∧ b.connection = i'.val ∧ t.Corresponds rival.connects i i'

variable {σ : Type}

/-- The slots of a client in the world `w`, which others use too, and in the world `v`, which nobody else uses.
For the cursors in `fetched` the current row was fetched since they were opened. -/
structure Sees (S : Pairs) (fetched : Fin maxCursors → Bool) (w v : World σ) : Prop where
  library : w.library = v.library
  connectionsFaithful : S.connections.Faithful S.rival.connects
  cursorsFaithful : S.cursors.Faithful S.rival.opens
  connection : ∀ i i', S.connections i = some i' →
    SameConnection (S.numbered i) (w.dll.connections i) (v.dll.connections i')
  handles : ¬S.rival.connects → ∀ i, SameHandle (w.dll.connections i) (v.dll.connections i)
  cursor : ∀ k k', S.cursors.Corresponds S.rival.opens k k' →
    SameCursor S.connections S.rival (S.counted k) (fetched k = true) (w.dll.cursors k) (v.dll.cursors k')
  ownConnections : ∀ i', (v.dll.connections i').id ≠ -1 → ∃ i, S.connections i = some i'
  ownCursors : ∀ k', (v.dll.cursors k').id ≠ -1 → ∃ k, S.cursors.Corresponds S.rival.opens k k'

section Slots

variable {t t' : Pairing maxConnections} {rival : Rival} {counted counted' fetched fetched' : Prop} {a b : Cursor}

/-- What is known of two cursor slots remains known with other pairs of connections, as long as the owner keeps
its partner, and when less was written or fetched. -/
theorem SameCursor.mono (h : SameCursor t rival counted fetched a b) (hcounted : counted' → counted)
    (hfetched : fetched' → fetched) (howner : ∀ i i' : Fin maxConnections, a.id ≠ -1 → a.connection = i.val →
      t.Corresponds rival.connects i i' → t'.Corresponds rival.connects i i') :
    SameCursor t' rival counted' fetched' a b :=
  { h with
    row := fun hrow => h.row fun hopens => hfetched (hrow hopens)
    number := fun hnumber => h.number fun hopens => hcounted (hnumber hopens)
    owner := by
      intro isOpen
      obtain ⟨i, i', hi, hi', hpair⟩ := h.owner isOpen
      exact ⟨i, i', hi, hi', howner i i' isOpen hi hpair⟩ }

/-- Counterparts are open together. -/
theorem SameCursor.isOpen_iff (h : SameCursor t rival counted fetched a b) : a.id ≠ -1 ↔ b.id ≠ -1 :=
  not_congr h.shut

variable {S : Pairs} {f : Fin maxCursors → Bool} {w v : World σ}

/-- Corresponding connections have one handle, so that a call on one is a call on the other. -/
theorem Sees.handle (sees : Sees S f w v) {i i' : Fin maxConnections}
    (hi : S.connections.Corresponds S.rival.connects i i') : w.handle i = v.handle i' := by
  rcases hi with hi | ⟨unshared, rfl⟩
  · exact (sees.connection i i' hi).handle
  · exact (sees.handles unshared i).handle

end Slots

/-- Fewer cursors may count as fetched. -/
theorem Sees.mono {S : Pairs} {f f' : Fin maxCursors → Bool} {w v : World σ} (sees : Sees S f w v)
    (hf : ∀ k, f' k = true → f k = true) : Sees S f' w v :=
  { sees with
    cursor := fun k k' hk => (sees.cursor k k' hk).mono id (hf k) fun _ _ _ _ hi => hi }

section Handles

variable {host : Host σ} {turns : ℕ} {p : ℤ} {q : WStr} {w v w' v' : World σ}

/-- An execute keeps every handle. -/
theorem ExecuteOutcome.handle {b : Bool} (h : ExecuteOutcome host turns p q w b w') (i : Fin maxConnections) :
    w'.handle i = w.handle i := by
  have hsent (j : Fin maxConnections) : ((w.sent host j q).dll.connections i).connection = w.handle i :=
    World.sent_handle host j i q w
  cases h with
  | rejected query => exact query.handle host i
  | failed j hp fits quiet drained =>
    have hdll := drainResults_dll host drained
    by_cases hij : i = j
    · subst hij
      simpa [World.handle, hdll] using hsent i
    · simpa [World.handle, hdll, hij] using hsent j
  | succeeded j hp fits quiet drained => simpa [World.handle, drainResults_dll host drained] using hsent j

/-- An opening keeps every handle. -/
theorem OpenOutcome.handle {r : ℤ} (h : OpenOutcome host p q w r w') (i : Fin maxConnections) :
    w'.handle i = w.handle i := by
  cases h with
  | noConnection => simp [World.handle]
  | full j => simp [World.handle]
  | opened j hp k free res store => simpa [World.handle] using store.handle host i
  | refused j hp k free store =>
    by_cases hij : i = j
    · subst hij
      simpa [World.handle, World.blamed] using store.handle host i
    · simpa [World.handle, World.blamed, hij] using store.handle host i
  | undecided j hp k free store =>
    by_cases hij : i = j
    · subst hij
      simpa [World.handle, World.blamed] using store.handle host i
    · simpa [World.handle, World.blamed, hij] using store.handle host i

/-- Only connecting and disconnecting change the handles in the slots. -/
theorem call_handle {e : Exported} {r : e.Reply} (h : (call host turns e).run w = .ok (r, w'))
    (keeps : Registry.KeepsConnections e) (i : Fin maxConnections) : w'.handle i = w.handle i := by
  cases e with
  | connect => exact keeps.elim
  | disconnect => exact keeps.elim
  | execute p q => exact (cMySqlExecute_outcome host h).handle i
  | cursorOpen p q => exact (cMySqlCursorOpen_outcome host h).handle i
  | _ => rw [World.handle, World.handle, call_keeps_connection_slot h not_false]

/-- Calls which keep the connections keep what slots have in common. -/
theorem SameHandle.of_calls {e e' : Exported} {r : e.Reply} {r' : e'.Reply} {i i' : Fin maxConnections}
    (same : SameHandle (w.dll.connections i) (v.dll.connections i'))
    (h : (call host turns e).run w = .ok (r, w')) (h' : (call host turns e').run v = .ok (r', v'))
    (keeps : Registry.KeepsConnections e) (keeps' : Registry.KeepsConnections e') :
    SameHandle (w'.dll.connections i) (v'.dll.connections i') where
  free := by rw [call_connection_id h keeps, call_connection_id h' keeps', same.free]
  handle := (call_handle h keeps i).trans (same.handle.trans (call_handle h' keeps' i').symm)

end Handles

section Free

variable {host : Host σ} {turns : ℕ} {w w' : World σ} {e : Exported} {r : e.Reply}

/-- Only opening takes a cursor slot. -/
theorem call_keeps_free_cursor (h : (call host turns e).run w = .ok (r, w')) (hne : ∀ p q, e ≠ .cursorOpen p q)
    {k : Fin maxCursors} (free : (w.dll.cursors k).id = -1) : (w'.dll.cursors k).id = -1 := by
  cases e with
  | cursorOpen p q => exact absurd rfl (hne p q)
  | cursorClose p =>
    rcases (cMySqlCursorClose_outcome host h).cursor_id (k := k) with hid | hid
    · rw [hid, free]
    · exact hid
  | _ => rw [call_cursor_id h trivial, free]

end Free

section Frame

variable {host : Host σ} {turns : ℕ} {S S' : Pairs} {f f' : Fin maxCursors → Bool} {w v w' v' : World σ}
  {e e' : Exported} {r : e.Reply} {r' : e'.Reply}

/-- What is paired after a call in each world was paired before and not touched, or is the same afterwards. -/
theorem Sees.of_calls (sees : Sees S f w v) (h : (call host turns e).run w = .ok (r, w'))
    (h' : (call host turns e').run v = .ok (r', v')) (library : w'.library = v'.library)
    (rival : S'.rival = S.rival) (connectionsFaithful : S'.connections.Faithful S.rival.connects)
    (cursorsFaithful : S'.cursors.Faithful S.rival.opens)
    (connection : ∀ i i', S'.connections i = some i' →
      S.connections i = some i' ∧ ¬TouchesConnection w.dll i e ∧ ¬TouchesConnection v.dll i' e' ∧
          (S'.numbered i → S.numbered i) ∨
        SameConnection (S'.numbered i) (w'.dll.connections i) (v'.dll.connections i'))
    (handles : ¬S.rival.connects → ∀ i, SameHandle (w'.dll.connections i) (v'.dll.connections i))
    (cursor : ∀ k k', S'.cursors.Corresponds S.rival.opens k k' →
      S.cursors.Corresponds S.rival.opens k k' ∧ ¬TouchesCursor w.dll k e ∧ ¬TouchesCursor v.dll k' e' ∧
          (S'.counted k → S.counted k) ∧ (f' k = true → f k = true) ∧
          (∀ i i' : Fin maxConnections, (w.dll.cursors k).id ≠ -1 → (w.dll.cursors k).connection = i.val →
            S.connections.Corresponds S.rival.connects i i' → S'.connections.Corresponds S.rival.connects i i') ∨
        SameCursor S'.connections S.rival (S'.counted k) (f' k = true) (w'.dll.cursors k) (v'.dll.cursors k'))
    (ownConnections : ∀ i', (v'.dll.connections i').id ≠ -1 → ∃ i, S'.connections i = some i')
    (ownCursors : ∀ k', (v'.dll.cursors k').id ≠ -1 → ∃ k, S'.cursors.Corresponds S.rival.opens k k') :
    Sees S' f' w' v' where
  library := library
  connectionsFaithful := by rwa [rival]
  cursorsFaithful := by rwa [rival]
  connection := by
    intro i i' hi
    rcases connection i i' hi with ⟨hold, htouch, htouch', hnumbered⟩ | hsame
    · have hslot := sees.connection i i' hold
      rw [call_keeps_connection_slot h htouch, call_keeps_connection_slot h' htouch']
      exact ⟨hslot.live, hslot.live', hslot.handle, fun hn => hslot.number (hnumbered hn)⟩
    · exact hsame
  handles := by rwa [rival]
  cursor := by
    rw [rival]
    intro k k' hk
    rcases cursor k k' hk with ⟨hold, htouch, htouch', hcounted, hfetched, howner⟩ | hsame
    · rw [call_keeps_cursor_slot h htouch, call_keeps_cursor_slot h' htouch']
      exact (sees.cursor k k' hold).mono hcounted hfetched howner
    · exact hsame
  ownConnections := ownConnections
  ownCursors := by rwa [rival]

end Frame

end MqlMySql
