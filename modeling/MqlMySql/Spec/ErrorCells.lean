import MqlMySql.Spec.LibrarySteps
import MqlMySql.Spec.LinkSteps
import MqlMySql.Spec.SlotIds

/-!
# The error cells as one table

The DLL keeps a number and a text for each kind of error, and in each slot. Every write to a cell is an update of
the table of all cells, and a write to anything else leaves it. What holds of all cells is therefore kept by a call
when it holds of the values which the call writes: the cleared pair, the fixed texts, and what the library answers.
-/

namespace MqlMySql

open Library

/-- The places where an error is kept. -/
inductive ErrorCell
  | connections
  | cursors
  | connection (i : Fin maxConnections)
  | cursor (k : Fin maxCursors)
deriving DecidableEq

/-- The numbers and texts which the DLL writes to a cell by itself. -/
def ErrorCell.texts : ErrorCell → List (ℤ × String)
  | .connections => [(-1, "Cannot allocate memory for connection."), (-2, "No connection to the database."),
      (-3, "Maximum connections exceeded."), (-6, "Query is too big")]
  | .cursors => [(-5, "Wrong CURSOR identifier.")]
  | .connection _ => [(-3, "Maximum number of opened cursors was exceeded.")]
  | .cursor _ => [(-4, "Wrong number of field."), (-6, "Result value is too big")]

/-- The number and the text in a cell. -/
def Dll.read (d : Dll) : ErrorCell → ℤ × String
  | .connections => (d.mySqlErrorNumber, d.mySqlErrorDescription)
  | .cursors => (d.cursorErrorNumber, d.cursorErrorDescription)
  | .connection i => ((d.connections i).mySqlErrorNumber, (d.connections i).mySqlErrorDescription)
  | .cursor k => ((d.cursors k).cursorErrorNumber, (d.cursors k).cursorErrorDescription)

namespace Dll

variable (d : Dll) (i : Fin maxConnections) (k : Fin maxCursors) (number : ℤ) (description : String)

/-- Writing the DLL-wide connection error updates one cell of the table. -/
theorem read_setMySqlError : (d.setMySqlError number description).read =
    Function.update d.read .connections (number, description) := by
  funext cell
  cases cell <;> simp [read, setMySqlError]

/-- Writing the DLL-wide cursor error updates one cell of the table. -/
theorem read_setCursorError : (d.setCursorError number description).read =
    Function.update d.read .cursors (number, description) := by
  funext cell
  cases cell <;> simp [read, setCursorError]

/-- A change of a connection slot updates the cell of the slot, whatever the other fields become. -/
theorem read_setConnection (f : Connection → Connection) : (d.setConnection i f).read =
    Function.update d.read (.connection i)
      ((f (d.connections i)).mySqlErrorNumber, (f (d.connections i)).mySqlErrorDescription) := by
  funext cell
  cases cell with
  | connection j =>
    by_cases hji : j = i
    · subst hji
      simp [read]
    · simp [read, hji]
  | _ => simp [read, setConnection]

/-- A change of a cursor slot updates the cell of the slot, whatever the other fields become. -/
theorem read_setCursor (f : Cursor → Cursor) : (d.setCursor k f).read =
    Function.update d.read (.cursor k)
      ((f (d.cursors k)).cursorErrorNumber, (f (d.cursors k)).cursorErrorDescription) := by
  funext cell
  cases cell with
  | cursor l =>
    by_cases hlk : l = k
    · subst hlk
      simp [read]
    · simp [read, hlk]
  | _ => simp [read, setCursor]

/-- What every cell holds satisfies a predicate. -/
def Pairs (P : ErrorCell → ℤ × String → Prop) : Prop := ∀ cell, P cell (d.read cell)

section Writes

variable {d i k number description} {P : ErrorCell → ℤ × String → Prop} (h : d.Pairs P)
include h

/-- An update of the table keeps the predicate when the new value satisfies it; every write below is such an update.
-/
theorem Pairs.update {d' : Dll} {cell : ErrorCell} {v : ℤ × String}
    (hread : d'.read = Function.update d.read cell v) (hv : P cell v) : d'.Pairs P := by
  rw [Pairs, hread, Function.forall_update_iff d.read fun cell v => P cell v]
  exact ⟨hv, fun other _ => h other⟩

/-- The DLL-wide connection error may be set to a pair which satisfies the predicate. -/
theorem Pairs.setMySqlError (hv : P .connections (number, description)) :
    (d.setMySqlError number description).Pairs P :=
  h.update (d.read_setMySqlError number description) hv

/-- The DLL-wide cursor error may be set to a pair which satisfies the predicate. -/
theorem Pairs.setCursorError (hv : P .cursors (number, description)) :
    (d.setCursorError number description).Pairs P :=
  h.update (d.read_setCursorError number description) hv

/-- A connection slot may be changed when its new number and text satisfy the predicate. -/
theorem Pairs.setConnection {f : Connection → Connection}
    (hv : P (.connection i) ((f (d.connections i)).mySqlErrorNumber, (f (d.connections i)).mySqlErrorDescription)) :
    (d.setConnection i f).Pairs P :=
  h.update (d.read_setConnection i f) hv

/-- A cursor slot may be changed when its new number and text satisfy the predicate. -/
theorem Pairs.setCursor {f : Cursor → Cursor}
    (hv : P (.cursor k) ((f (d.cursors k)).cursorErrorNumber, (f (d.cursors k)).cursorErrorDescription)) :
    (d.setCursor k f).Pairs P :=
  h.update (d.read_setCursor k f) hv

/-- The error of a cursor slot may be set to a pair which satisfies the predicate. -/
theorem Pairs.setSlotError (hv : P (.cursor k) (number, description)) :
    (d.setSlotError k number description).Pairs P :=
  h.setCursor hv

/-- A write to the other fields of a slot. -/
theorem Pairs.touchConnection {f : Connection → Connection}
    (hnumber : ∀ c, (f c).mySqlErrorNumber = c.mySqlErrorNumber)
    (htext : ∀ c, (f c).mySqlErrorDescription = c.mySqlErrorDescription) : (d.setConnection i f).Pairs P := by
  apply h.setConnection
  rw [hnumber, htext]
  exact h (.connection i)

/-- A write to the other fields of a cursor slot. -/
theorem Pairs.touchCursor {f : Cursor → Cursor} (hnumber : ∀ c, (f c).cursorErrorNumber = c.cursorErrorNumber)
    (htext : ∀ c, (f c).cursorErrorDescription = c.cursorErrorDescription) : (d.setCursor k f).Pairs P := by
  apply h.setCursor
  rw [hnumber, htext]
  exact h (.cursor k)

end Writes

end Dll

variable {σ : Type}

/-- The predicate on all cells but that of one connection. -/
def Elsewhere (i : Fin maxConnections) (P : ErrorCell → ℤ × String → Prop) (cell : ErrorCell) (v : ℤ × String) :
    Prop :=
  cell ≠ .connection i → P cell v

/-- What holds of all cells holds of all but one. -/
theorem Dll.Pairs.elsewhere {d : Dll} {P : ErrorCell → ℤ × String → Prop} (h : d.Pairs P)
    (i : Fin maxConnections) : d.Pairs (Elsewhere i P) :=
  fun cell _ => h cell

/-- When all other cells are fine, everything depends on the cell of the connection. -/
theorem Dll.Pairs.iff_own {d : Dll} {P : ErrorCell → ℤ × String → Prop} {i : Fin maxConnections}
    (h : d.Pairs (Elsewhere i P)) : d.Pairs P ↔ P (.connection i) (d.read (.connection i)) := by
  constructor
  · intro hall
    exact hall _
  · intro hown cell
    by_cases hcell : cell = .connection i
    · rwa [hcell]
    · exact h cell hcell

/-- The predicate holds of the values which the DLL writes, when the library is in one of the given states. -/
structure Accepts (host : Host σ) (reached : σ → Prop) (P : ErrorCell → ℤ × String → Prop) : Prop where
  cleared : ∀ cell, P cell (0, "No errors.")
  fixed : ∀ cell v, v ∈ cell.texts → P cell v
  given : ∀ cell h s, reached s → P cell (host.mysqlErrno h s, host.mysqlError h s)

variable {host : Host σ} {reached : σ → Prop} {P : ErrorCell → ℤ × String → Prop}

/-- The values which the DLL writes are fine for a part of the cells, too. -/
theorem Accepts.elsewhere (A : Accepts host reached P) (i : Fin maxConnections) :
    Accepts host reached (Elsewhere i P) where
  cleared cell _ := A.cleared cell
  fixed cell v hv _ := A.fixed cell v hv
  given cell h s hs _ := A.given cell h s hs

section Calls

variable (A : Accepts host reached P) {w w' : World σ} {p : ℤ} {q : WStr}
include A

/-- Clearing the errors of a connection writes the cleared pair, or nothing. -/
theorem Accepts.clearErrors {d : Dll} (h : d.Pairs P) (p : ℤ) : (clearErrors p d).Pairs P := by
  unfold MqlMySql.clearErrors
  split
  · exact h.setMySqlError (A.cleared _)
  · split
    · exact h.setConnection (A.cleared _)
    · exact h

/-- Clearing the errors of a cursor writes the cleared pair, or nothing. -/
theorem Accepts.clearCursorErrors {d : Dll} (h : d.Pairs P) (p : ℤ) : (clearCursorErrors p d).Pairs P := by
  unfold MqlMySql.clearCursorErrors
  split
  · exact h.setCursorError (A.cleared _)
  · split
    · exact h.setCursor (A.cleared _)
    · exact h

/-- The refusal of the connection number -1 writes one of the fixed texts. -/
theorem Accepts.noConnection {d : Dll} (h : d.Pairs P) : (noConnection d).Pairs P :=
  h.setMySqlError (A.fixed _ _ (by simp [ErrorCell.texts]))

/-- The refusal of a cursor which is not open writes one of the fixed texts. -/
theorem Accepts.wrongCursor {d : Dll} (h : d.Pairs P) : (wrongCursor d).Pairs P :=
  h.setCursorError (A.fixed _ _ (by simp [ErrorCell.texts]))

section Named

variable {i : Fin maxConnections} (fine : w.dll.Pairs (Elsewhere i P))
include fine

/-- The number and the text which the library gives to a query go to the cell of its connection. -/
theorem Accepts.sent (q : WStr) : (w.sent host i q).dll.Pairs (Elsewhere i P) := by
  have hcleared := (A.elsewhere i).clearErrors fine i.val
  exact Dll.Pairs.setConnection hcleared (absurd rfl)

/-- Sending a query writes to the cell of the connection and to the shared one. -/
theorem QueryOutcome.elsewhere {b : Bool} (h : QueryOutcome host i.val q w b w') :
    w'.dll.Pairs (Elsewhere i P) := by
  cases h with
  | noConnection hp => exact absurd hp (val_ne_neg_one i)
  | tooBig =>
    have hcleared := (A.elsewhere i).clearErrors fine i.val
    exact hcleared.setMySqlError ((A.elsewhere i).fixed _ _ (by simp [ErrorCell.texts]))
  | pending j hj =>
    obtain rfl : i = j := Fin.ext (by omega)
    exact (A.sent fine q).setConnection (absurd rfl)
  | executed j hj =>
    obtain rfl : i = j := Fin.ext (by omega)
    exact A.sent fine q

/-- An execute keeps the other cells fine: the number after the results goes to the connection's own. -/
theorem ExecuteOutcome.elsewhere {turns : ℕ} {b : Bool} (h : ExecuteOutcome host turns i.val q w b w') :
    w'.dll.Pairs (Elsewhere i P) := by
  cases h with
  | rejected query => exact query.elsewhere A fine
  | failed j hj fits quiet drained =>
    obtain rfl : i = j := Fin.ext (by omega)
    have hsent := A.sent fine q
    have hdll := drainResults_dll host drained
    rw [World.used_dll] at hdll
    rw [← hdll] at hsent
    exact hsent.setConnection (absurd rfl)
  | succeeded j hj fits quiet drained =>
    obtain rfl : i = j := Fin.ext (by omega)
    have hsent := A.sent fine q
    have hdll := drainResults_dll host drained
    rw [World.used_dll] at hdll
    rwa [← hdll] at hsent

/-- An opening begins with cleared errors and an empty record set. -/
theorem Accepts.opening (k : Fin maxCursors) : (w.opening i.val k).dll.Pairs (Elsewhere i P) := by
  have hcleared := (A.elsewhere i).clearCursorErrors ((A.elsewhere i).clearErrors fine i.val) (-1)
  exact hcleared.touchCursor (fun _ => by rfl) fun _ => by rfl

/-- The first half of an opening keeps the other cells fine. -/
theorem StoreOutcome.elsewhere {k : Fin maxCursors} {rs : Option MysqlRes}
    (h : StoreOutcome host i q k w rs w') : w'.dll.Pairs (Elsewhere i P) := by
  have hopening := A.opening fine k
  cases h with
  | rejected query => exact query.elsewhere A hopening
  | stored =>
    have hsent := A.sent hopening q
    exact hsent.touchCursor (fun _ => by rfl) fun _ => by rfl

omit A in
/-- The number which a failed opening leaves goes to the cell of its connection. -/
theorem World.blamed_elsewhere : (w.blamed host i).dll.Pairs (Elsewhere i P) :=
  Dll.Pairs.setConnection fine (absurd rfl)

/-- An opening keeps the other cells fine, even when every cursor is in use. -/
theorem OpenOutcome.elsewhere {r : ℤ} (h : OpenOutcome host i.val q w r w') :
    w'.dll.Pairs (Elsewhere i P) := by
  cases h with
  | noConnection hp => exact absurd hp (val_ne_neg_one i)
  | full j hj =>
    obtain rfl : i = j := Fin.ext (by omega)
    have hcleared := (A.elsewhere i).clearCursorErrors ((A.elsewhere i).clearErrors fine i.val) (-1)
    exact hcleared.setConnection (absurd rfl)
  | opened j hj k free res store =>
    obtain rfl : i = j := Fin.ext (by omega)
    have hstore := store.elsewhere A fine
    exact hstore.touchCursor (fun _ => by rfl) fun _ => by rfl
  | refused j hj k free store =>
    obtain rfl : i = j := Fin.ext (by omega)
    have hblamed : (World.blamed host i _).dll.Pairs (Elsewhere i P) :=
      World.blamed_elsewhere (store.elsewhere A fine)
    simp only [World.inspected_dll, World.onDll_dll, deleteCursor_val]
    exact (hblamed.touchCursor (fun _ => by rfl) fun _ => by rfl).setConnection (absurd rfl)
  | undecided j hj k free store =>
    obtain rfl : i = j := Fin.ext (by omega)
    exact World.blamed_elsewhere (store.elsewhere A fine)

end Named

section Unnamed

variable (fine : w.dll.Pairs P) (reach : ∀ h s, LibrarySteps host h w.library s → reached s)
include fine

/-- Without a connection, a query writes to the shared cells alone. -/
theorem ExecuteOutcome.pairs_unconnected {turns : ℕ} {b : Bool} (h : ExecuteOutcome host turns (-1) q w b w') :
    w'.dll.Pairs P := by
  cases h with
  | rejected query =>
    cases query with
    | noConnection => exact A.noConnection (A.clearErrors fine _)
    | tooBig hp => exact absurd rfl hp
    | pending i hi => exact absurd hi.symm (val_ne_neg_one i)
  | failed i hi => exact absurd hi.symm (val_ne_neg_one i)
  | succeeded i hi => exact absurd hi.symm (val_ne_neg_one i)

/-- Without a connection, an opening writes to the shared cells alone. -/
theorem OpenOutcome.pairs_unconnected {r : ℤ} (h : OpenOutcome host (-1) q w r w') : w'.dll.Pairs P := by
  cases h with
  | noConnection => exact A.noConnection (A.clearCursorErrors (A.clearErrors fine _) _)
  | full i hi => exact absurd hi.symm (val_ne_neg_one i)
  | opened i hi => exact absurd hi.symm (val_ne_neg_one i)
  | refused i hi => exact absurd hi.symm (val_ne_neg_one i)
  | undecided i hi => exact absurd hi.symm (val_ne_neg_one i)

include reach in
/-- A connect writes a fixed text, or the answer of the library which refused it. -/
theorem ConnectOutcome.pairs {c : Credentials} {r : ℤ} (h : ConnectOutcome host c w r w') : w'.dll.Pairs P := by
  have hcleared := A.clearErrors fine (-1)
  cases h with
  | full => exact hcleared.setMySqlError (A.fixed _ _ (by simp [ErrorCell.texts]))
  | unallocated => exact hcleared.setMySqlError (A.fixed _ _ (by simp [ErrorCell.texts]))
  | refused i free mysql allocated =>
    have hasked : reached (w.asked host c mysql).library := reach _ _ (w.asked_steps c allocated)
    have hdll : (w.asked host c mysql).dll = MqlMySql.clearErrors (-1) w.dll := rfl
    simp only [World.onDll_dll, World.inspected_dll, hdll]
    exact (hcleared.touchConnection (fun _ => by rfl) fun _ => by rfl).setMySqlError (A.given _ _ _ hasked)
  | connected i free mysql =>
    simp only [World.onDll_dll, World.asked, World.performed_dll]
    have hstored := hcleared.touchConnection (i := i) (f := fun slot => { slot with connection := some mysql })
      (fun _ => rfl) fun _ => rfl
    exact hstored.touchConnection (fun _ => by rfl) fun _ => by rfl

/-- A disconnect clears the errors or writes the fixed text, and gives the slot back. -/
theorem DisconnectOutcome.pairs (h : DisconnectOutcome host p w w') : w'.dll.Pairs P := by
  have hcleared := A.clearErrors fine p
  cases h with
  | dead => exact A.noConnection hcleared
  | closed i hp =>
    subst hp
    simp only [World.onDll_dll, World.commanded_dll, deleteConnection_val]
    exact hcleared.touchConnection (fun _ => by rfl) fun _ => by rfl

/-- A close clears the errors or writes the fixed text, and gives the slot back. -/
theorem CloseOutcome.pairs (h : CloseOutcome host p w w') : w'.dll.Pairs P := by
  have hcleared := A.clearCursorErrors fine p
  cases h with
  | wrong => exact A.wrongCursor hcleared
  | closed k hp =>
    subst hp
    simp only [World.onDll_dll, World.commanded_dll, deleteCursor_val]
    exact hcleared.touchCursor (fun _ => by rfl) fun _ => by rfl

/-- The number of rows is asked for with the errors cleared, or the fixed text written. -/
theorem RowsOutcome.pairs {r : ℤ} (h : RowsOutcome host p w r w') : w'.dll.Pairs P := by
  have hcleared := A.clearCursorErrors fine p
  cases h with
  | wrong => exact A.wrongCursor hcleared
  | counted => exact hcleared

include reach in
/-- A fetch after the last row writes the answer of the library to the cell of the cursor. -/
theorem FetchOutcome.pairs {b : Bool} (h : FetchOutcome host p w b w') : w'.dll.Pairs P := by
  have hfetched (k : Fin maxCursors) : (w.fetched host k).dll.Pairs P := by
    simp only [World.fetched, World.onDll_dll, World.performed_dll]
    exact (A.clearCursorErrors fine k.val).touchCursor (fun _ => by rfl) fun _ => by rfl
  cases h with
  | wrong => exact A.wrongCursor (A.clearCursorErrors fine p)
  | fetched k => exact hfetched k
  | ended k hp isOpen row i =>
    have hreached : reached (host.mysqlFetchRow (w.recordSet k) w.library).2 :=
      reach none _ (.single (.fetchRow ..))
    simp only [World.onDll_dll, World.inspected_dll]
    exact (hfetched k).setSlotError (A.given _ _ _ hreached)

/-- A field read writes one of the fixed texts of the slot, or changes the buffer alone. -/
theorem FieldOutcome.pairs {f : ℕ} {text : WStr} (h : FieldOutcome host p f w text w') : w'.dll.Pairs P := by
  have hmeasured (k : Fin maxCursors) : (w.measured k).dll.Pairs P := by
    simp only [World.measured, World.inspected_dll, World.onDll_dll]
    exact A.clearCursorErrors fine k.val
  have hvalue {d : Dll} (h : d.Pairs P) (k : Fin maxCursors) (value : WStr) :
      (d.setCursor k fun c => { c with value }).Pairs P :=
    h.touchCursor (fun _ => by rfl) fun _ => by rfl
  cases h with
  | wrong => exact A.wrongCursor fine
  | noField k => exact (hmeasured k).setSlotError (A.fixed _ _ (by simp [ErrorCell.texts]))
  | read k =>
    simp only [World.onDll_dll, World.inspected_dll]
    exact hvalue (hvalue (hmeasured k) k _) k _
  | tooBig k =>
    simp only [World.onDll_dll, World.inspected_dll]
    exact (hvalue (hmeasured k) k _).setSlotError (A.fixed _ _ (by simp [ErrorCell.texts]))

include reach in
/-- A call which runs no query keeps every cell fine. -/
theorem call_pairs {turns : ℕ} {e : Exported} {r : e.Reply} (h : (call host turns e).run w = .ok (r, w'))
    (quiet : ¬RunsQuery e) : w'.dll.Pairs P := by
  cases e with
  | connect c => exact (cMySqlConnect_outcome host h).pairs A fine reach
  | disconnect p => exact (cMySqlDisconnect_outcome host h).pairs A fine
  | execute p q => exact absurd trivial quiet
  | cursorOpen p q => exact absurd trivial quiet
  | cursorClose p => exact (cMySqlCursorClose_outcome host h).pairs A fine
  | cursorRows p => exact (cMySqlCursorRows_outcome host h).pairs A fine
  | cursorFetchRow p => exact (cMySqlCursorFetchRow_outcome host h).pairs A fine reach
  | getRowField p f => exact (cMySqlGetRowField_outcome host h).pairs A fine
  | rowsAffected p =>
    cases cMySqlRowsAffected_outcome host h with
    | noConnection => exact A.noConnection fine
    | counted => exact fine
  | getMySqlErrorNumber p | getMySqlErrorDescription p | getCursorErrorNumber p
  | getCursorErrorDescription p =>
    cases h
    exact fine

end Unnamed

end Calls

end MqlMySql
