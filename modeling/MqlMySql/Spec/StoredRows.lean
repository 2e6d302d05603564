import MqlMySql.Spec.Results

/-!
# Stored results and their rows

`mysql_store_result` copies a whole result to the client, where `mysql_fetch_row` steps through its rows and
`mysql_free_result` gives it up. Nothing else changes a stored result, and no result is handed out which is
stored already. The calls of the DLL keep every stored result, apart from closing a cursor and fetching.
-/

namespace MqlMySql

open Library

/-- A row of a stored result: its address, and the text of every column, `none` for `NULL`. -/
structure StoredRow where
  address : MysqlRow
  text : ℕ → Option (List UInt8)

/-- A stored result, with the number of its rows which were fetched. -/
structure StoredResult where
  columns : ℕ
  rows : List StoredRow
  position : ℕ

/-- The result after `mysql_fetch_row`; at its end it stays as it is. -/
def StoredResult.next (x : StoredResult) : StoredResult :=
  { x with position := min (x.position + 1) x.rows.length }

variable {σ : Type}

/-- What is stored in one state of the library is stored in the other. -/
def Keeps (stored : σ → MysqlRes → Option StoredResult) (s s' : σ) : Prop :=
  ∀ res x, stored s res = some x → stored s' res = some x

/-- How the library deals with stored results. -/
structure StoresResults (host : Host σ) (stored : σ → MysqlRes → Option StoredResult) : Prop where
  fetch_row : ∀ s res x, stored s res = some x →
    (host.mysqlFetchRow (some res) s).1 = x.rows[x.position]?.map (·.address)
  fetch_next : ∀ s res x, stored s res = some x →
    stored (host.mysqlFetchRow (some res) s).2 res = some x.next
  fetch_other : ∀ s res res' x, res' ≠ some res → stored s res = some x →
    stored (host.mysqlFetchRow res' s).2 res = some x
  num_fields : ∀ s res x, stored s res = some x → host.mysqlNumFields (some res) s = x.columns
  row_field : ∀ s res x, stored s res = some x → ∀ row ∈ x.rows, ∀ j < x.columns,
    host.rowField row.address j s = row.text j
  store_new : ∀ s m res, (host.mysqlStoreResult m s).1 = some res → stored s res = none ∧
    ∃ x, stored (host.mysqlStoreResult m s).2 res = some x ∧ x.position = 0
  store_keeps : ∀ s m, Keeps stored s (host.mysqlStoreResult m s).2
  free_other : ∀ s res res' x, res' ≠ some res → stored s res = some x →
    stored (host.mysqlFreeResult res' s) res = some x
  init_keeps : ∀ s, Keeps stored s (host.mysqlInit s).2
  connect_keeps : ∀ s m request, Keeps stored s (host.mysqlRealConnect m request s).2
  close_keeps : ∀ s m, Keeps stored s (host.mysqlClose m s)
  query_keeps : ∀ s m query n, Keeps stored s (host.mysqlRealQuery m query n s).2
  use_keeps : ∀ s m, Keeps stored s (host.mysqlUseResult m s).2
  next_keeps : ∀ s m, Keeps stored s (host.mysqlNextResult m s).2

variable {host : Host σ} {stored : σ → MysqlRes → Option StoredResult} {s s' s'' : σ} {w w' : World σ}

/-- Doing nothing keeps what is stored. -/
theorem Keeps.refl (s : σ) : Keeps stored s s := fun _ _ h => h

/-- What two steps keep. -/
theorem Keeps.trans (h : Keeps stored s s') (h' : Keeps stored s' s'') : Keeps stored s s'' := by
  intro res x hx
  exact h' res x (h res x hx)

/-- What is handed out was not stored before. -/
theorem StoresResults.ne_of_stored (laws : StoresResults host stored) {m : Option Mysql} {res : MysqlRes}
    {x : StoredResult} (h : stored s res = some x) : (host.mysqlStoreResult m s).1 ≠ some res := by
  intro hnew
  obtain ⟨hnone, -⟩ := laws.store_new s m res hnew
  rw [h] at hnone
  cases hnone

variable (laws : StoresResults host stored)

include laws

/-- Connecting keeps the stored results. -/
theorem ConnectOutcome.keeps {c : Credentials} {r : ℤ} (h : ConnectOutcome host c w r w') :
    Keeps stored w.library w'.library := by
  have hinit := laws.init_keeps w.library
  have hasked (mysql : Mysql) : Keeps stored w.library (w.asked host c mysql).library :=
    hinit.trans (laws.connect_keeps _ mysql _)
  cases h with
  | full => exact Keeps.refl _
  | unallocated => exact hinit
  | refused i free mysql => exact hasked mysql
  | connected i free mysql => exact hasked mysql

/-- Disconnecting keeps the stored results. -/
theorem DisconnectOutcome.keeps {p : ℤ} (h : DisconnectOutcome host p w w') :
    Keeps stored w.library w'.library := by
  cases h with
  | dead => exact Keeps.refl _
  | closed i => exact laws.close_keeps _ _

/-- Sending a query keeps what is stored. -/
theorem World.sent_keeps (i : Fin maxConnections) (q : WStr) (w : World σ) :
    Keeps stored w.library (w.sent host i q).library := by
  rw [World.sent_library]
  exact laws.query_keeps _ _ _ _

/-- Sending a query keeps the stored results. -/
theorem QueryOutcome.keeps {p : ℤ} {q : WStr} {b : Bool} (h : QueryOutcome host p q w b w') :
    Keeps stored w.library w'.library := by
  cases h with
  | noConnection => exact Keeps.refl _
  | tooBig => exact Keeps.refl _
  | pending i => exact World.sent_keeps laws i q w
  | executed i => exact World.sent_keeps laws i q w

/-- A turn of the result loop gives up its own result only. -/
theorem World.taken_keeps (m : Option Mysql) (w : World σ) :
    Keeps stored w.library (w.taken host m).library := by
  intro res x hx
  have hstored := laws.store_keeps w.library m res x hx
  rw [World.taken]
  split
  · exact laws.free_other _ _ _ _ (laws.ne_of_stored hx) hstored
  · exact hstored

/-- The result loop keeps the stored results and returns none of them. -/
theorem drainResults_keeps {m : Option Mysql} {turns : ℕ} {rSet : Option MysqlRes}
    (h : (drainResults host m turns).run w = .ok (rSet, w')) {res : MysqlRes} {x : StoredResult}
    (hx : stored w.library res = some x) : stored w'.library res = some x ∧ rSet ≠ some res := by
  induction turns generalizing w with
  | zero => simp [drainResults] at h
  | succ turns ih =>
    have htaken := World.taken_keeps laws m w res x hx
    cases drainResults_outcome host h with
    | last => exact ⟨htaken, laws.ne_of_stored hx⟩
    | stopped => exact ⟨laws.next_keeps _ _ res x htaken, laws.ne_of_stored hx⟩
    | advanced more status rest => exact ih rest (laws.next_keeps _ _ res x htaken)

/-- Executing a query keeps the stored results. -/
theorem ExecuteOutcome.keeps {turns : ℕ} {p : ℤ} {q : WStr} {b : Bool}
    (h : ExecuteOutcome host turns p q w b w') : Keeps stored w.library w'.library := by
  have hused (i : Fin maxConnections) : Keeps stored w.library ((w.sent host i q).used host i).library :=
    (World.sent_keeps laws i q w).trans (laws.use_keeps _ _)
  intro res x hx
  cases h with
  | rejected query => exact query.keeps laws res x hx
  | failed i hp fits quiet drained =>
    obtain ⟨hkept, hne⟩ := drainResults_keeps laws drained (hused i res x hx)
    exact laws.free_other _ _ _ _ hne hkept
  | succeeded i hp fits quiet drained =>
    obtain ⟨hkept, hne⟩ := drainResults_keeps laws drained (hused i res x hx)
    exact laws.free_other _ _ _ _ hne hkept

/-- The first half of an opening keeps what was stored before. -/
theorem StoreOutcome.keeps {i : Fin maxConnections} {q : WStr} {k : Fin maxCursors} {rs : Option MysqlRes}
    (h : StoreOutcome host i q k w rs w') : Keeps stored w.library w'.library := by
  cases h with
  | rejected query => simpa using query.keeps laws
  | stored => exact (World.sent_keeps laws i q (w.opening i.val k)).trans (laws.store_keeps _ _)

/-- Opening a cursor keeps the stored results. -/
theorem OpenOutcome.keeps {p r : ℤ} {q : WStr} (h : OpenOutcome host p q w r w') :
    Keeps stored w.library w'.library := by
  cases h with
  | noConnection => exact Keeps.refl _
  | full => exact Keeps.refl _
  | opened i hp k free res store => simpa using store.keeps laws
  | refused i hp k free store => simpa [World.blamed] using store.keeps laws
  | undecided i hp k free store => simpa [World.blamed] using store.keeps laws

/-- The record set which is stored was not stored before, and none of its rows is fetched. -/
theorem StoreOutcome.stores {i : Fin maxConnections} {q : WStr} {k : Fin maxCursors} {res : MysqlRes}
    (h : StoreOutcome host i q k w (some res) w') :
    stored w.library res = none ∧ ∃ x, stored w'.library res = some x ∧ x.position = 0 := by
  generalize hrs : some res = rs at h
  cases h with
  | rejected => cases hrs
  | stored =>
    obtain ⟨hnone, hnew⟩ := laws.store_new _ _ res hrs.symm
    refine ⟨?_, hnew⟩
    cases hres : stored w.library res with
    | none => rfl
    | some x =>
      have hsent := World.sent_keeps laws i q (w.opening i.val k) res x hres
      rw [hsent] at hnone
      cases hnone

/-- Opening a cursor registers a record set which was not stored before, or registers nothing. -/
theorem OpenOutcome.stores {p r : ℤ} {q : WStr} (h : OpenOutcome host p q w r w') :
    (∃ (k : Fin maxCursors) (c : Fin maxConnections) (res : MysqlRes),
        w.registry.cursors k = none ∧ w'.registry = w.registry.openCursor k c.val res ∧
          stored w.library res = none ∧ ∃ x, stored w'.library res = some x ∧ x.position = 0) ∨
      w'.registry = w.registry := by
  rcases h.opened_cases with ⟨i, k, res, w₂, rfl, -, hfree, hregistry, store, rfl⟩ | ⟨hsame, -⟩
  · exact Or.inl ⟨k, i, res, hfree, hregistry, by simpa using store.stores laws⟩
  · exact Or.inr hsame

/-- Every call keeps the stored results, but the one of a cursor which it closes or fetches from. -/
theorem call_keeps_stored {turns : ℕ} {e : Exported} {r : e.Reply}
    (h : (call host turns e).run w = .ok (r, w')) {res : MysqlRes} {x : StoredResult}
    (hx : stored w.library res = some x)
    (hclose : ∀ k, w.registry.results k = some res → e ≠ .cursorClose k.val)
    (hfetch : ∀ k, w.registry.results k = some res → e ≠ .cursorFetchRow k.val) :
    stored w'.library res = some x := by
  have hresults (k : Fin maxCursors) (isOpen : (w.dll.cursors k).id ≠ -1) :
      w.registry.results k = w.recordSet k := by
    rw [Registry.results, World.cursor_of_registry isOpen]
    rfl
  cases e with
  | connect c => exact (cMySqlConnect_outcome host h).keeps laws res x hx
  | disconnect p => exact (cMySqlDisconnect_outcome host h).keeps laws res x hx
  | execute p q => exact (cMySqlExecute_outcome host h).keeps laws res x hx
  | cursorOpen p q => exact (cMySqlCursorOpen_outcome host h).keeps laws res x hx
  | cursorClose p =>
    cases cMySqlCursorClose_outcome host h with
    | wrong => exact hx
    | closed k hp isOpen =>
      rw [World.onDll_library, World.commanded_library, World.onDll_library]
      apply laws.free_other _ _ _ _ _ hx
      intro hres
      exact hclose k ((hresults k isOpen).trans hres) (congrArg _ hp)
  | cursorFetchRow p =>
    have hother (k : Fin maxCursors) (hp : p = k.val) (isOpen : (w.dll.cursors k).id ≠ -1) :
        stored (host.mysqlFetchRow (w.recordSet k) w.library).2 res = some x := by
      apply laws.fetch_other _ _ _ _ _ hx
      intro hres
      exact hfetch k ((hresults k isOpen).trans hres) (congrArg _ hp)
    cases cMySqlCursorFetchRow_outcome host h with
    | wrong => exact hx
    | fetched k hp isOpen => simpa [World.fetched] using hother k hp isOpen
    | ended k hp isOpen => simpa [World.fetched] using hother k hp isOpen
  | cursorRows p => cases cMySqlCursorRows_outcome host h <;> simpa using hx
  | getRowField p f => cases cMySqlGetRowField_outcome host h <;> simpa [World.measured] using hx
  | rowsAffected p => cases cMySqlRowsAffected_outcome host h <;> simpa using hx
  | getMySqlErrorNumber p | getMySqlErrorDescription p | getCursorErrorNumber p
  | getCursorErrorDescription p =>
    cases h
    exact hx

omit laws in
/-- Fetching from an open cursor moves the library by `mysql_fetch_row` and keeps the row it gave. -/
theorem FetchOutcome.moves {k : Fin maxCursors} {b : Bool} (h : FetchOutcome host k.val w b w')
    (isOpen : (w.dll.cursors k).id ≠ -1) :
    w'.library = (host.mysqlFetchRow (w.recordSet k) w.library).2 ∧
      (w'.dll.cursors k).currentRow = (host.mysqlFetchRow (w.recordSet k) w.library).1 := by
  cases h with
  | wrong shut =>
    rw [openCursor_val, if_neg isOpen] at shut
    cases shut
  | fetched l hl =>
    obtain rfl : k = l := Fin.ext (by omega)
    simp [World.fetched]
  | ended l hl _ hrow =>
    obtain rfl : k = l := Fin.ext (by omega)
    simp [World.fetched]

omit laws in
/-- Reading a field leaves the library as it is. -/
theorem FieldOutcome.library {p : ℤ} {f : ℕ} {text : WStr} (h : FieldOutcome host p f w text w') :
    w'.library = w.library := by
  cases h <;> simp [World.measured]

end MqlMySql
