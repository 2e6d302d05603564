import MqlMySql.Spec.Registry
import MqlMySql.Model.Exported

/-!
# The DLL refines the registry

Every exported call which returns takes the registry one step of `Registry.Step`. The proof goes
through the outcomes, one lemma for each function.
-/

namespace MqlMySql

open Library

variable {σ : Type} (host : Host σ)

/-- The registry which a world represents. -/
def World.registry (w : World σ) : Registry := w.dll.registry

section Projections

variable {α : Type} (w : World σ) (g : Dll → Dll) (f : σ → α × σ) (record : α → LibraryCall)
  (h : σ → σ) (c : LibraryCall)

@[simp] theorem World.onDll_registry : (w.onDll g).registry = (g w.dll).registry := rfl
@[simp] theorem World.performed_registry : (w.performed f record).registry = w.registry := rfl
@[simp] theorem World.inspected_registry : (w.inspected c).registry = w.registry := rfl
@[simp] theorem World.commanded_registry : (w.commanded h c).registry = w.registry := rfl

/-- The registry of a world is the registry of its globals. -/
theorem World.dll_registry : w.dll.registry = w.registry := rfl

end Projections

attribute [simp] World.dll_registry

/-- A live connection stores the handle it is registered with. -/
theorem World.handle_of_registry {w : World σ} {i : Fin maxConnections} {h : Option Mysql}
    (hi : w.registry.connections i = some h) : w.handle i = h := by
  by_cases hid : (w.dll.connections i).id = -1
  · simp [World.registry, Dll.registry, hid] at hi
  · simpa [World.handle, World.registry, Dll.registry, hid] using hi

/-- An open cursor stores the connection and the record set it is registered with. -/
theorem World.cursor_of_registry {w : World σ} {k : Fin maxCursors} (hid : (w.dll.cursors k).id ≠ -1) :
    w.registry.cursors k = some ((w.dll.cursors k).connection, (w.dll.cursors k).recordSet) := by
  simp [World.registry, Dll.registry, hid]

/-- Sending a query writes an error, which the registry does not have. -/
@[simp] theorem World.sent_registry (i : Fin maxConnections) (q : WStr) (w : World σ) :
    (w.sent host i q).registry = w.registry := by
  rw [World.sent, World.onDll_registry, Dll.registry_setConnection_of _ (by simp) (by simp)]
  simp

/-- Sending a query registers nothing. -/
theorem QueryOutcome.registry {p : ℤ} {q : WStr} {b : Bool} {w w' : World σ}
    (h : QueryOutcome host p q w b w') : w'.registry = w.registry := by
  cases h with
  | noConnection => simp
  | tooBig => simp
  | executed i => simp
  | pending i =>
    rw [World.onDll_registry, Dll.registry_setConnection_of _ (by simp) (by simp)]
    exact World.sent_registry host i q w

/-- Executing a query registers nothing. -/
theorem ExecuteOutcome.registry {turns : ℕ} {p : ℤ} {q : WStr} {b : Bool} {w w' : World σ}
    (h : ExecuteOutcome host turns p q w b w') : w'.registry = w.registry := by
  cases h with
  | rejected query => exact query.registry host
  | failed i hp fits quiet drained => simp [drainResults_dll host drained, World.used]
  | succeeded i hp fits quiet drained =>
    have hdll := congrArg Dll.registry (drainResults_dll host drained)
    simpa [World.used] using hdll

/-- Preparing a free slot for an opening registers nothing yet. -/
theorem World.opening_registry {k : Fin maxCursors} {w : World σ} (p : ℤ)
    (free : (w.dll.cursors k).id = -1) : (w.opening p k).registry = w.registry := by
  rw [World.opening, World.onDll_registry,
    Dll.registry_setCursor_free _ (by simpa using free) (by simpa using free)]
  simp

/-- Preparing a slot for an opening keeps its id. -/
theorem World.opening_cursor_id (p : ℤ) (k : Fin maxCursors) (w : World σ) :
    ((w.opening p k).dll.cursors k).id = (w.dll.cursors k).id := by
  simp [World.opening]

/-- Sending a query changes no cursor slot. -/
@[simp] theorem World.sent_cursors (i : Fin maxConnections) (q : WStr) (w : World σ) :
    (w.sent host i q).dll.cursors = w.dll.cursors := by
  simp [World.sent]

/-- The first half of an opening keeps the id of the slot, which stays free until the second half. -/
theorem StoreOutcome.cursor_id {i : Fin maxConnections} {q : WStr} {k : Fin maxCursors}
    {w w' : World σ} {rs : Option MysqlRes} (h : StoreOutcome host i q k w rs w') :
    (w'.dll.cursors k).id = (w.dll.cursors k).id := by
  cases h with
  | rejected query => rw [query.cursors, World.opening_cursor_id]
  | stored => simp [World.opening_cursor_id]

/-- Storing a result in a slot which is not open registers nothing. -/
theorem StoreOutcome.registry {i : Fin maxConnections} {q : WStr} {k : Fin maxCursors}
    {w w' : World σ} {rs : Option MysqlRes} (h : StoreOutcome host i q k w rs w')
    (free : (w.dll.cursors k).id = -1) : w'.registry = w.registry := by
  cases h with
  | rejected query => rw [query.registry, World.opening_registry _ free]
  | stored =>
    have hid : ((w.opening i.val k).dll.cursors k).id = -1 := by
      rw [World.opening_cursor_id, free]
    rw [World.onDll_registry,
      Dll.registry_setCursor_free _ (by simpa using hid) (by simpa using hid)]
    simp [World.opening_registry _ free]

/-- Copying the number of the handle after that registers nothing either. -/
theorem StoreOutcome.blamed_registry {i : Fin maxConnections} {q : WStr} {k : Fin maxCursors}
    {w w' : World σ} {rs : Option MysqlRes} (h : StoreOutcome host i q k w rs w')
    (free : (w.dll.cursors k).id = -1) : (w'.blamed host i).registry = w.registry := by
  rw [World.blamed, World.onDll_registry, Dll.registry_setConnection_of _ (by simp) (by simp),
    World.inspected_dll, World.dll_registry, h.registry host free]

/-- The slot which `GetNewCursorId` names is not open. -/
theorem getNewCursorId_free {d : Dll} {k : Fin maxCursors} (h : getNewCursorId d = k.val) :
    (d.cursors k).id = -1 := by
  rcases getNewCursorId_cases d with hnone | ⟨j, hj, hfree⟩
  · omega
  · rwa [show k = j from Fin.ext (by omega)]

/-- The slot which `GetNewConnectionId` names is not live. -/
theorem getNewConnectionId_free {d : Dll} {i : Fin maxConnections}
    (h : getNewConnectionId d = i.val) : (d.connections i).id = -1 := by
  rcases getNewConnectionId_cases d with hnone | ⟨j, hj, hfree⟩
  · omega
  · rwa [show i = j from Fin.ext (by omega)]

/-- Storing the answer of `mysql_real_connect` in a free slot registers nothing yet. -/
theorem World.asked_registry (c : Credentials) (mysql : Mysql) {w : World σ}
    {i : Fin maxConnections} (free : getNewConnectionId w.dll = i.val) (answer : Option Mysql) :
    ((w.asked host c mysql).dll.setConnection i fun slot =>
      { slot with connection := answer }).registry = w.registry := by
  have hfree := getNewConnectionId_free free
  rw [Dll.registry_setConnection_free _ (by simpa [World.asked] using hfree)
    (by simpa [World.asked] using hfree)]
  simp [World.asked]

/-- Giving the slot its id registers the handle. -/
theorem World.connected_registry (c : Credentials) (mysql : Mysql) {w : World σ}
    {i : Fin maxConnections} (free : getNewConnectionId w.dll = i.val) :
    (((w.asked host c mysql).onDll
      (·.setConnection i fun slot => { slot with connection := some mysql })).onDll
        (·.setConnection i fun slot => { slot with id := i.val })).registry =
      w.registry.connect i mysql := by
  rw [World.onDll_registry, World.onDll_dll, Dll.registry_connect _ mysql (by simp),
    World.asked_registry host c mysql free]

/-- `cMySqlConnect` registers the new handle in a free slot, or nothing. -/
theorem ConnectOutcome.step {c : Credentials} {w w' : World σ} {r : ℤ}
    (h : ConnectOutcome host c w r w') :
    Registry.Step (.connect c) r w.registry w'.registry := by
  cases h with
  | full => simpa using Registry.Step.notConnected
  | unallocated => simpa using Registry.Step.notConnected
  | refused i free mysql allocated answer =>
    simpa [World.asked_registry host c mysql free] using Registry.Step.notConnected
  | connected i free mysql allocated answer =>
    rw [World.connected_registry host c mysql free]
    exact .connected i mysql (w.dll.registry_connections_eq_none.mpr (getNewConnectionId_free free))

/-- `cMySqlDisconnect` takes the handle out of the registry, if its connection is live. -/
theorem DisconnectOutcome.step {p : ℤ} {w w' : World σ} (h : DisconnectOutcome host p w w') :
    Registry.Step (.disconnect p) () w.registry w'.registry := by
  cases h with
  | dead dead =>
    rw [World.onDll_registry, Dll.registry_noConnection, Dll.registry_clearErrors]
    refine .notDisconnected fun i hp => ?_
    subst hp
    rw [World.registry, Dll.registry_connections_eq_none]
    simpa [liveConnection_val] using dead
  | closed i hp live =>
    subst hp
    rw [World.onDll_registry, deleteConnection_val, Dll.registry_disconnect]
    simp only [World.commanded_dll, World.onDll_dll, Dll.registry_clearErrors]
    exact .disconnected i fun hnone => live (w.dll.registry_connections_eq_none.mp hnone)

/-- `cMySqlCursorOpen` registers the cursor in a free slot, or nothing. -/
theorem OpenOutcome.step {p r : ℤ} {q : WStr} {w w' : World σ} (h : OpenOutcome host p q w r w') :
    Registry.Step (.cursorOpen p q) r w.registry w'.registry := by
  cases h with
  | noConnection => simpa using Registry.Step.notOpened
  | full => simpa using Registry.Step.notOpened
  | opened i hp k free res store =>
    subst hp
    have hfree := getNewCursorId_free free
    rw [World.onDll_registry, Dll.registry_openCursor _ res store.recordSet,
      World.dll_registry, store.registry host hfree]
    exact .opened i k res (w.dll.registry_cursors_eq_none.mpr hfree)
  | @refused i hp k free w₂ store positive =>
    have hfree := getNewCursorId_free free
    have hid : (w₂.dll.cursors k).id = -1 := by rw [store.cursor_id, hfree]
    rw [World.onDll_registry, Dll.registry_setConnection_of _ (by simp) (by simp), World.inspected_dll,
      World.onDll_dll, deleteCursor_val,
      Dll.registry_setCursor_free _ (by simpa [World.blamed] using hid) (by simp),
      World.dll_registry, store.blamed_registry host hfree]
    exact .notOpened
  | undecided i hp k free store zero =>
    subst hp
    have hfree := getNewCursorId_free free
    rw [store.blamed_registry host hfree]
    exact .undecided i k (w.dll.registry_cursors_eq_none.mpr hfree)

/-- `cMySqlCursorClose` takes the cursor out of the registry, if it is open. -/
theorem CloseOutcome.step {p : ℤ} {w w' : World σ} (h : CloseOutcome host p w w') :
    Registry.Step (.cursorClose p) () w.registry w'.registry := by
  cases h with
  | wrong shut =>
    rw [World.onDll_registry, Dll.registry_wrongCursor, Dll.registry_clearCursorErrors]
    refine .notClosed fun k hp => ?_
    subst hp
    rw [World.registry, Dll.registry_cursors_eq_none]
    simpa [openCursor_val] using shut
  | closed k hp isOpen =>
    subst hp
    rw [World.onDll_registry, deleteCursor_val, Dll.registry_closeCursor]
    simp only [World.commanded_dll, World.onDll_dll, Dll.registry_clearCursorErrors]
    exact .closed k fun hnone => isOpen (w.dll.registry_cursors_eq_none.mp hnone)

/-- Counting rows registers nothing. -/
theorem RowsOutcome.registry {p r : ℤ} {w w' : World σ} (h : RowsOutcome host p w r w') :
    w'.registry = w.registry := by
  cases h <;> simp

/-- Fetching a row changes the current row, which the registry does not have. -/
@[simp] theorem World.fetched_registry (k : Fin maxCursors) (w : World σ) :
    (w.fetched host k).registry = w.registry := by
  rw [World.fetched, World.onDll_registry, Dll.registry_setCursor_of _ (by simp) (by simp) (by simp)]
  simp

/-- Fetching a row registers nothing. -/
theorem FetchOutcome.registry {p : ℤ} {b : Bool} {w w' : World σ}
    (h : FetchOutcome host p w b w') : w'.registry = w.registry := by
  cases h <;> simp

/-- Reading a field registers nothing. -/
theorem FieldOutcome.registry {p : ℤ} {f : ℕ} {text : WStr} {w w' : World σ}
    (h : FieldOutcome host p f w text w') : w'.registry = w.registry := by
  cases h with
  | wrong => simp
  | noField => simp [World.measured]
  | read =>
    rw [World.onDll_registry, Dll.registry_setCursor_of _ (by simp) (by simp) (by simp), World.inspected_dll,
      World.onDll_dll, Dll.registry_setCursor_of _ (by simp) (by simp) (by simp)]
    simp [World.measured]
  | tooBig =>
    rw [World.onDll_registry, Dll.registry_setSlotError, World.inspected_dll, World.onDll_dll,
      Dll.registry_setCursor_of _ (by simp) (by simp) (by simp)]
    simp [World.measured]

/-- The number of affected rows is read without registering anything. -/
theorem RowsAffectedOutcome.registry {p r : ℤ} {w w' : World σ}
    (h : RowsAffectedOutcome host p w r w') : w'.registry = w.registry := by
  cases h <;> simp

/-- The DLL refines the registry: every exported call which returns is one of its steps. -/
theorem call_refines {turns : ℕ} {e : Exported} {r : e.Reply} {w w' : World σ}
    (h : (call host turns e).run w = .ok (r, w')) :
    Registry.Step e r w.registry w'.registry := by
  cases e with
  | connect c => exact (cMySqlConnect_outcome host h).step
  | disconnect p => exact (cMySqlDisconnect_outcome host h).step
  | execute p q =>
    rw [(cMySqlExecute_outcome host h).registry]
    exact .kept r trivial
  | cursorOpen p q => exact (cMySqlCursorOpen_outcome host h).step
  | cursorClose p => exact (cMySqlCursorClose_outcome host h).step
  | cursorRows p =>
    rw [(cMySqlCursorRows_outcome host h).registry]
    exact .kept r trivial
  | cursorFetchRow p =>
    rw [(cMySqlCursorFetchRow_outcome host h).registry]
    exact .kept r trivial
  | getRowField p f =>
    rw [(cMySqlGetRowField_outcome host h).registry]
    exact .kept r trivial
  | rowsAffected p =>
    rw [(cMySqlRowsAffected_outcome host h).registry]
    exact .kept r trivial
  | getMySqlErrorNumber p | getMySqlErrorDescription p | getCursorErrorNumber p
  | getCursorErrorDescription p =>
    cases h
    exact .kept _ trivial

/-- Nothing is registered at process attach. -/
@[simp] theorem attach_registry (library : σ) : (attach library).registry = Registry.empty := by
  ext1
  · funext i
    exact (Dll.registry_connections_eq_none _).mpr rfl
  · funext k
    exact (Dll.registry_cursors_eq_none _).mpr rfl

end MqlMySql
