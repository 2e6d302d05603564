import MqlMySql.Spec.Refinement

/-!
# The record of the library calls

The record of a world only grows. Here is what each outcome adds at least.
-/

namespace MqlMySql

open Library

variable {σ : Type} (host : Host σ)

/-- The query which is sent stands in the record. -/
theorem World.sent_calls (i : Fin maxConnections) (q : WStr) (w : World σ) :
    (.realQuery (w.handle i) (sentQuery q) (sentQuery q).length :: w.calls) <:+
      (w.sent host i q).calls := by
  simp [World.sent]

/-- Taking a result adds to the record. -/
theorem World.taken_calls (mysql : Option Mysql) (w : World σ) :
    w.calls <:+ (w.taken host mysql).calls := by
  simp only [World.taken]
  split
  · exact (List.suffix_cons _ _).trans (List.suffix_cons _ _)
  · exact List.suffix_cons _ _

/-- The result loop only adds to the record of the calls. -/
theorem drainResults_calls {mysql : Option Mysql} {turns : ℕ} {w w' : World σ}
    {rSet : Option MysqlRes} (h : (drainResults host mysql turns).run w = .ok (rSet, w')) :
    w.calls <:+ w'.calls := by
  induction turns generalizing w with
  | zero => simp [drainResults] at h
  | succ turns ih =>
    have htaken := World.taken_calls host mysql w
    have hmore := List.suffix_cons (LibraryCall.moreResults mysql) (w.taken host mysql).calls
    cases drainResults_outcome host h with
    | last => exact htaken.trans hmore
    | stopped => exact (htaken.trans hmore).trans (List.suffix_cons _ _)
    | advanced more status rest =>
      exact ((htaken.trans hmore).trans (List.suffix_cons _ _)).trans (ih rest)

variable {host}

/-- The result loop adds to the record of the query before it. -/
theorem drained_calls {i : Fin maxConnections} {q : WStr} {turns : ℕ} {w w₂ : World σ}
    {rSet : Option MysqlRes}
    (drained : (drainResults host (w.handle i) turns).run ((w.sent host i q).used host i) =
      .ok (rSet, w₂)) : (w.sent host i q).calls <:+ w₂.calls :=
  (List.suffix_cons _ _).trans (drainResults_calls host drained)

/-- `MySqlExecute` adds to the record, or makes no call. -/
theorem QueryOutcome.calls {p : ℤ} {q : WStr} {b : Bool} {w w' : World σ}
    (h : QueryOutcome host p q w b w') : w.calls <:+ w'.calls := by
  cases h with
  | noConnection => exact List.suffix_refl _
  | tooBig => exact List.suffix_refl _
  | pending i =>
    exact ((List.suffix_cons _ _).trans (World.sent_calls host i q w)).trans (List.suffix_cons _ _)
  | executed i => exact (List.suffix_cons _ _).trans (World.sent_calls host i q w)

/-- `cMySqlExecute` adds to the record, or makes no call. -/
theorem ExecuteOutcome.calls {turns : ℕ} {p : ℤ} {q : WStr} {b : Bool} {w w' : World σ}
    (h : ExecuteOutcome host turns p q w b w') : w.calls <:+ w'.calls := by
  cases h with
  | rejected query => exact query.calls
  | failed i hp fits quiet drained =>
    have hsent := (List.suffix_cons _ _).trans (World.sent_calls host i q w)
    exact (hsent.trans (drained_calls drained)).trans
      (((List.suffix_cons _ _).trans (List.suffix_cons _ _)).trans (List.suffix_cons _ _))
  | succeeded i hp fits quiet drained =>
    have hsent := (List.suffix_cons _ _).trans (World.sent_calls host i q w)
    exact (hsent.trans (drained_calls drained)).trans
      ((List.suffix_cons _ _).trans (List.suffix_cons _ _))

/-- The first half of an opening adds to the record, or makes no call. -/
theorem StoreOutcome.calls {i : Fin maxConnections} {q : WStr} {k : Fin maxCursors}
    {w w' : World σ} {rs : Option MysqlRes} (h : StoreOutcome host i q k w rs w') :
    w.calls <:+ w'.calls := by
  cases h with
  | rejected query => exact query.calls
  | stored =>
    have hsent := World.sent_calls host i q (w.opening i.val k)
    exact ((List.suffix_cons _ _).trans hsent).trans (List.suffix_cons _ _)

/-- A record set was stored by the last library call. -/
theorem StoreOutcome.calls_stored {i : Fin maxConnections} {q : WStr} {k : Fin maxCursors}
    {w w' : World σ} {res : MysqlRes} (h : StoreOutcome host i q k w (some res) w') :
    ∃ made, w'.calls = .storeResult (w.handle i) (some res) :: made ∧ w.calls <:+ made := by
  generalize hrs : some res = rs at h
  cases h with
  | rejected => cases hrs
  | stored =>
    have hsent := World.sent_calls host i q (w.opening i.val k)
    refine ⟨_, ?_, (List.suffix_cons _ _).trans hsent⟩
    simp only [World.onDll_calls, World.performed_calls, World.sent_library,
      World.opening_library, World.opening_handle]

/-- Connecting registers nothing, or the handle which its first library call returned. -/
theorem ConnectOutcome.taken {c : Credentials} {r : ℤ} {w w' : World σ}
    (h : ConnectOutcome host c w r w') :
    r = -1 ∧ w'.registry = w.registry ∨
      ∃ (i : Fin maxConnections) (m : Mysql), r = i.val ∧ w.registry.connections i = none ∧
        w'.registry = w.registry.connect i m ∧ (.init (some m) :: w.calls) <:+ w'.calls := by
  cases h with
  | full => exact Or.inl ⟨rfl, by simp⟩
  | unallocated => exact Or.inl ⟨rfl, by simp⟩
  | refused i free mysql => exact Or.inl ⟨rfl, by simp [World.asked_registry host c mysql free]⟩
  | connected i free mysql allocated answer =>
    refine Or.inr ⟨i, mysql, rfl, ?_, World.connected_registry host c mysql free, ?_⟩
    · exact w.dll.registry_connections_eq_none.mpr (getNewConnectionId_free free)
    · simp [World.asked, allocated]

section Lifecycle

/-- The calls which allocate or free a handle. -/
def LibraryCall.isLifecycle : LibraryCall → Bool
  | .init _ | .close _ => true
  | _ => false

/-- The record of the handles of a world. -/
def World.lifecycle (w : World σ) : List LibraryCall := w.calls.filter LibraryCall.isLifecycle

variable (host) in
/-- A query neither opens nor closes a handle. -/
theorem World.sent_lifecycle (i : Fin maxConnections) (q : WStr) (w : World σ) :
    (w.sent host i q).lifecycle = w.lifecycle := by
  simp [World.lifecycle, World.sent, LibraryCall.isLifecycle]

/-- `MySqlExecute` neither opens nor closes a handle. -/
theorem QueryOutcome.lifecycle {p : ℤ} {q : WStr} {b : Bool} {w w' : World σ}
    (h : QueryOutcome host p q w b w') : w'.lifecycle = w.lifecycle := by
  cases h with
  | noConnection => rfl
  | tooBig => rfl
  | pending i =>
    have hsent := World.sent_lifecycle host i q w
    simpa [World.lifecycle, LibraryCall.isLifecycle] using hsent
  | executed i => exact World.sent_lifecycle host i q w

variable (host) in
/-- Taking a result neither opens nor closes a handle. -/
theorem World.taken_lifecycle (mysql : Option Mysql) (w : World σ) :
    (w.taken host mysql).lifecycle = w.lifecycle := by
  simp only [World.taken]
  split <;> simp [World.lifecycle, LibraryCall.isLifecycle]

/-- The result loop neither opens nor closes a handle, by induction on the turns which are left. -/
theorem drainResults_lifecycle {mysql : Option Mysql} {turns : ℕ} {w w' : World σ}
    {rSet : Option MysqlRes} (h : (drainResults host mysql turns).run w = .ok (rSet, w')) :
    w'.lifecycle = w.lifecycle := by
  induction turns generalizing w with
  | zero => simp [drainResults] at h
  | succ turns ih =>
    have htaken := World.taken_lifecycle host mysql w
    cases drainResults_outcome host h with
    | last => simpa [World.lifecycle, LibraryCall.isLifecycle] using htaken
    | stopped => simpa [World.lifecycle, LibraryCall.isLifecycle] using htaken
    | advanced more status rest =>
      rw [ih rest]
      simpa [World.lifecycle, LibraryCall.isLifecycle] using htaken

/-- `cMySqlExecute` neither opens nor closes a handle. -/
theorem ExecuteOutcome.lifecycle {turns : ℕ} {p : ℤ} {q : WStr} {b : Bool} {w w' : World σ}
    (h : ExecuteOutcome host turns p q w b w') : w'.lifecycle = w.lifecycle := by
  cases h with
  | rejected query => exact query.lifecycle
  | failed i hp fits quiet drained =>
    have hdrained := drainResults_lifecycle drained
    have hsent := World.sent_lifecycle host i q w
    simp_all [World.lifecycle, LibraryCall.isLifecycle, World.used]
  | succeeded i hp fits quiet drained =>
    have hdrained := drainResults_lifecycle drained
    have hsent := World.sent_lifecycle host i q w
    simp_all [World.lifecycle, LibraryCall.isLifecycle, World.used]

/-- The first half of an opening neither opens nor closes a handle. -/
theorem StoreOutcome.lifecycle {i : Fin maxConnections} {q : WStr} {k : Fin maxCursors}
    {w w' : World σ} {rs : Option MysqlRes} (h : StoreOutcome host i q k w rs w') :
    w'.lifecycle = w.lifecycle := by
  cases h with
  | rejected query => exact query.lifecycle
  | stored =>
    have hsent := World.sent_lifecycle host i q (w.opening i.val k)
    simpa [World.lifecycle, LibraryCall.isLifecycle, World.opening] using hsent

/-- `cMySqlCursorOpen` neither opens nor closes a handle. -/
theorem OpenOutcome.lifecycle {p r : ℤ} {q : WStr} {w w' : World σ}
    (h : OpenOutcome host p q w r w') : w'.lifecycle = w.lifecycle := by
  cases h with
  | noConnection => rfl
  | full => rfl
  | opened i hp k free res store => exact store.lifecycle
  | refused i hp k free store =>
    have hstore := store.lifecycle
    simpa [World.lifecycle, LibraryCall.isLifecycle, World.blamed] using hstore
  | undecided i hp k free store =>
    have hstore := store.lifecycle
    simpa [World.lifecycle, LibraryCall.isLifecycle, World.blamed] using hstore

/-- Only connecting and disconnecting allocate or free handles. -/
theorem call_lifecycle {turns : ℕ} {e : Exported} {r : e.Reply} {w w' : World σ}
    (h : (call host turns e).run w = .ok (r, w')) (keeps : Registry.KeepsConnections e) :
    w'.lifecycle = w.lifecycle := by
  cases e with
  | connect c => cases keeps
  | disconnect p => cases keeps
  | execute p q => exact (cMySqlExecute_outcome host h).lifecycle
  | cursorOpen p q => exact (cMySqlCursorOpen_outcome host h).lifecycle
  | cursorClose p =>
    cases cMySqlCursorClose_outcome host h <;>
      simp [World.lifecycle, LibraryCall.isLifecycle]
  | cursorRows p =>
    cases cMySqlCursorRows_outcome host h <;> simp [World.lifecycle, LibraryCall.isLifecycle]
  | cursorFetchRow p =>
    cases cMySqlCursorFetchRow_outcome host h <;>
      simp [World.lifecycle, LibraryCall.isLifecycle, World.fetched]
  | getRowField p f =>
    cases cMySqlGetRowField_outcome host h <;>
      simp [World.lifecycle, LibraryCall.isLifecycle, World.measured]
  | rowsAffected p =>
    cases cMySqlRowsAffected_outcome host h <;> simp [World.lifecycle, LibraryCall.isLifecycle]
  | getMySqlErrorNumber p | getMySqlErrorDescription p | getCursorErrorNumber p
  | getCursorErrorDescription p =>
    cases h
    rfl

end Lifecycle

end MqlMySql
