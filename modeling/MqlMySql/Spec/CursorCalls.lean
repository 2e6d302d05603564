import MqlMySql.Spec.Execute

/-!
# What the cursor calls can do

The outcome types of `MqlMySql.Model.CursorCalls`. Opening a cursor is the call with most ways out:
the free slot, the acceptance of the query, the stored result and the error number of the handle
each decide a part of it.
-/

namespace MqlMySql

open Library

variable {σ : Type} (host : Host σ)

/-- The world in which `cMySqlCursorOpen` runs the query: both error cells are cleared and the free
slot has no record set. -/
def World.opening (p : ℤ) (k : Fin maxCursors) (w : World σ) : World σ :=
  w.onDll fun d => (clearCursorErrors (-1) (clearErrors p d)).setCursor k fun c =>
    { c with recordSet := none }

/-- The record set which the slot holds after the query, and the world at that point. -/
inductive StoreOutcome (i : Fin maxConnections) (q : WStr) (k : Fin maxCursors) (w : World σ) :
    Option MysqlRes → World σ → Prop
  | rejected {w₁ : World σ} (query : QueryOutcome host i.val q (w.opening i.val k) false w₁) :
      StoreOutcome i q k w none w₁
  | stored (fits : QueryFits q) (quiet : w.dll.mySqlErrorNumber ≤ 0) :
      StoreOutcome i q k w
        (host.mysqlStoreResult (w.handle i) ((w.opening i.val k).sent host i q).library).1
        ((((w.opening i.val k).sent host i q).performed (host.mysqlStoreResult (w.handle i))
          (.storeResult (w.handle i))).onDll fun d => d.setCursor k fun c =>
            { c with recordSet := (host.mysqlStoreResult (w.handle i)
              ((w.opening i.val k).sent host i q).library).1 })

/-- The world after the number of the handle is copied into the slot of the connection. -/
def World.blamed (i : Fin maxConnections) (w : World σ) : World σ :=
  (w.inspected (.errno (w.handle i))).onDll fun d => d.setConnection i fun slot =>
    { slot with mySqlErrorNumber := host.mysqlErrno (w.handle i) w.library }

/-- The error number which the handle has when `cMySqlCursorOpen` is left without a record set. -/
def World.openErrno (i : Fin maxConnections) (q : WStr) (w : World σ) : ℕ :=
  if QueryFits q then
    if 0 < w.dll.mySqlErrorNumber then w.sentErrno host i q
    else host.mysqlErrno (w.handle i)
      (host.mysqlStoreResult (w.handle i) (w.sent host i q).library).2
  else host.mysqlErrno (w.handle i) w.library

/-- How `cMySqlCursorOpen` returns. -/
inductive OpenOutcome (p : ℤ) (q : WStr) (w : World σ) : ℤ → World σ → Prop
  | noConnection (hp : p = -1) :
      OpenOutcome p q w (-1) (w.onDll fun d =>
        noConnection (clearCursorErrors (-1) (clearErrors p d)))
  | full (i : Fin maxConnections) (hp : p = i.val) (none_free : getNewCursorId w.dll = -1) :
      OpenOutcome p q w (-1) (w.onDll fun d =>
        (clearCursorErrors (-1) (clearErrors p d)).setConnectionError i (-3)
          "Maximum number of opened cursors was exceeded.")
  | opened (i : Fin maxConnections) (hp : p = i.val) (k : Fin maxCursors)
      (free : getNewCursorId w.dll = k.val) (res : MysqlRes) {w₂ : World σ}
      (store : StoreOutcome host i q k w (some res) w₂) :
      OpenOutcome p q w k.val (w₂.onDll fun d => d.setCursor k fun c =>
        { c with id := k.val, connection := p })
  | refused (i : Fin maxConnections) (hp : p = i.val) (k : Fin maxCursors)
      (free : getNewCursorId w.dll = k.val) {w₂ : World σ}
      (store : StoreOutcome host i q k w none w₂)
      (positive : 0 < host.mysqlErrno (w.handle i) w₂.library) :
      OpenOutcome p q w (-1)
        ((((w₂.blamed host i).onDll (deleteCursor k.val)).inspected (.error (w.handle i))).onDll
          fun d => d.setConnection i fun slot => { slot with
            mySqlErrorDescription := host.mysqlError (w.handle i) w₂.library })
  | undecided (i : Fin maxConnections) (hp : p = i.val) (k : Fin maxCursors)
      (free : getNewCursorId w.dll = k.val) {w₂ : World σ}
      (store : StoreOutcome host i q k w none w₂)
      (zero : host.mysqlErrno (w.handle i) w₂.library = 0) :
      OpenOutcome p q w k.val (w₂.blamed host i)

/-- Preparing an opening keeps the handles. -/
@[simp] theorem World.opening_handle (p : ℤ) (k : Fin maxCursors) (i : Fin maxConnections)
    (w : World σ) : (w.opening p k).handle i = w.handle i := by
  simp [World.opening, World.handle]

/-- Preparing an opening asks nothing of the library. -/
@[simp] theorem World.opening_library (p : ℤ) (k : Fin maxCursors) (w : World σ) :
    (w.opening p k).library = w.library := rfl

/-- Opening a slot does not change what the library answers to the query. -/
theorem World.opening_sent_library (i : Fin maxConnections) (k : Fin maxCursors) (q : WStr)
    (p : ℤ) (w : World σ) :
    ((w.opening p k).sent host i q).library = (w.sent host i q).library := by
  rw [World.sent_library, World.sent_library, World.opening_handle, World.opening_library]

/-- Preparing an opening empties the record set of the slot. -/
@[simp] theorem World.opening_recordSet (p : ℤ) (k : Fin maxCursors) (w : World σ) :
    ((w.opening p k).dll.cursors k).recordSet = none := by
  simp [World.opening]

/-- Looking for a cursor slot is not affected by clearing errors. -/
theorem getNewCursorId_cleared (p : ℤ) (d : Dll) :
    getNewCursorId (clearCursorErrors (-1) (clearErrors p d)) = getNewCursorId d :=
  getNewCursorId_congr fun k => by simp [Dll.setCursorError]

/-- A query which is not accepted changes no cursor and no handle. -/
theorem QueryOutcome.cursors {p : ℤ} {q : WStr} {b : Bool} {w w' : World σ}
    (h : QueryOutcome host p q w b w') : w'.dll.cursors = w.dll.cursors := by
  cases h <;> simp [World.sent]

/-- `MySqlExecute` keeps every handle. -/
theorem QueryOutcome.handle {p : ℤ} {q : WStr} {b : Bool} {w w' : World σ}
    (h : QueryOutcome host p q w b w') (j : Fin maxConnections) : w'.handle j = w.handle j := by
  cases h with
  | noConnection => simp [World.handle]
  | tooBig => simp [World.handle]
  | executed i => simp
  | pending i =>
    by_cases hji : j = i
    · subst hji
      simpa [World.handle] using World.sent_handle host j j q w
    · simpa [World.handle, hji] using World.sent_handle host i j q w

/-- The first half of an opening keeps every handle. -/
theorem StoreOutcome.handle {i : Fin maxConnections} {q : WStr} {k : Fin maxCursors}
    {w w' : World σ} {rs : Option MysqlRes} (h : StoreOutcome host i q k w rs w')
    (j : Fin maxConnections) : w'.handle j = w.handle j := by
  cases h with
  | rejected query => simpa using query.handle host j
  | stored =>
    have hsent := World.sent_handle host i j q (w.opening i.val k)
    rw [World.opening_handle] at hsent
    simpa [World.handle] using hsent

/-- The slot holds the record set which the store gave. -/
theorem StoreOutcome.recordSet {i : Fin maxConnections} {q : WStr} {k : Fin maxCursors}
    {w w' : World σ} {rs : Option MysqlRes} (h : StoreOutcome host i q k w rs w') :
    (w'.dll.cursors k).recordSet = rs := by
  cases h with
  | rejected query => rw [query.cursors, World.opening_recordSet]
  | stored => simp

section Answers

variable {host}

/-- The query of an opened cursor was accepted and gave its record set. -/
theorem StoreOutcome.of_some {i : Fin maxConnections} {q : WStr} {k : Fin maxCursors}
    {w w' : World σ} {res : MysqlRes} (h : StoreOutcome host i q k w (some res) w') :
    QueryFits q ∧ w.dll.mySqlErrorNumber ≤ 0 ∧
      (host.mysqlStoreResult (w.handle i) (w.sent host i q).library).1 = some res ∧
      (w'.dll.connections i).mySqlErrorNumber = w.sentErrno host i q := by
  generalize hrs : some res = rs at h
  cases h with
  | rejected => cases hrs
  | stored fits quiet =>
    refine ⟨fits, quiet, by rw [World.opening_sent_library], ?_⟩
    rw [World.onDll_dll, Dll.setCursor_connections, World.performed_dll, World.sent_number,
      World.sentErrno, World.opening_sent_library, World.opening_handle, World.sentErrno]

/-- A query which was accepted but gave no record set stored nothing. -/
theorem StoreOutcome.of_none {i : Fin maxConnections} {q : WStr} {k : Fin maxCursors}
    {w w' : World σ} (h : StoreOutcome host i q k w none w') (fits : QueryFits q)
    (quiet : w.dll.mySqlErrorNumber ≤ 0) :
    (host.mysqlStoreResult (w.handle i) (w.sent host i q).library).1 = none := by
  generalize hrs : none = rs at h
  cases h with
  | rejected query =>
    cases query with
    | noConnection hp => exact absurd hp (val_ne_neg_one i)
    | tooBig hp big => exact absurd fits big
    | pending j hp _ positive =>
      have hnumber : (w.opening i.val k).dll.mySqlErrorNumber = w.dll.mySqlErrorNumber := by
        simp [World.opening]
      omega
  | stored => rw [World.opening_sent_library]

/-- Without a record set, `cMySqlCursorOpen` decides on the number which the handle has then. -/
theorem StoreOutcome.errno_of_none {i : Fin maxConnections} {q : WStr} {k : Fin maxCursors}
    {w w' : World σ} (h : StoreOutcome host i q k w none w') :
    host.mysqlErrno (w.handle i) w'.library = w.openErrno host i q := by
  generalize hrs : none = rs at h
  have hnumber : (w.opening i.val k).dll.mySqlErrorNumber = w.dll.mySqlErrorNumber := by
    simp [World.opening]
  cases h with
  | rejected query =>
    cases query with
    | noConnection hp => exact absurd hp (val_ne_neg_one i)
    | tooBig hp big => simp [World.openErrno, big]
    | pending j hp fits positive =>
      obtain rfl : i = j := Fin.ext (by omega)
      rw [hnumber] at positive
      simp [World.openErrno, fits, positive, World.sentErrno, World.opening_sent_library]
  | stored fits quiet =>
    simp [World.openErrno, fits, not_lt.mpr quiet, World.opening_sent_library]

end Answers

/-- Running the query on a free slot. A connection index outside the table can only get here with a
query which is too big. -/
theorem storeRecordSet_outcome {k : Fin maxCursors} {p : ℤ} {q : WStr} {w w₂ : World σ}
    (hp : p ≠ -1)
    (h : (storeRecordSet host k p q).run
      ((w.onDll (clearErrors p)).onDll (clearCursorErrors (-1))) = .ok ((), w₂)) :
    (∃ (i : Fin maxConnections) (rs : Option MysqlRes), p = i.val ∧
      StoreOutcome host i q k w rs w₂) ∨
    slotIndex maxConnections p = none ∧ (w₂.dll.cursors k).recordSet = none := by
  simp only [storeRecordSet, StateT.run_bind, run_modifyDll, ok_bind] at h
  change ((mySqlExecute host p q).run (w.opening p k) >>= _) = _ at h
  obtain ⟨⟨accepted, w₁⟩, hquery, h⟩ := bind_eq_ok_iff.mp h
  have hquery := mySqlExecute_outcome host hquery
  cases accepted with
  | false =>
    simp at h
    subst h
    cases hi : slotIndex maxConnections p with
    | none =>
      refine Or.inr ⟨rfl, ?_⟩
      rw [hquery.cursors, World.opening_recordSet]
    | some i =>
      obtain rfl := slotIndex_eq_some_iff.mp hi
      exact Or.inl ⟨i, none, rfl, .rejected hquery⟩
  | true =>
    cases hquery with
    | executed i hpi fits quiet =>
      subst hpi
      have hread : (((w.opening i.val k).sent host i q).dll.connections i).connection =
          w.handle i := by
        have := World.sent_handle host i i q (w.opening i.val k)
        rwa [World.opening_handle] at this
      simp [hread] at h
      subst h
      exact Or.inl ⟨i, _, rfl, .stored fits (by simpa [World.opening] using quiet)⟩

/-- `cMySqlCursorOpen` ends in one of these ways; the cases are those of the source from top to bottom. -/
theorem cMySqlCursorOpen_outcome {p r : ℤ} {q : WStr} {w w' : World σ}
    (h : (cMySqlCursorOpen host p q).run w = .ok (r, w')) : OpenOutcome host p q w r w' := by
  by_cases hp : p = -1
  · subst hp
    simp [cMySqlCursorOpen] at h
    obtain ⟨rfl, rfl⟩ := h
    exact .noConnection rfl
  rcases getNewCursorId_cases w.dll with hfull | ⟨k, hfree, -⟩
  · cases hi : slotIndex maxConnections p with
    | none =>
      simp [cMySqlCursorOpen, hp, getNewCursorId_cleared, hfull, run_connectionAt_none hi,
        -clearCursorErrors_neg_one] at h
    | some i =>
      obtain rfl := slotIndex_eq_some_iff.mp hi
      simp [cMySqlCursorOpen, hp, getNewCursorId_cleared, hfull, -clearCursorErrors_neg_one,
        -clearErrors_val] at h
      obtain ⟨rfl, rfl⟩ := h
      exact .full i rfl hfull
  · simp only [cMySqlCursorOpen, StateT.run_bind, run_modifyDll, ok_bind, if_neg hp, run_readDll,
      World.onDll_dll, getNewCursorId_cleared, hfree, slotIndex_val] at h
    obtain ⟨⟨_, w₂⟩, hstore, h⟩ := bind_eq_ok_iff.mp h
    rcases storeRecordSet_outcome host hp hstore with ⟨i, rs, rfl, store⟩ | ⟨hi, hnone⟩
    · have hread : (w₂.dll.connections i).connection = w.handle i := store.handle host i
      cases rs with
      | some res =>
        simp [concludeOpen, store.recordSet] at h
        obtain ⟨rfl, rfl⟩ := h
        exact .opened i rfl k hfree res store
      | none =>
        by_cases herr : 0 < host.mysqlErrno (w.handle i) w₂.library
        · simp [concludeOpen, store.recordSet, hread, herr] at h
          obtain ⟨rfl, rfl⟩ := h
          have hdone := OpenOutcome.refused i rfl k hfree store herr
          rwa [World.blamed, store.handle host i] at hdone
        · simp [concludeOpen, store.recordSet, hread, herr] at h
          obtain ⟨rfl, rfl⟩ := h
          have hdone := OpenOutcome.undecided i rfl k hfree store (Nat.eq_zero_of_not_pos herr)
          rwa [World.blamed, store.handle host i] at hdone
    · simp [concludeOpen, hnone, run_connectionAt_none hi] at h

end MqlMySql
