import MqlMySql.Spec.ConnectionCalls

/-!
# What `cMySqlExecute` can do

The result loop works on the library alone: it never touches the globals of the DLL. So
`cMySqlExecute` returns in one of three ways: the query was not accepted, or the loop was run and the
error number of the handle was positive, or it was run and the number was zero.
-/

namespace MqlMySql

open Library

variable {σ : Type} (host : Host σ)

/-- The world after one `mysql_store_result` of the result loop and the release of what it gave. -/
def World.taken (mysql : Option Mysql) (w : World σ) : World σ :=
  let w₁ := w.performed (host.mysqlStoreResult mysql) (.storeResult mysql)
  let rSet := (host.mysqlStoreResult mysql w.library).1
  if rSet.isSome then w₁.commanded (host.mysqlFreeResult rSet) (.freeResult rSet) else w₁

/-- Taking a result leaves the memory of the DLL. -/
@[simp] theorem World.taken_dll (mysql : Option Mysql) (w : World σ) :
    (w.taken host mysql).dll = w.dll := by
  simp only [World.taken]
  split <;> rfl

/-- How one turn of the result loop ends: the last turn keeps its result, any other is followed by
the remaining turns. -/
inductive TurnOutcome (mysql : Option Mysql) (turns : ℕ) (w : World σ) :
    Option MysqlRes → World σ → Prop
  | last (no_more : host.mysqlMoreResults mysql (w.taken host mysql).library = false) :
      TurnOutcome mysql turns w (host.mysqlStoreResult mysql w.library).1
        ((w.taken host mysql).inspected (.moreResults mysql))
  | stopped (more : host.mysqlMoreResults mysql (w.taken host mysql).library = true)
      (status : (host.mysqlNextResult mysql (w.taken host mysql).library).1 ≠ 0) :
      TurnOutcome mysql turns w (host.mysqlStoreResult mysql w.library).1
        (((w.taken host mysql).inspected (.moreResults mysql)).performed
          (host.mysqlNextResult mysql) fun _ => .nextResult mysql)
  | advanced (more : host.mysqlMoreResults mysql (w.taken host mysql).library = true)
      (status : (host.mysqlNextResult mysql (w.taken host mysql).library).1 = 0)
      {rSet : Option MysqlRes} {w' : World σ}
      (rest : (drainResults host mysql turns).run
        (((w.taken host mysql).inspected (.moreResults mysql)).performed
          (host.mysqlNextResult mysql) fun _ => .nextResult mysql) = .ok (rSet, w')) :
      TurnOutcome mysql turns w rSet w'

/-- One turn of the loop, run. -/
theorem run_drainResults_succ (mysql : Option Mysql) (turns : ℕ) (w : World σ) :
    (drainResults host mysql (turns + 1)).run w =
      if host.mysqlMoreResults mysql (w.taken host mysql).library then
        if (host.mysqlNextResult mysql (w.taken host mysql).library).1 = 0 then
          (drainResults host mysql turns).run
            (((w.taken host mysql).inspected (.moreResults mysql)).performed
              (host.mysqlNextResult mysql) fun _ => .nextResult mysql)
        else .ok ((host.mysqlStoreResult mysql w.library).1,
          ((w.taken host mysql).inspected (.moreResults mysql)).performed
            (host.mysqlNextResult mysql) fun _ => .nextResult mysql)
      else .ok ((host.mysqlStoreResult mysql w.library).1,
        (w.taken host mysql).inspected (.moreResults mysql)) := by
  rw [drainResults]
  by_cases hsome : (host.mysqlStoreResult mysql w.library).1.isSome
  · simp only [StateT.run_bind, run_perform, ok_bind, hsome, if_true, run_command, run_inspect,
      World.taken]
    split
    · simp only [StateT.run_bind, run_perform, ok_bind, World.inspected_library]
      split <;> rfl
    · rfl
  · simp only [StateT.run_bind, run_perform, ok_bind, hsome, if_false, run_inspect, World.taken,
      Bool.false_eq_true]
    split
    · simp only [StateT.run_bind, run_perform, ok_bind, World.inspected_library]
      split <;> rfl
    · rfl

/-- A turn of the result loop ends in one of these ways. -/
theorem drainResults_outcome {mysql : Option Mysql} {turns : ℕ} {w w' : World σ}
    {rSet : Option MysqlRes} (h : (drainResults host mysql (turns + 1)).run w = .ok (rSet, w')) :
    TurnOutcome host mysql turns w rSet w' := by
  rw [run_drainResults_succ] at h
  split at h
  · split at h
    · exact .advanced ‹_› ‹_› h
    · cases h
      exact .stopped ‹_› ‹_›
  · cases h
    exact .last (Bool.eq_false_iff.mpr ‹_›)

/-- The result loop leaves the globals of the DLL alone. -/
theorem drainResults_dll {mysql : Option Mysql} {turns : ℕ} {w w' : World σ}
    {rSet : Option MysqlRes} (h : (drainResults host mysql turns).run w = .ok (rSet, w')) :
    w'.dll = w.dll := by
  induction turns generalizing w with
  | zero => simp [drainResults] at h
  | succ turns ih =>
    cases drainResults_outcome host h with
    | last => simp
    | stopped => simp
    | advanced more status rest => simpa using ih rest

/-- The world in which the result loop starts. -/
def World.used (i : Fin maxConnections) (w : World σ) : World σ :=
  w.performed (host.mysqlUseResult (w.handle i)) (.useResult (w.handle i))

/-- The call of `mysql_use_result` leaves the memory of the DLL. -/
@[simp] theorem World.used_dll (i : Fin maxConnections) (w : World σ) :
    (w.used host i).dll = w.dll := rfl

/-- How `cMySqlExecute` returns. -/
inductive ExecuteOutcome (turns : ℕ) (p : ℤ) (q : WStr) (w : World σ) : Bool → World σ → Prop
  | rejected {w' : World σ} (query : QueryOutcome host p q w false w') :
      ExecuteOutcome turns p q w false w'
  | failed (i : Fin maxConnections) (hp : p = i.val) (fits : QueryFits q)
      (quiet : w.dll.mySqlErrorNumber ≤ 0) {rSet : Option MysqlRes} {w₂ : World σ}
      (drained : (drainResults host (w.handle i) turns).run ((w.sent host i q).used host i) =
        .ok (rSet, w₂))
      (positive : 0 < host.mysqlErrno (w.handle i) w₂.library) :
      ExecuteOutcome turns p q w false
        ((((w₂.inspected (.errno (w.handle i))).inspected (.error (w.handle i))).onDll fun d =>
          d.setConnectionError i (host.mysqlErrno (w.handle i) w₂.library)
            (host.mysqlError (w.handle i) w₂.library)).commanded
              (host.mysqlFreeResult rSet) (.freeResult rSet))
  | succeeded (i : Fin maxConnections) (hp : p = i.val) (fits : QueryFits q)
      (quiet : w.dll.mySqlErrorNumber ≤ 0) {rSet : Option MysqlRes} {w₂ : World σ}
      (drained : (drainResults host (w.handle i) turns).run ((w.sent host i q).used host i) =
        .ok (rSet, w₂))
      (zero : host.mysqlErrno (w.handle i) w₂.library = 0) :
      ExecuteOutcome turns p q w true
        ((w₂.inspected (.errno (w.handle i))).commanded
          (host.mysqlFreeResult rSet) (.freeResult rSet))

/-- Clearing the errors before `MySqlExecute` changes nothing, since it clears them itself. -/
theorem run_mySqlExecute_cleared (p : ℤ) (q : WStr) (w : World σ) :
    (mySqlExecute host p q).run (w.onDll (clearErrors p)) = (mySqlExecute host p q).run w := by
  have hclear : (w.onDll (clearErrors p)).onDll (clearErrors p) = w.onDll (clearErrors p) := by
    simp only [World.onDll, clearErrors_clearErrors]
  simp only [mySqlExecute, StateT.run_bind, run_modifyDll, ok_bind, hclear]

/-- Sending a query keeps the handles. -/
@[simp] theorem World.sent_handle (i j : Fin maxConnections) (q : WStr) (w : World σ) :
    (w.sent host i q).handle j = w.handle j := by
  by_cases hji : j = i
  · subst hji
    simp [World.sent, World.handle]
  · simp [World.sent, World.handle, hji]

/-- `cMySqlExecute` ends in one of these ways; the loop is kept as a run of its own. -/
theorem cMySqlExecute_outcome {turns : ℕ} {p : ℤ} {q : WStr} {b : Bool} {w w' : World σ}
    (h : (cMySqlExecute host turns p q).run w = .ok (b, w')) :
    ExecuteOutcome host turns p q w b w' := by
  by_cases hp : p = -1
  · subst hp
    simp [cMySqlExecute] at h
    obtain ⟨rfl, rfl⟩ := h
    exact .rejected (.noConnection rfl)
  · simp only [cMySqlExecute, StateT.run_bind, run_modifyDll, ok_bind, if_neg hp,
      run_mySqlExecute_cleared] at h
    obtain ⟨⟨accepted, w₁⟩, hquery, h⟩ := bind_eq_ok_iff.mp h
    cases accepted with
    | false =>
      simp at h
      obtain ⟨rfl, rfl⟩ := h
      exact .rejected (mySqlExecute_outcome host hquery)
    | true =>
      cases mySqlExecute_outcome host hquery with
      | executed i hpi fits quiet =>
        subst hpi
        have hread : ((w.sent host i q).dll.connections i).connection = w.handle i :=
          World.sent_handle host i i q w
        simp only [if_true, StateT.run_bind, run_connectionAt_val, run_readDll, run_perform,
          ok_bind, hread] at h
        obtain ⟨⟨rSet, w₂⟩, hdrain, h⟩ := bind_eq_ok_iff.mp h
        have hused : (w.sent host i q).used host i =
            (w.sent host i q).performed (host.mysqlUseResult (w.handle i))
              (.useResult (w.handle i)) := by
          rw [World.used, World.sent_handle]
        rw [← hused] at hdrain
        by_cases herr : 0 < host.mysqlErrno (w.handle i) w₂.library
        · simp [herr] at h
          obtain ⟨rfl, rfl⟩ := h
          exact .failed i rfl fits quiet hdrain herr
        · simp [herr] at h
          obtain ⟨rfl, rfl⟩ := h
          exact .succeeded i rfl fits quiet hdrain (Nat.eq_zero_of_not_pos herr)

/-- How `cMySqlRowsAffected` returns. -/
inductive RowsAffectedOutcome (p : ℤ) (w : World σ) : ℤ → World σ → Prop
  | noConnection (hp : p = -1) : RowsAffectedOutcome p w 0 (w.onDll noConnection)
  | counted (i : Fin maxConnections) (hp : p = i.val) :
      RowsAffectedOutcome p w (intOfUInt64 (host.mysqlAffectedRows (w.handle i) w.library))
        (w.inspected (.affectedRows (w.handle i)))

/-- `cMySqlRowsAffected` ends in one of these ways. -/
theorem cMySqlRowsAffected_outcome {p r : ℤ} {w w' : World σ}
    (h : (cMySqlRowsAffected host p).run w = .ok (r, w')) : RowsAffectedOutcome host p w r w' := by
  by_cases hp : p = -1
  · subst hp
    simp [cMySqlRowsAffected] at h
    obtain ⟨rfl, rfl⟩ := h
    exact .noConnection rfl
  · cases hi : slotIndex maxConnections p with
    | none => simp [cMySqlRowsAffected, hp, run_connectionAt_none hi] at h
    | some i =>
      obtain rfl := slotIndex_eq_some_iff.mp hi
      simp [cMySqlRowsAffected, hp] at h
      obtain ⟨rfl, rfl⟩ := h
      exact .counted i rfl

variable {host} {turns : ℕ} {w : World σ}

/-- `MySqlExecute` sends a query which fits and accepts it when the DLL-wide number is not positive. -/
theorem run_mySqlExecute_quiet {i : Fin maxConnections} {q : WStr} (fits : QueryFits q)
    (quiet : w.dll.mySqlErrorNumber ≤ 0) :
    (mySqlExecute host i.val q).run w = .ok (true, w.sent host i q) := by
  have hquery : (wideCharToMultiByte q).length < maxQuerySize := fits
  simp [mySqlExecute, val_ne_neg_one, hquery, not_lt.mpr quiet, Dll.setConnectionError]
  rfl

/-- `cMySqlExecute` comes back when its loop does. -/
theorem cMySqlExecute_returns {i : Fin maxConnections} {q : WStr} (fits : QueryFits q)
    (quiet : w.dll.mySqlErrorNumber ≤ 0) {rSet : Option MysqlRes} {w₂ : World σ}
    (drained : (drainResults host (w.handle i) turns).run ((w.sent host i q).used host i) =
      .ok (rSet, w₂)) :
    ∃ b w', (cMySqlExecute host turns i.val q).run w = .ok (b, w') := by
  have hread : ((w.sent host i q).dll.connections i).connection = w.handle i :=
    World.sent_handle host i i q w
  rw [World.used, World.sent_handle] at drained
  simp only [cMySqlExecute, StateT.run_bind, run_modifyDll, ok_bind, if_neg (val_ne_neg_one i),
    run_mySqlExecute_cleared, run_mySqlExecute_quiet fits quiet, if_true, run_connectionAt_val,
    run_readDll, run_perform, hread, drained, run_inspect]
  split
  · exact ⟨_, _, rfl⟩
  · exact ⟨_, _, rfl⟩

end MqlMySql
