import MqlMySql.Library.Ownership
import MqlMySql.Spec.Opening

/-!
# Which result sets change hands

The library calls which hand out or release a result set, as a log of transfers, and what every outcome adds
to this log.
-/

namespace MqlMySql

open Library

/-- The result set which changes hands in a library call. -/
def LibraryCall.transfer : LibraryCall → Option (Transfer MysqlRes)
  | .useResult _ answer | .storeResult _ answer => answer.map .obtained
  | .freeResult res => res.map .released
  | _ => none

/-- What one turn of the result loop transfers: it releases what it obtains. -/
def passed : Option MysqlRes → List (Transfer MysqlRes)
  | none => []
  | some res => [.released res, .obtained res]

variable {σ : Type}

/-- The transfers of result sets so far, most recent first. -/
def World.transfers (w : World σ) : List (Transfer MysqlRes) :=
  w.calls.filterMap LibraryCall.transfer

section Projections

variable {α : Type} (w : World σ) (g : Dll → Dll) (f : σ → α × σ) (record : α → LibraryCall)
  (h : σ → σ) (c : LibraryCall)

@[simp] theorem World.onDll_transfers : (w.onDll g).transfers = w.transfers := rfl
@[simp] theorem World.performed_transfers : (w.performed f record).transfers =
    (record (f w.library).1).transfer.toList ++ w.transfers := by
  cases hc : (record (f w.library).1).transfer <;> simp [World.transfers, hc]
@[simp] theorem World.inspected_transfers :
    (w.inspected c).transfers = c.transfer.toList ++ w.transfers := by
  cases hc : c.transfer <;> simp [World.transfers, hc]
@[simp] theorem World.commanded_transfers :
    (w.commanded h c).transfers = c.transfer.toList ++ w.transfers := by
  cases hc : c.transfer <;> simp [World.transfers, hc]

end Projections

attribute [simp] LibraryCall.transfer

variable {host : Host σ} {w w' : World σ}

variable (host) in
/-- Sending a query transfers nothing, as it neither takes a result nor frees one. -/
@[simp] theorem World.sent_transfers (i : Fin maxConnections) (q : WStr) (w : World σ) :
    (w.sent host i q).transfers = w.transfers := by
  simp [World.sent]

/-- Sending a query transfers nothing. -/
theorem QueryOutcome.transfers {p : ℤ} {q : WStr} {b : Bool} (h : QueryOutcome host p q w b w') :
    w'.transfers = w.transfers := by
  cases h with
  | noConnection => rfl
  | tooBig => rfl
  | pending i => simp
  | executed i => simp

variable (host) in
/-- Taking a result releases at once what it obtains. -/
theorem World.taken_transfers (mysql : Option Mysql) (w : World σ) :
    (w.taken host mysql).transfers =
      passed (host.mysqlStoreResult mysql w.library).1 ++ w.transfers := by
  cases hres : (host.mysqlStoreResult mysql w.library).1 with
  | none => simp [World.taken, hres, passed]
  | some res => simp [World.taken, hres, passed]

/-- Every turn of the result loop releases what it obtained, and so does the last one. -/
theorem drainResults_transfers {mysql : Option Mysql} {turns : ℕ} {rSet : Option MysqlRes}
    (h : (drainResults host mysql turns).run w = .ok (rSet, w')) :
    ∃ l : List (Option MysqlRes),
      w'.transfers = passed rSet ++ (l.flatMap passed ++ w.transfers) := by
  induction turns generalizing w with
  | zero => simp [drainResults] at h
  | succ turns ih =>
    have htaken := World.taken_transfers host mysql w
    cases drainResults_outcome host h with
    | last => exact ⟨[], by simpa using htaken⟩
    | stopped => exact ⟨[], by simpa using htaken⟩
    | advanced more status rest =>
      obtain ⟨l, hl⟩ := ih rest
      refine ⟨l ++ [(host.mysqlStoreResult mysql w.library).1], ?_⟩
      rw [hl]
      simp [htaken]

/-- What executing a query transfers: nothing, or the result set of `mysql_use_result`, then what the turns of
the loop obtain and release, and the last of it once more. -/
theorem ExecuteOutcome.transfers {turns : ℕ} {p : ℤ} {q : WStr} {b : Bool}
    (h : ExecuteOutcome host turns p q w b w') :
    w'.transfers = w.transfers ∨ ∃ (used rSet : Option MysqlRes) (l : List (Option MysqlRes)),
      w'.transfers = (rSet.map .released).toList ++ (passed rSet ++
        (l.flatMap passed ++ ((used.map .obtained).toList ++ w.transfers))) := by
  cases h with
  | rejected query => exact Or.inl query.transfers
  | @failed i hp fits quiet rSet w₂ drained =>
    obtain ⟨l, hl⟩ := drainResults_transfers drained
    refine Or.inr ⟨(host.mysqlUseResult (w.handle i) (w.sent host i q).library).1, rSet, l, ?_⟩
    simp [hl, World.used]
  | @succeeded i hp fits quiet rSet w₂ drained =>
    obtain ⟨l, hl⟩ := drainResults_transfers drained
    refine Or.inr ⟨(host.mysqlUseResult (w.handle i) (w.sent host i q).library).1, rSet, l, ?_⟩
    simp [hl, World.used]

/-- Storing the record set of a cursor hands it out. -/
theorem StoreOutcome.transfers {i : Fin maxConnections} {q : WStr} {k : Fin maxCursors}
    {rs : Option MysqlRes} (h : StoreOutcome host i q k w rs w') :
    w'.transfers = (rs.map .obtained).toList ++ w.transfers := by
  have hopening : (w.opening i.val k).transfers = w.transfers := rfl
  cases h with
  | rejected query => simpa [hopening] using query.transfers
  | stored => simp [hopening]

/-- Opening a cursor registers the record set which was stored, or registers and transfers nothing. -/
theorem OpenOutcome.opened_cases {p r : ℤ} {q : WStr} (h : OpenOutcome host p q w r w') :
    (∃ (i : Fin maxConnections) (k : Fin maxCursors) (res : MysqlRes) (w₂ : World σ),
        p = i.val ∧ r = k.val ∧ w.registry.cursors k = none ∧
          w'.registry = w.registry.openCursor k p res ∧ StoreOutcome host i q k w (some res) w₂ ∧
            w' = w₂.onDll fun d => d.setCursor k fun c => { c with id := k.val, connection := p }) ∨
      w'.registry = w.registry ∧ w'.transfers = w.transfers := by
  have hstep := h.step host
  cases h with
  | noConnection => exact Or.inr ⟨by simp, rfl⟩
  | full => exact Or.inr ⟨by simp, rfl⟩
  | opened i hp k free res store =>
    have hfree := getNewCursorId_free free
    refine Or.inl ⟨i, k, res, _, hp, rfl, w.dll.registry_cursors_eq_none.mpr hfree, ?_, store, rfl⟩
    rw [World.onDll_registry, Dll.registry_openCursor _ res store.recordSet, World.dll_registry,
      store.registry host hfree]
  | refused i hp k free store =>
    refine Or.inr ⟨?_, by simp [World.blamed, store.transfers]⟩
    rcases hstep.open_cases with ⟨l, res, hl, -, -⟩ | hsame
    · exact absurd hl.symm (val_ne_neg_one l)
    · exact hsame
  | undecided i hp k free store =>
    exact Or.inr ⟨store.blamed_registry host (getNewCursorId_free free), by
      simp [World.blamed, store.transfers]⟩

/-- Opening a cursor obtains the record set which it registers, or transfers nothing. -/
theorem OpenOutcome.transfers {p r : ℤ} {q : WStr} (h : OpenOutcome host p q w r w') :
    (∃ (k : Fin maxCursors) (res : MysqlRes), r = k.val ∧ w.registry.cursors k = none ∧
        w'.registry = w.registry.openCursor k p res ∧ w'.transfers = .obtained res :: w.transfers) ∨
      w'.registry = w.registry ∧ w'.transfers = w.transfers := by
  rcases h.opened_cases with ⟨i, k, res, w₂, -, hr, hfree, hregistry, store, rfl⟩ | hsame
  · exact Or.inl ⟨k, res, hr, hfree, hregistry, by simp [store.transfers]⟩
  · exact Or.inr hsame

/-- Closing a cursor releases the record set which was registered, or transfers nothing. -/
theorem CloseOutcome.transfers {p : ℤ} (h : CloseOutcome host p w w') :
    (∃ (k : Fin maxCursors) (c : ℤ × Option MysqlRes), p = k.val ∧ w.registry.cursors k = some c ∧
        w'.registry = w.registry.closeCursor k ∧
        w'.transfers = (c.2.map .released).toList ++ w.transfers) ∨
      w'.registry = w.registry ∧ w'.transfers = w.transfers := by
  cases h with
  | wrong => exact Or.inr ⟨by simp, rfl⟩
  | closed k hp isOpen =>
    subst hp
    refine Or.inl ⟨k, _, rfl, World.cursor_of_registry isOpen, ?_, by simp⟩
    rw [World.onDll_registry, deleteCursor_val, Dll.registry_closeCursor]
    simp

/-- The calls other than executing, opening and closing transfer nothing. -/
theorem call_transfers {turns : ℕ} {e : Exported} {r : e.Reply}
    (h : (call host turns e).run w = .ok (r, w')) (keeps : Registry.KeepsCursors e)
    (hne : ∀ p q, e ≠ .execute p q) : w'.transfers = w.transfers := by
  cases e with
  | execute p q => exact absurd rfl (hne p q)
  | cursorOpen p q => cases keeps
  | cursorClose p => cases keeps
  | connect c => cases cMySqlConnect_outcome host h <;> simp [World.asked]
  | disconnect p => cases cMySqlDisconnect_outcome host h <;> simp
  | cursorRows p => cases cMySqlCursorRows_outcome host h <;> simp
  | cursorFetchRow p => cases cMySqlCursorFetchRow_outcome host h <;> simp [World.fetched]
  | getRowField p f => cases cMySqlGetRowField_outcome host h <;> simp [World.measured]
  | rowsAffected p => cases cMySqlRowsAffected_outcome host h <;> simp
  | getMySqlErrorNumber p | getMySqlErrorDescription p | getCursorErrorNumber p
  | getCursorErrorDescription p =>
    cases h
    rfl

/-- The log of transfers only grows. -/
theorem call_transfers_grow {turns : ℕ} {e : Exported} {r : e.Reply}
    (h : (call host turns e).run w = .ok (r, w')) : ∃ made, w'.transfers = made ++ w.transfers := by
  cases e with
  | execute p q =>
    rcases (cMySqlExecute_outcome host h).transfers with hsame | ⟨used, rSet, l, hmade⟩
    · exact ⟨[], hsame⟩
    · exact ⟨_, by rw [hmade, ← List.append_assoc, ← List.append_assoc, ← List.append_assoc]⟩
  | cursorOpen p q =>
    rcases (cMySqlCursorOpen_outcome host h).transfers with ⟨k, res, -, -, -, hmade⟩ | ⟨-, hsame⟩
    · exact ⟨[.obtained res], hmade⟩
    · exact ⟨[], hsame⟩
  | cursorClose p =>
    rcases (cMySqlCursorClose_outcome host h).transfers with ⟨k, c, -, -, -, hmade⟩ | ⟨-, hsame⟩
    · exact ⟨_, hmade⟩
    · exact ⟨[], hsame⟩
  | _ => exact ⟨[], call_transfers h trivial (by simp)⟩

end MqlMySql
