import MqlMySql.Spec.Links

/-!
# What mysql_errno reports

A library which follows the protocol also documents that `mysql_errno` reports the latest outcome: the first
one after a query was sent, the next one after the connection advanced. Asking for a result set changes nothing of
it when the latest outcome has no columns. Draining outcomes without columns therefore ends with the number of the
last one.
-/

namespace MqlMySql

open Library

/-- The error number of an outcome. -/
def Outcome.number : Outcome → ℕ
  | .error number => number
  | _ => 0

/-- A link with no result set, neither one which waits nor one in use. -/
structure Link.Bare (l : Link) : Prop where
  untaken : l.untaken = false
  idle : l.Idle

/-- A library reports the latest outcome of a connection through `mysql_errno`. In the states `columnless` that
outcome has no columns, as `mysql_field_count` tells; only there asking for a result set leaves the number alone. -/
structure ReportsErrors {σ : Type} (host : Host σ) (link : σ → Mysql → Option Link)
    (outcomes : σ → Mysql → List UInt8 → Outcomes) (columnless : σ → Mysql → Prop) : Prop where
  query_errno : ∀ s m q n, link s m = some Link.ready →
    host.mysqlErrno (some m) (host.mysqlRealQuery (some m) q n s).2 =
      ((outcomes s m q).list.head (outcomes s m q).nonempty).number
  query_columns : ∀ s m q n, link s m = some Link.ready →
    ((outcomes s m q).list.head (outcomes s m q).nonempty).hasRows = false →
      columnless (host.mysqlRealQuery (some m) q n s).2 m
  store_errno : ∀ s m l, link s m = some l → l.Bare → columnless s m →
    host.mysqlErrno (some m) (host.mysqlStoreResult (some m) s).2 = host.mysqlErrno (some m) s
  use_errno : ∀ s m l, link s m = some l → l.Bare → columnless s m →
    host.mysqlErrno (some m) (host.mysqlUseResult (some m) s).2 = host.mysqlErrno (some m) s ∧
      columnless (host.mysqlUseResult (some m) s).2 m
  next_errno : ∀ s m o os, link s m = some ⟨false, none, o :: os⟩ →
    host.mysqlErrno (some m) (host.mysqlNextResult (some m) s).2 = o.number
  next_columns : ∀ s m o os, link s m = some ⟨false, none, o :: os⟩ → o.hasRows = false →
    columnless (host.mysqlNextResult (some m) s).2 m

/-- A link on which no outcome with columns waits or is left. -/
structure Link.NoRows (l : Link) : Prop extends l.Bare where
  rest : ∀ o ∈ l.rest, o.hasRows = false

variable {σ : Type} {host : Host σ} {link : σ → Mysql → Option Link}
  {outcomes : σ → Mysql → List UInt8 → Outcomes} {columnless : σ → Mysql → Prop}

/-- After the outcomes of a statement list without columns, no rows wait. -/
theorem Link.noRows_start {os : List Outcome} (h : ∀ o ∈ os, o.hasRows = false) :
    (Link.start os).NoRows := by
  cases os with
  | nil => exact ⟨⟨rfl, rfl⟩, by simp [Link.start, Link.ready]⟩
  | cons o os => exact ⟨⟨h o (by simp), rfl⟩, fun o' ho' => h o' (by simp [Link.start] at ho'; simp [ho'])⟩

section Draining

variable (P : Protocol host link outcomes) (E : ReportsErrors host link outcomes columnless) {m : Mysql} {l : Link}
  {w w' : World σ}
include P E

/-- Asking for a result set after an outcome without columns. -/
theorem taken_noRows (hl : link w.library m = some l) (noRows : l.NoRows) (bare : columnless w.library m) :
    (host.mysqlStoreResult (some m) w.library).1 = none ∧
      link (w.taken host (some m)).library m = some l ∧
        host.mysqlErrno (some m) (w.taken host (some m)).library =
            host.mysqlErrno (some m) w.library ∧
          (w.taken host (some m)).calls = .storeResult (some m) none :: w.calls := by
  obtain ⟨hnone, hlink⟩ := P.store_none _ m l hl noRows.untaken
  have herrno := E.store_errno _ m l hl noRows.toBare bare
  refine ⟨hnone, ?_, ?_, ?_⟩
  · simpa [World.taken, hnone] using hlink
  · simpa [World.taken, hnone] using herrno
  · simp [World.taken, hnone]

/-- The result loop over outcomes without columns ends with the number of the last one, after one call to
`mysql_next_result` for each. -/
theorem drainResults_noRows {turns : ℕ} {rSet : Option MysqlRes} (hl : link w.library m = some l)
    (noRows : l.NoRows) (bare : columnless w.library m) (hlast : ErrorLast l.rest)
    (h : (drainResults host (some m) turns).run w = .ok (rSet, w')) :
    rSet = none ∧
      host.mysqlErrno (some m) w'.library =
          l.rest.getLast?.elim (host.mysqlErrno (some m) w.library) Outcome.number ∧
        w'.calls.count (.nextResult (some m)) = w.calls.count (.nextResult (some m)) + l.rest.length := by
  induction turns generalizing w l with
  | zero => simp [drainResults] at h
  | succ turns ih =>
    obtain ⟨hnone, htaken, herrno, hcalls⟩ := taken_noRows P E hl noRows bare
    have hmore := P.more_results _ m _ htaken
    cases hrest : l.rest with
    | nil =>
      cases drainResults_outcome host h with
      | last => exact ⟨hnone, by simpa using herrno, by simp [hcalls]⟩
      | stopped more => simp [hmore, hrest] at more
      | advanced more => simp [hmore, hrest] at more
    | cons o os =>
      rw [hrest] at hlast
      have hat : l = ⟨false, none, o :: os⟩ := by
        rw [← hrest, ← noRows.untaken, ← show l.inUse = none from noRows.idle]
      rw [hat] at htaken hmore
      obtain ⟨hstatus, hnext⟩ := P.next_advances _ m o os htaken
      have hnumber := E.next_errno _ m o os htaken
      cases drainResults_outcome host h with
      | last no_more => simp [hmore] at no_more
      | stopped more status =>
        have herror : o.isError = true := by
          by_contra hne
          exact status (hstatus.mpr (by simpa using hne))
        obtain rfl := hlast.head herror
        exact ⟨hnone, by simpa using hnumber, by simp [hcalls]⟩
      | advanced more status rest =>
        have hwaiting : ∀ o' ∈ o :: os, o'.hasRows = false := by
          rw [← hrest]
          exact noRows.rest
        have hbare := E.next_columns _ m o os htaken (hwaiting o List.mem_cons_self)
        obtain ⟨hset, hend, hcount⟩ := ih hnext (Link.noRows_start hwaiting) hbare hlast.tail rest
        refine ⟨hset, ?_, ?_⟩
        · rw [hend, List.getLast?_cons]
          simp only [Link.start, World.performed_library, World.inspected_library, hnumber]
          cases os.getLast? <;> rfl
        · rw [hcount]
          simp [hcalls, Link.start]
          omega

end Draining

end MqlMySql
