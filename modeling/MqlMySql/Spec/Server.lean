import MqlMySql.Model.ConnectionCalls
import MqlMySql.Spec.Protocol
import Mathlib.Logic.Function.Basic
import Mathlib.Tactic.Common

/-!
# A library which follows the protocol

A small executable library. It hands out fresh handles and result pointers, answers queries from a
script, and refuses to connect without a user name. `scripted_protocol` shows that the laws of
`Protocol` can be met; the concrete runs of this development use this library.
-/

namespace MqlMySql

/-- The outcomes of a statement without rows. -/
def Outcomes.ofDone : Outcomes := ⟨[.done], by simp, by simp⟩

/-- The outcomes of a single query. -/
def Outcomes.ofResultSet : Outcomes := ⟨[.resultSet], by simp, by simp⟩

/-- The outcomes of a statement which the server rejects. -/
def Outcomes.ofError (number : ℕ) : Outcomes := ⟨[.error number], by simp, by simp⟩

/-- Three statements, of which the last is rejected. -/
def Outcomes.ofBatch : Outcomes := ⟨[.done, .done, .error 1064], by simp, by decide⟩

/-- The state of the library. The handles from `handles` on are not allocated. -/
structure Server where
  handles : ℕ
  results : ℕ
  links : Mysql → Option Link
  errnos : Mysql → ℕ
  script : List Outcomes
  unallocated : ∀ n, handles ≤ n → links ⟨n⟩ = none

namespace Server

/-- A library which nobody has used, with the answers it is going to give. -/
def fresh (script : List Outcomes) : Server := ⟨0, 0, fun _ => none, fun _ => 0, script, by simp⟩

variable (s : Server)

/-- Move an allocated link and note the error number of its handle. -/
def setLink (m : Mysql) (l : Link) (errno : ℕ) (h : s.links m ≠ none) : Server :=
  { s with
    links := Function.update s.links m (some l)
    errnos := Function.update s.errnos m errno
    unallocated := fun n hn => by
      have hne : (⟨n⟩ : Mysql) ≠ m := by
        rintro rfl
        exact h (s.unallocated n hn)
      rw [Function.update_of_ne hne]
      exact s.unallocated n hn }

/-- The link of the handle after a move. -/
@[simp] theorem setLink_self (m : Mysql) (l : Link) (errno : ℕ) (h : s.links m ≠ none) :
    (s.setLink m l errno h).links m = some l := by
  simp [setLink]

/-- A move keeps the links of the other handles. -/
theorem setLink_other {m m' : Mysql} (l : Link) (errno : ℕ) (h : s.links m ≠ none)
    (hne : m' ≠ m) : (s.setLink m l errno h).links m' = s.links m' := by
  simp [setLink, hne]

/-- `mysql_init`. -/
def init : Option Mysql × Server :=
  (some ⟨s.handles⟩,
    { s with
      handles := s.handles + 1
      links := Function.update s.links ⟨s.handles⟩ (some Link.ready)
      unallocated := fun n hn => by
        have hne : (⟨n⟩ : Mysql) ≠ ⟨s.handles⟩ := by
          intro h
          have := congrArg Mysql.address h
          simp only at this
          omega
        rw [Function.update_of_ne hne]
        exact s.unallocated n (by omega) })

/-- `mysql_real_connect`. -/
def realConnect (m : Mysql) (request : ConnectRequest) : Option Mysql × Server :=
  if h : s.links m = none then (none, s)
  else if request.user = [] then (none, s.setLink m Link.ready 1045 h)
  else (some m, s.setLink m Link.ready 0 h)

/-- `mysql_close`. -/
def close (m : Mysql) : Server :=
  { s with
    links := Function.update s.links m none
    unallocated := fun n hn => by
      by_cases hne : (⟨n⟩ : Mysql) = m
      · rw [hne, Function.update_self]
      · rw [Function.update_of_ne hne]
        exact s.unallocated n hn }

/-- The answer of the server to the next query. -/
def answer : Outcomes := s.script.headD Outcomes.ofDone

/-- The error number of a handle which stands at the first of some outcomes. -/
def numberOf : List Outcome → ℕ
  | .error number :: _ => number
  | _ => 0

/-- `mysql_real_query`. -/
def realQuery (m : Mysql) : ℤ × Server :=
  match h : s.links m with
  | none => (1, s)
  | some l =>
    if l = Link.ready then
      (if numberOf s.answer.list = 0 then 0 else 1,
        { s.setLink m (Link.start s.answer.list) (numberOf s.answer.list) (by simp [h]) with
          script := s.script.tail })
    else (1, s.setLink m l 2014 (by simp [h]))

/-- `mysql_use_result`. -/
def useResult (m : Mysql) : Option MysqlRes × Server :=
  match h : s.links m with
  | none => (none, s)
  | some l =>
    if l.untaken then
      (some ⟨s.results⟩, { s.setLink m { l.taken with inUse := some ⟨s.results⟩ } (s.errnos m)
        (by simp [h]) with results := s.results + 1 })
    else if l.inUse = none then (none, s)
    else (none, s.setLink m l 2014 (by simp [h]))

/-- `mysql_store_result`. -/
def storeResult (m : Mysql) : Option MysqlRes × Server :=
  match h : s.links m with
  | none => (none, s)
  | some l =>
    if l.untaken then
      (some ⟨s.results⟩,
        { s.setLink m l.taken (s.errnos m) (by simp [h]) with results := s.results + 1 })
    else if l.inUse = none then (none, s)
    else (none, s.setLink m l 2014 (by simp [h]))

/-- `mysql_more_results`. -/
def moreResults (m : Mysql) : Bool :=
  match s.links m with
  | none => false
  | some l => !l.rest.isEmpty

/-- `mysql_next_result`. -/
def nextResult (m : Mysql) : ℤ × Server :=
  match h : s.links m with
  | none => (-1, s)
  | some l =>
    if l.inUse ≠ none ∨ l.untaken then (1, s.setLink m l 2014 (by simp [h]))
    else match l.rest with
      | [] => (-1, s)
      | o :: os =>
        (if o.isError then 1 else 0,
          s.setLink m (Link.start (o :: os)) (numberOf (o :: os)) (by simp [h]))

/-- `mysql_free_result`. -/
def freeResult (res : MysqlRes) : Server :=
  { s with
    links := fun m => (s.links m).map fun l =>
      if l.inUse = some res then { l with inUse := none } else l
    unallocated := fun n hn => by rw [s.unallocated n hn, Option.map_none] }

/-- The number of the handle after a move. -/
@[simp] theorem setLink_errnos (m : Mysql) (l : Link) (errno : ℕ) (h : s.links m ≠ none) :
    (s.setLink m l errno h).errnos m = errno := by
  simp [setLink]

/-- A move keeps the numbers of the other handles. -/
theorem setLink_errnos_other {m m' : Mysql} (l : Link) (errno : ℕ) (h : s.links m ≠ none) (hne : m' ≠ m) :
    (s.setLink m l errno h).errnos m' = s.errnos m' :=
  Function.update_of_ne hne _ _

/-- A move keeps the answers which are still to come. -/
@[simp] theorem setLink_script (m : Mysql) (l : Link) (errno : ℕ) (h : s.links m ≠ none) :
    (s.setLink m l errno h).script = s.script := rfl

/-- A move hands out no result set. -/
@[simp] theorem setLink_results (m : Mysql) (l : Link) (errno : ℕ) (h : s.links m ≠ none) :
    (s.setLink m l errno h).results = s.results := rfl

section Linked

variable {s} {m : Mysql} {l : Link} (h : s.links m = some l)
include h

/-- A query on an allocated handle: a ready link starts with the next answer, any other is out of sync. -/
theorem realQuery_of_link : s.realQuery m =
    if l = Link.ready then
      (if numberOf s.answer.list = 0 then 0 else 1,
        { s.setLink m (Link.start s.answer.list) (numberOf s.answer.list) (by simp [h]) with
          script := s.script.tail })
    else (1, s.setLink m l 2014 (by simp [h])) := by
  unfold realQuery
  split
  · simp_all
  · rename_i l' h'
    obtain rfl : l = l' := by simpa [h] using h'
    rfl

/-- Reading row by row on an allocated handle: the result set is in use until it is freed. -/
theorem useResult_of_link : s.useResult m =
    if l.untaken then
      (some ⟨s.results⟩, { s.setLink m { l.taken with inUse := some ⟨s.results⟩ } (s.errnos m)
        (by simp [h]) with results := s.results + 1 })
    else if l.inUse = none then (none, s)
    else (none, s.setLink m l 2014 (by simp [h])) := by
  unfold useResult
  split
  · simp_all
  · rename_i l' h'
    obtain rfl : l = l' := by simpa [h] using h'
    rfl

/-- Storing on an allocated handle: the result set is taken off the link. -/
theorem storeResult_of_link : s.storeResult m =
    if l.untaken then
      (some ⟨s.results⟩, { s.setLink m l.taken (s.errnos m) (by simp [h]) with results := s.results + 1 })
    else if l.inUse = none then (none, s)
    else (none, s.setLink m l 2014 (by simp [h])) := by
  unfold storeResult
  split
  · simp_all
  · rename_i l' h'
    obtain rfl : l = l' := by simpa [h] using h'
    rfl

/-- Going on, on an allocated handle, which needs the current result to be taken and nothing in use. -/
theorem nextResult_of_link : s.nextResult m =
    if l.inUse ≠ none ∨ l.untaken then (1, s.setLink m l 2014 (by simp [h]))
    else match l.rest with
      | [] => (-1, s)
      | o :: os =>
        (if o.isError then 1 else 0,
          s.setLink m (Link.start (o :: os)) (numberOf (o :: os)) (by simp [h])) := by
  unfold nextResult
  split
  · simp_all
  · rename_i l' h'
    obtain rfl : l = l' := by simpa [h] using h'
    rfl

end Linked

/-- A query on a handle which is not allocated fails. -/
theorem realQuery_of_none {m : Mysql} (h : s.links m = none) : s.realQuery m = (1, s) := by
  unfold realQuery
  split <;> simp_all

/-- On a handle which is not allocated there is nothing to read. -/
theorem useResult_of_none {m : Mysql} (h : s.links m = none) : s.useResult m = (none, s) := by
  unfold useResult
  split <;> simp_all

/-- On a handle which is not allocated there is nothing to store. -/
theorem storeResult_of_none {m : Mysql} (h : s.links m = none) : s.storeResult m = (none, s) := by
  unfold storeResult
  split <;> simp_all

/-- On a handle which is not allocated there is nothing to go on to. -/
theorem nextResult_of_none {m : Mysql} (h : s.links m = none) : s.nextResult m = (-1, s) := by
  unfold nextResult
  split <;> simp_all

end Server

/-- The library over `Server`. -/
def scriptedHost : Host Server where
  mysqlInit := Server.init
  mysqlRealConnect m request s := s.realConnect m request
  mysqlClose m s := m.elim s s.close
  mysqlRealQuery m _ _ s := m.elim (1, s) s.realQuery
  mysqlErrno m s := m.elim 0 s.errnos
  mysqlError m s := if m.elim 0 s.errnos = 0 then "" else "error"
  mysqlUseResult m s := m.elim (none, s) s.useResult
  mysqlStoreResult m s := m.elim (none, s) s.storeResult
  mysqlMoreResults m s := m.elim false s.moreResults
  mysqlNextResult m s := m.elim (-1, s) s.nextResult
  mysqlAffectedRows _ _ := 0
  mysqlFreeResult res s := res.elim s s.freeResult
  mysqlNumRows _ _ := 0
  mysqlNumFields _ _ := 1
  mysqlFetchRow _ s := (none, s)
  rowField _ _ _ := none
  wcstombs text := text.map fun c => c.toUInt8

/-- Some credentials which the scripted library accepts. -/
def Credentials.sample : Credentials := ⟨[104], [117], [112], [100], 3306, [], 0⟩

/-- Some credentials which it refuses. -/
def Credentials.anonymous : Credentials := { Credentials.sample with pUser := [] }

/-- The slot of the first connection. -/
def firstConnection : Fin maxConnections := ⟨0, by decide⟩

/-- The library over `Server` follows the protocol. -/
theorem scripted_protocol :
    Protocol scriptedHost Server.links fun s _ _ => s.answer where
  init_fresh s m h := by
    cases h
    exact s.unallocated _ (Nat.le_refl _)
  init_frame s m h := by
    have hne : m ≠ ⟨s.handles⟩ := by
      rintro rfl
      exact h rfl
    exact Function.update_of_ne hne _ _
  connect_answer s m request := by
    simp only [scriptedHost, Server.realConnect]
    split
    · exact Or.inl rfl
    · split
      · exact Or.inl rfl
      · exact Or.inr rfl
  connect_ready s m request h := by
    simp only [scriptedHost, Server.realConnect] at h ⊢
    split at h
    · cases h
    · split at h
      · cases h
      · simp_all
  connect_frame s m request m' hne := by
    simp only [scriptedHost, Server.realConnect]
    split
    · rfl
    · split <;> simp [Server.setLink_other, hne]
  close_frame s m m' hne := Function.update_of_ne hne _ _
  query_sent s m q n h := by
    simp only [scriptedHost, Option.elim, Server.realQuery]
    split <;> simp_all
  query_refused s m q n l h hl := by
    simp only [scriptedHost, Option.elim, Server.realQuery]
    split <;> simp_all
  query_frame s m q n m' hne := by
    simp only [scriptedHost, Option.elim, Server.realQuery]
    split
    · rfl
    · split <;> simp [Server.setLink_other, hne]
  store_some s m l h hu _ := by
    simp only [scriptedHost, Option.elim, Server.storeResult]
    split <;> simp_all
  store_none s m l h hu := by
    by_cases idle : l.inUse = none <;> simp [scriptedHost, Server.storeResult_of_link h, hu, idle, h]
  store_frame s m m' hne := by
    simp only [scriptedHost, Option.elim, Server.storeResult]
    split
    · rfl
    · split
      · simp [Server.setLink_other, hne]
      · split
        · rfl
        · simp [Server.setLink_other, hne]
  use_some s m l h hu := by
    refine ⟨⟨s.results⟩, ?_⟩
    simp only [scriptedHost, Option.elim, Server.useResult]
    split <;> simp_all
  use_none s m l h hu := by
    by_cases idle : l.inUse = none <;> simp [scriptedHost, Server.useResult_of_link h, hu, idle, h]
  use_frame s m m' hne := by
    simp only [scriptedHost, Option.elim, Server.useResult]
    split
    · rfl
    · split
      · simp [Server.setLink_other, hne]
      · split
        · rfl
        · simp [Server.setLink_other, hne]
  more_results s m l h := by simp [scriptedHost, Server.moreResults, h]
  next_busy s m l h hb := by
    simp only [scriptedHost, Option.elim, Server.nextResult]
    split <;> simp_all
  next_advances s m o os h := by
    simp only [scriptedHost, Option.elim, Server.nextResult]
    split <;> simp_all
  next_frame s m m' hne := by
    simp only [scriptedHost, Option.elim, Server.nextResult]
    split
    · rfl
    · split
      · simp [Server.setLink_other, hne]
      · split
        · rfl
        · simp [Server.setLink_other, hne]
  free_null s m := rfl
  free_stored s res m l h hu := by
    simp [scriptedHost, Server.freeResult, h, hu]
  fetch_stored s res m l h _ := h

end MqlMySql
