import MqlMySql.Model.Host

/-!
# The protocol of the library

What libmysql documents about the results of a query. A query yields a list of statement outcomes.
The connection stands at one of them and may have further ones to advance to; the result set of the
current one has to be taken before the connection advances, either by storing it or by using it row by
row, and a connection whose result set is in use is busy until that result set is freed.

`Link` is the state of one connection in these terms. A library follows the protocol when its
functions act on the links as `Protocol` says; nothing is assumed about error numbers.
-/

namespace MqlMySql

/-- What one statement of a query yields. -/
inductive Outcome
  | done
  | resultSet
  | error (number : ℕ)
deriving DecidableEq, Repr

/-- Whether an outcome carries rows. -/
def Outcome.hasRows : Outcome → Bool
  | .resultSet => true
  | _ => false

/-- Whether an outcome is an error. -/
def Outcome.isError : Outcome → Bool
  | .error _ => true
  | _ => false

/-- Where a connection stands in the results of its last query. -/
structure Link where
  untaken : Bool
  inUse : Option MysqlRes
  rest : List Outcome
deriving DecidableEq, Repr

namespace Link

/-- No result set waits or is in use, and there is no outcome left to advance to. -/
def ready : Link := ⟨false, none, []⟩

/-- The connection stands at the first of some outcomes. -/
def start : List Outcome → Link
  | [] => ready
  | o :: os => ⟨o.hasRows, none, os⟩

@[simp] theorem start_inUse (os : List Outcome) : (start os).inUse = none := by
  cases os <;> rfl

/-- The connection after the result set of the current outcome has been taken and kept. -/
def taken (l : Link) : Link := { l with untaken := false }

end Link

/-- The outcomes of one query: there is at least one, and only the last may be an error. -/
structure Outcomes where
  list : List Outcome
  nonempty : list ≠ []
  error_last : ∀ o ∈ list.dropLast, o.isError = false
deriving DecidableEq

/-- A library follows the protocol on the links of its allocated handles. `outcomes s m q` is what the
server answers when `q` is sent on the handle `m` in the state `s`. -/
structure Protocol {σ : Type} (host : Host σ) (link : σ → Mysql → Option Link)
    (outcomes : σ → Mysql → List UInt8 → Outcomes) : Prop where
  /-- A new handle was not allocated before. -/
  init_fresh : ∀ s m, (host.mysqlInit s).1 = some m → link s m = none
  init_frame : ∀ s m, (host.mysqlInit s).1 ≠ some m → link (host.mysqlInit s).2 m = link s m
  /-- Connecting returns its argument or null, and a new connection is ready. -/
  connect_answer : ∀ s m request, (host.mysqlRealConnect m request s).1 = none ∨
    (host.mysqlRealConnect m request s).1 = some m
  connect_ready : ∀ s m request, (host.mysqlRealConnect m request s).1 = some m →
    link (host.mysqlRealConnect m request s).2 m = some Link.ready
  connect_frame : ∀ s m request m', m' ≠ m →
    link (host.mysqlRealConnect m request s).2 m' = link s m'
  close_frame : ∀ s m m', m' ≠ m → link (host.mysqlClose (some m) s) m' = link s m'
  /-- A query is sent on a ready connection and refused on any other. -/
  query_sent : ∀ s m q n, link s m = some Link.ready →
    link (host.mysqlRealQuery (some m) q n s).2 m = some (Link.start (outcomes s m q).list)
  query_refused : ∀ s m q n l, link s m = some l → l ≠ Link.ready →
    link (host.mysqlRealQuery (some m) q n s).2 m = some l
  query_frame : ∀ s m q n m', m' ≠ m →
    link (host.mysqlRealQuery (some m) q n s).2 m' = link s m'
  /-- Storing takes a waiting result set completely. -/
  store_some : ∀ s m l, link s m = some l → l.untaken = true → l.inUse = none →
    (host.mysqlStoreResult (some m) s).1 ≠ none ∧
      link (host.mysqlStoreResult (some m) s).2 m = some l.taken
  /-- Without a waiting result set there is nothing to store or use. -/
  store_none : ∀ s m l, link s m = some l → l.untaken = false →
    (host.mysqlStoreResult (some m) s).1 = none ∧
      link (host.mysqlStoreResult (some m) s).2 m = some l
  store_frame : ∀ s m m', m' ≠ m → link (host.mysqlStoreResult (some m) s).2 m' = link s m'
  /-- Using takes a waiting result set and leaves the connection busy. -/
  use_some : ∀ s m l, link s m = some l → l.untaken = true →
    ∃ res, (host.mysqlUseResult (some m) s).1 = some res ∧
      link (host.mysqlUseResult (some m) s).2 m = some { l.taken with inUse := some res }
  use_none : ∀ s m l, link s m = some l → l.untaken = false →
    (host.mysqlUseResult (some m) s).1 = none ∧
      link (host.mysqlUseResult (some m) s).2 m = some l
  use_frame : ∀ s m m', m' ≠ m → link (host.mysqlUseResult (some m) s).2 m' = link s m'
  more_results : ∀ s m l, link s m = some l →
    host.mysqlMoreResults (some m) s = !l.rest.isEmpty
  /-- Advancing is refused on a busy connection. -/
  next_busy : ∀ s m l, link s m = some l → l.inUse ≠ none →
    (host.mysqlNextResult (some m) s).1 ≠ 0 ∧
      link (host.mysqlNextResult (some m) s).2 m = some l
  /-- Otherwise the connection stands at the next outcome, and the status tells an error. -/
  next_advances : ∀ s m o os, link s m = some ⟨false, none, o :: os⟩ →
    ((host.mysqlNextResult (some m) s).1 = 0 ↔ o.isError = false) ∧
      link (host.mysqlNextResult (some m) s).2 m = some (Link.start (o :: os))
  next_frame : ∀ s m m', m' ≠ m → link (host.mysqlNextResult (some m) s).2 m' = link s m'
  /-- Freeing null has no effect; freeing a stored result set touches no connection. -/
  free_null : ∀ s m, link (host.mysqlFreeResult none s) m = link s m
  free_stored : ∀ s res m l, link s m = some l → l.inUse ≠ some res →
    link (host.mysqlFreeResult (some res) s) m = some l
  /-- Fetching from a stored result set touches no connection. -/
  fetch_stored : ∀ s res m l, link s m = some l → l.inUse ≠ some res →
    link (host.mysqlFetchRow (some res) s).2 m = some l

end MqlMySql
