import MqlMySql.Spec.Handles
import MqlMySql.Spec.Protocol

/-!
# What the calls do to the links

Over a library which follows the protocol, every exported call works on the link of at most one
handle, and leaves the idle links of all others alone. Draining the results of a query on an idle link
makes it ready again.
-/

namespace MqlMySql

open Library

variable {σ : Type} {host : Host σ} {link : σ → Mysql → Option Link}
  {outcomes : σ → Mysql → List UInt8 → Outcomes}

/-- A link on which no result set is being read row by row. -/
def Link.Idle (l : Link) : Prop := l.inUse = none

/-- The last outcome before the end or before an error has rows; the current one counts while its result
set waits. -/
def Link.endsWithRows (l : Link) : Bool :=
  (l.rest.filter fun o => !o.isError).getLast?.elim l.untaken Outcome.hasRows

/-- Going on to the next outcome does not change which outcome is the last before an error. -/
theorem Link.endsWithRows_start {l : Link} {o : Outcome} {os : List Outcome}
    (hrest : l.rest = o :: os) (hfine : o.isError = false) :
    (Link.start (o :: os)).endsWithRows = l.endsWithRows := by
  have hfilter : (l.rest.filter fun o => !o.isError) = o :: os.filter fun o => !o.isError := by
    simp [hrest, hfine]
  rw [Link.endsWithRows, Link.endsWithRows, hfilter, List.getLast?_cons]
  simp only [Link.start]
  cases (os.filter fun o => !o.isError).getLast? <;> rfl

/-- The idle links of all handles but one are kept. -/
def SparesOthers (link : σ → Mysql → Option Link) (m : Option Mysql) (s s' : σ) : Prop :=
  ∀ m' l, m ≠ some m' → link s m' = some l → l.Idle → link s' m' = some l

/-- Doing nothing spares everybody. -/
theorem SparesOthers.refl (m : Option Mysql) (s : σ) : SparesOthers link m s s :=
  fun _ _ _ hl _ => hl

/-- Two steps for one handle spare the others. -/
theorem SparesOthers.trans {m : Option Mysql} {s s' s'' : σ} (h : SparesOthers link m s s')
    (h' : SparesOthers link m s' s'') : SparesOthers link m s s'' :=
  fun m' l hne hl hidle => h' m' l hne (h m' l hne hl hidle) hidle

/-- What spares everybody spares all but one. -/
theorem SparesOthers.of_none {m : Option Mysql} {s s' : σ} (h : SparesOthers link none s s') :
    SparesOthers link m s s' :=
  fun m' l _ hl hidle => h m' l (by simp) hl hidle

/-- Only the last outcome of a list may be an error. -/
def ErrorLast (os : List Outcome) : Prop := ∀ o ∈ os.dropLast, o.isError = false

/-- The outcomes after the first are such a list again. -/
theorem ErrorLast.tail {o : Outcome} {os : List Outcome} (h : ErrorLast (o :: os)) :
    ErrorLast os := by
  cases os with
  | nil => simp [ErrorLast]
  | cons o' os =>
    intro x hx
    exact h x (by simp [hx])

/-- An error ends the list. -/
theorem ErrorLast.head {o : Outcome} {os : List Outcome} (h : ErrorLast (o :: os))
    (herror : o.isError = true) : os = [] := by
  cases os with
  | nil => rfl
  | cons o' os =>
    have hfalse := h o (by simp)
    rw [herror] at hfalse
    cases hfalse

namespace Protocol

variable (P : Protocol host link outcomes)
include P

/-- Releasing a result set leaves the idle links, whoever it belongs to. -/
theorem free_spares (res : Option MysqlRes) (s : σ) :
    SparesOthers link none s (host.mysqlFreeResult res s) := by
  intro m' l _ hl hidle
  cases res with
  | none => rw [P.free_null, hl]
  | some res => exact P.free_stored s res m' l hl (by simp [show l.inUse = none from hidle])

/-- Fetching a row leaves the idle links, since the link whose set is read is not idle. -/
theorem fetch_spares (res : MysqlRes) (s : σ) :
    SparesOthers link none s (host.mysqlFetchRow (some res) s).2 := by
  intro m' l _ hl hidle
  exact P.fetch_stored s res m' l hl (by simp [show l.inUse = none from hidle])

/-- A query works on the link of its own handle. -/
theorem query_spares (m : Mysql) (q : List UInt8) (n : ℕ) (s : σ) :
    SparesOthers link (some m) s (host.mysqlRealQuery (some m) q n s).2 := by
  intro m' l hne hl _
  rw [P.query_frame s m q n m' (by rintro rfl; exact hne rfl), hl]

/-- Storing a result works on the link of its own handle. -/
theorem store_spares (m : Mysql) (s : σ) :
    SparesOthers link (some m) s (host.mysqlStoreResult (some m) s).2 := by
  intro m' l hne hl _
  rw [P.store_frame s m m' (by rintro rfl; exact hne rfl), hl]

/-- Reading a result row by row works on the link of its own handle. -/
theorem use_spares (m : Mysql) (s : σ) :
    SparesOthers link (some m) s (host.mysqlUseResult (some m) s).2 := by
  intro m' l hne hl _
  rw [P.use_frame s m m' (by rintro rfl; exact hne rfl), hl]

/-- Going on to the next outcome works on the link of its own handle. -/
theorem next_spares (m : Mysql) (s : σ) :
    SparesOthers link (some m) s (host.mysqlNextResult (some m) s).2 := by
  intro m' l hne hl _
  rw [P.next_frame s m m' (by rintro rfl; exact hne rfl), hl]

/-- Closing a handle works on its own link. -/
theorem close_spares (m : Mysql) (s : σ) :
    SparesOthers link (some m) s (host.mysqlClose (some m) s) := by
  intro m' l hne hl _
  rw [P.close_frame s m m' (by rintro rfl; exact hne rfl), hl]

/-- Storing the current result takes it off an idle link. -/
theorem stored_link {m : Mysql} {l : Link} {s : σ} (hl : link s m = some l) (hidle : l.Idle) :
    link (host.mysqlStoreResult (some m) s).2 m = some l.taken := by
  cases huntaken : l.untaken with
  | true => exact (P.store_some s m l hl huntaken hidle).2
  | false =>
    have hsame : l.taken = l := by rw [Link.taken, ← huntaken]
    rw [hsame]
    exact (P.store_none s m l hl huntaken).2

/-- Freeing what was stored leaves the link as it is then. -/
theorem taken_link {m : Mysql} {l : Link} {w : World σ} (hl : link w.library m = some l)
    (hidle : l.Idle) : link (w.taken host (some m)).library m = some l.taken := by
  have hstored := P.stored_link hl hidle
  simp only [World.taken]
  split
  · exact P.free_spares _ _ m _ (by simp) hstored hidle
  · exact hstored

/-- Taking a result and releasing it works on the link of its own handle. -/
theorem taken_spares (m : Mysql) (w : World σ) :
    SparesOthers link (some m) w.library (w.taken host (some m)).library := by
  have hstore := P.store_spares m w.library
  simp only [World.taken]
  split
  · exact hstore.trans (P.free_spares _ _).of_none
  · exact hstore

/-- The result loop works on the link of its own handle, by induction on the turns which are left. -/
theorem drained_spares {m : Mysql} {turns : ℕ} {w w' : World σ} {rSet : Option MysqlRes}
    (drained : (drainResults host (some m) turns).run w = .ok (rSet, w')) :
    SparesOthers link (some m) w.library w'.library := by
  induction turns generalizing w with
  | zero => simp [drainResults] at drained
  | succ turns ih =>
    have htaken := P.taken_spares m w
    have hnext := htaken.trans (P.next_spares m _)
    cases drainResults_outcome host drained with
    | last => exact htaken
    | stopped => exact hnext
    | advanced more status rest => exact hnext.trans (ih rest)

/-- The result loop, started on an idle link, makes it ready. -/
theorem drainResults_link {m : Mysql} {turns : ℕ} {l : Link} {w w' : World σ}
    {rSet : Option MysqlRes} (hl : link w.library m = some l) (hidle : l.Idle)
    (hlast : ErrorLast l.rest) (h : (drainResults host (some m) turns).run w = .ok (rSet, w')) :
    link w'.library m = some Link.ready := by
  induction turns generalizing w l with
  | zero => simp [drainResults] at h
  | succ turns ih =>
    have htaken := P.taken_link hl hidle
    have hmore := P.more_results _ m _ htaken
    cases hrest : l.rest with
    | nil =>
      have hready : l.taken = Link.ready := by
        simp [Link.taken, Link.ready, hrest, show l.inUse = none from hidle]
      rw [hready] at htaken hmore
      cases drainResults_outcome host h with
      | last => exact htaken
      | stopped more => simp [hmore, Link.ready] at more
      | advanced more => simp [hmore, Link.ready] at more
    | cons o os =>
      rw [hrest] at hlast
      have hat : l.taken = ⟨false, none, o :: os⟩ := by
        simp [Link.taken, hrest, show l.inUse = none from hidle]
      rw [hat] at htaken hmore
      obtain ⟨hstatus, hnext⟩ := P.next_advances _ m o os htaken
      cases drainResults_outcome host h with
      | last no_more => simp [hmore] at no_more
      | stopped more status =>
        have herror : o.isError = true := by
          by_contra hne
          exact status (hstatus.mpr (by simpa using hne))
        obtain rfl := hlast.head herror
        have hready : Link.start [o] = Link.ready := by
          cases o with
          | error number => rfl
          | done => cases herror
          | resultSet => cases herror
        rw [hready] at hnext
        exact hnext
      | advanced more status rest =>
        exact ih hnext (Link.start_inUse (o :: os)) hlast.tail rest

/-- The result set with which the result loop is left is the one of the last outcome before the end or
before an error. -/
theorem drainResults_last {m : Mysql} {turns : ℕ} {l : Link} {w w' : World σ}
    {rSet : Option MysqlRes} (hl : link w.library m = some l) (hidle : l.Idle)
    (hlast : ErrorLast l.rest) (h : (drainResults host (some m) turns).run w = .ok (rSet, w')) :
    rSet.isSome = l.endsWithRows := by
  induction turns generalizing w l with
  | zero => simp [drainResults] at h
  | succ turns ih =>
    have htaken := P.taken_link hl hidle
    have hmore := P.more_results _ m _ htaken
    have hanswer : (host.mysqlStoreResult (some m) w.library).1.isSome = l.untaken := by
      cases huntaken : l.untaken with
      | true => exact Option.isSome_iff_ne_none.mpr (P.store_some _ m l hl huntaken hidle).1
      | false => rw [(P.store_none _ m l hl huntaken).1, Option.isSome_none]
    cases hrest : l.rest with
    | nil =>
      have hends : l.endsWithRows = l.untaken := by simp [Link.endsWithRows, hrest]
      cases drainResults_outcome host h with
      | last => rw [hanswer, hends]
      | stopped more => simp [hmore, Link.taken, hrest] at more
      | advanced more => simp [hmore, Link.taken, hrest] at more
    | cons o os =>
      rw [hrest] at hlast
      have hat : l.taken = ⟨false, none, o :: os⟩ := by
        simp [Link.taken, hrest, show l.inUse = none from hidle]
      rw [hat] at htaken hmore
      obtain ⟨hstatus, hnext⟩ := P.next_advances _ m o os htaken
      cases drainResults_outcome host h with
      | last no_more => simp [hmore] at no_more
      | stopped more status =>
        have herror : o.isError = true := by
          by_contra hne
          exact status (hstatus.mpr (by simpa using hne))
        obtain rfl := hlast.head herror
        simp [hanswer, Link.endsWithRows, hrest, herror]
      | advanced more status rest =>
        have hfine : o.isError = false := hstatus.mp status
        rw [ih hnext (Link.start_inUse (o :: os)) hlast.tail rest,
          Link.endsWithRows_start hrest hfine]

/-- The result loop returns when it has more turns than there are outcomes to advance to. -/
theorem drainResults_returns {m : Mysql} {turns : ℕ} {l : Link} {w : World σ}
    (hl : link w.library m = some l) (hidle : l.Idle) (henough : l.rest.length < turns) :
    ∃ rSet w', (drainResults host (some m) turns).run w = .ok (rSet, w') := by
  induction turns generalizing w l with
  | zero => omega
  | succ turns ih =>
    have htaken := P.taken_link hl hidle
    rw [run_drainResults_succ]
    split
    · split
      · rename_i more status
        rw [P.more_results _ m _ htaken] at more
        cases hrest : l.rest with
        | nil => simp [Link.taken, hrest] at more
        | cons o os =>
          have hat : l.taken = ⟨false, none, o :: os⟩ := by
            simp [Link.taken, hrest, show l.inUse = none from hidle]
          rw [hat] at htaken
          obtain ⟨-, hnext⟩ := P.next_advances _ m o os htaken
          apply ih hnext (Link.start_inUse (o :: os))
          rw [hrest, List.length_cons] at henough
          exact Nat.lt_of_succ_lt_succ henough
      · exact ⟨_, _, rfl⟩
    · exact ⟨_, _, rfl⟩

/-- Started on a busy link whose result set was taken, the result loop ends at once. -/
theorem drainResults_busy {m : Mysql} {turns : ℕ} {l : Link} {w w' : World σ}
    {rSet : Option MysqlRes} (hl : link w.library m = some l) (hbusy : l.inUse ≠ none)
    (htaken : l.untaken = false) (h : (drainResults host (some m) turns).run w = .ok (rSet, w')) :
    rSet = none ∧ link w'.library m = some l := by
  cases turns with
  | zero => simp [drainResults] at h
  | succ turns =>
    obtain ⟨hnone, hstore⟩ := P.store_none _ m l hl htaken
    have hworld : link (w.taken host (some m)).library m = some l := by
      simpa [World.taken, hnone] using hstore
    obtain ⟨hstatus, hnext⟩ := P.next_busy _ m l hworld hbusy
    cases drainResults_outcome host h with
    | last => exact ⟨hnone, hworld⟩
    | stopped => exact ⟨hnone, hnext⟩
    | advanced more status => exact absurd status hstatus

end Protocol

/-- The link after a query with the given outcomes was sent on it. -/
def Link.afterQuery (l : Link) (os : List Outcome) : Link :=
  if l = Link.ready then Link.start os else l

/-- On a ready link a query starts with its first outcome. -/
@[simp] theorem Link.ready_afterQuery (os : List Outcome) : Link.ready.afterQuery os = start os :=
  if_pos rfl

/-- A query leaves an idle link idle, as it reads no result set. -/
theorem Link.Idle.afterQuery {l : Link} (h : l.Idle) (os : List Outcome) :
    (l.afterQuery os).Idle := by
  unfold Link.afterQuery
  split
  · exact Link.start_inUse os
  · exact h

/-- After a query the outcomes which are left still end with the error, if there is one. -/
theorem Link.errorLast_afterQuery {l : Link} (h : ErrorLast l.rest) (os : Outcomes) :
    ErrorLast (l.afterQuery os.list).rest := by
  obtain ⟨list, nonempty, error_last⟩ := os
  unfold Link.afterQuery
  split
  · cases list with
    | nil => simp [Link.start, Link.ready, ErrorLast]
    | cons o os => exact ErrorLast.tail error_last
  · exact h

section Queries

variable (P : Protocol host link outcomes) {i : Fin maxConnections} {m : Mysql} {q : WStr} {l : Link}
  {w w' : World σ}
include P

/-- Sending a query moves the link of the handle by the outcomes of that query. -/
theorem Protocol.sent_link (hm : w.handle i = some m) (hl : link w.library m = some l) :
    link (w.sent host i q).library m =
      some (l.afterQuery (outcomes w.library m (sentQuery q)).list) := by
  rw [World.sent_library, hm]
  by_cases hready : l = Link.ready
  · subst hready
    rw [P.query_sent _ m _ _ hl, Link.ready_afterQuery]
  · rw [P.query_refused _ m _ _ l hl hready, Link.afterQuery, if_neg hready]

/-- Sending a query spares the idle links of the other handles. -/
theorem Protocol.sent_spares (hm : w.handle i = some m) :
    SparesOthers link (some m) w.library (w.sent host i q).library := by
  rw [World.sent_library, hm]
  exact P.query_spares m _ _ _

omit P in
/-- `MySqlExecute` moves the library only by sending a query which fits. -/
theorem QueryOutcome.library {b : Bool} (h : QueryOutcome host i.val q w b w') :
    w'.library = if QueryFits q then (w.sent host i q).library else w.library := by
  cases h with
  | noConnection hp => exact absurd hp (val_ne_neg_one i)
  | tooBig _ big => rw [if_neg big]; rfl
  | pending j hp fits =>
    obtain rfl : i = j := Fin.ext (by omega)
    rw [if_pos fits]
    rfl
  | executed j hp fits =>
    obtain rfl : i = j := Fin.ext (by omega)
    rw [if_pos fits]

end Queries

end MqlMySql
