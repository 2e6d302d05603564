import MqlMySql.Spec.LinkSteps
import MqlMySql.Spec.ResultOwners
import MqlMySql.Spec.Standing

/-!
# What a query gets

What libmysql documents about commands out of sync and about the error number of a result set which was taken, and with
it the answers of `cMySqlExecute` and `cMySqlCursorOpen`: the result loop ends with the number of the last outcome, or
at once on a connection which is busy. So a query gets what the abstract model says, wherever its connection stands.
-/

namespace MqlMySql

open Library

/-- A library refuses a command out of sync with `CR_COMMANDS_OUT_OF_SYNC`. Asking for a result set where none waits may
be refused in this way too, and taking one which waits is no error. -/
structure ReportsRefusals {σ : Type} (host : Host σ) (link : σ → Mysql → Option Link) : Prop where
  refused_errno : ∀ s m q n l, link s m = some l → l ≠ Link.ready →
    host.mysqlErrno (some m) (host.mysqlRealQuery (some m) q n s).2 = outOfSync
  busy_errno : ∀ s m l, link s m = some l → l.inUse ≠ none →
    host.mysqlErrno (some m) (host.mysqlNextResult (some m) s).2 = outOfSync
  use_refused : ∀ s m l, link s m = some l → l.untaken = false →
    host.mysqlErrno (some m) (host.mysqlUseResult (some m) s).2 = host.mysqlErrno (some m) s ∨
      host.mysqlErrno (some m) (host.mysqlUseResult (some m) s).2 = outOfSync
  store_refused : ∀ s m l, link s m = some l → l.untaken = false →
    host.mysqlErrno (some m) (host.mysqlStoreResult (some m) s).2 = host.mysqlErrno (some m) s ∨
      host.mysqlErrno (some m) (host.mysqlStoreResult (some m) s).2 = outOfSync
  used_errno : ∀ s m l, link s m = some l → l.untaken = true →
    host.mysqlErrno (some m) (host.mysqlUseResult (some m) s).2 = host.mysqlErrno (some m) s ∨
      host.mysqlErrno (some m) (host.mysqlUseResult (some m) s).2 = 0
  stored_errno : ∀ s m l, link s m = some l → l.untaken = true → l.inUse = none →
    host.mysqlErrno (some m) (host.mysqlStoreResult (some m) s).2 = host.mysqlErrno (some m) s ∨
      host.mysqlErrno (some m) (host.mysqlStoreResult (some m) s).2 = 0
  free_errno : ∀ s res m l, link s m = some l → l.inUse ≠ some res →
    host.mysqlErrno (some m) (host.mysqlFreeResult (some res) s) = host.mysqlErrno (some m) s

variable {σ : Type} {host : Host σ} {link : σ → Mysql → Option Link}
  {outcomes : σ → Mysql → List UInt8 → Outcomes} {columnless : σ → Mysql → Prop} {turns : ℕ} {w w' : World σ}

/-- No result set waits while one is in use, and only the last outcome may be an error. -/
structure Link.Proper (l : Link) : Prop where
  taken : l.inUse ≠ none → l.untaken = false
  last : ErrorLast l.rest

/-- Where the connection of a link stands. -/
def Link.standing (l : Link) : Standing := if l.inUse = none then .idle l.untaken l.rest else .busy l.rest

section Links

variable {l : Link}

/-- A ready link is proper. -/
theorem Link.Proper.ready : Link.ready.Proper where
  taken hin := absurd rfl hin
  last := by simp [Link.ready, ErrorLast]

/-- A link which starts with outcomes ending in the error is proper. -/
theorem Link.Proper.start {os : List Outcome} (h : ErrorLast os) : (Link.start os).Proper where
  taken hin := absurd (Link.start_inUse os) hin
  last := by
    cases os with
    | nil => exact Link.Proper.ready.last
    | cons o os => exact h.tail

/-- A link which starts with outcomes stands as the abstract connection does. -/
theorem Link.standing_start (os : List Outcome) : (Link.start os).standing = Standing.start os := by
  cases os <;> rfl

/-- On an idle link, what counts is whether a result set waits and which outcomes are left. -/
theorem Link.standing_of_idle (h : l.Idle) : l.standing = .idle l.untaken l.rest := if_pos h

/-- On a busy link, what counts is which outcomes are left. -/
theorem Link.standing_of_busy (h : l.inUse ≠ none) : l.standing = .busy l.rest := if_neg h

/-- Only the ready link stands as ready. -/
theorem Link.standing_eq_ready {l : Link} : l.standing = Standing.ready ↔ l = Link.ready := by
  obtain ⟨untaken, inUse, rest⟩ := l
  cases inUse <;> simp [Link.standing, Standing.ready, Link.ready]

end Links

/-- What the number of a connection says of the latest query, and of the result set which it may have. -/
inductive Reported (columnless : Prop) (l : Link) (number : ℕ) : Prop
  | refused (sync : number = outOfSync)
  | rows (waits : l.untaken = true) (fine : number = 0)
  | bare (bare : l.Bare) (bare' : columnless)

/-- An outcome at which a connection stands is reported by its number. -/
theorem Reported.start {columnless : Prop} {o : Outcome} {os : List Outcome}
    (columns : o.hasRows = false → columnless) : Reported columnless (Link.start (o :: os)) o.number := by
  cases hrows : o.hasRows with
  | true => exact .rows hrows (Outcome.number_of_rows hrows)
  | false => exact .bare ⟨hrows, Link.start_inUse _⟩ (columns hrows)

section Draining

variable (P : Protocol host link outcomes) (E : ReportsErrors host link outcomes columnless)
  (R : ReportsRefusals host link) {m : Mysql} {l : Link} {rSet : Option MysqlRes}
include P E R

omit P in
/-- Where no result set waits, asking for one to store leaves the number alone. -/
theorem Reported.stored_nothing {s : σ} (reported : Reported (columnless s m) l (host.mysqlErrno (some m) s))
    (hl : link s m = some l) (hwaits : l.untaken = false) :
    host.mysqlErrno (some m) (host.mysqlStoreResult (some m) s).2 = host.mysqlErrno (some m) s := by
  cases reported with
  | refused sync =>
    rcases R.store_refused s m l hl hwaits with hkept | hsync
    · exact hkept
    · rw [hsync, sync]
  | rows waits =>
    rw [hwaits] at waits
    cases waits
  | bare bare columns => exact E.store_errno s m l hl bare columns

omit P in
/-- So does asking for one to use row by row. -/
theorem Reported.used_nothing {s : σ} (reported : Reported (columnless s m) l (host.mysqlErrno (some m) s))
    (hl : link s m = some l) (hwaits : l.untaken = false) :
    host.mysqlErrno (some m) (host.mysqlUseResult (some m) s).2 = host.mysqlErrno (some m) s ∧
      Reported (columnless (host.mysqlUseResult (some m) s).2 m) l
        (host.mysqlErrno (some m) (host.mysqlUseResult (some m) s).2) := by
  cases reported with
  | refused sync =>
    have hsync : host.mysqlErrno (some m) (host.mysqlUseResult (some m) s).2 = outOfSync := by
      rcases R.use_refused s m l hl hwaits with hkept | hsync
      · rw [hkept, sync]
      · exact hsync
    exact ⟨hsync.trans sync.symm, .refused hsync⟩
  | rows waits =>
    rw [hwaits] at waits
    cases waits
  | bare bare columns =>
    obtain ⟨hkept, hcolumns⟩ := E.use_errno s m l hl bare columns
    exact ⟨hkept, .bare bare hcolumns⟩

/-- Storing the result set of an idle connection leaves the number alone. -/
theorem taken_errno (hl : link w.library m = some l) (idle : l.Idle)
    (reported : Reported (columnless w.library m) l (host.mysqlErrno (some m) w.library))
    (fine : l.untaken = true → host.mysqlErrno (some m) w.library = 0) :
    host.mysqlErrno (some m) (w.taken host (some m)).library = host.mysqlErrno (some m) w.library := by
  cases hwaits : l.untaken with
  | true =>
    obtain ⟨hsome, hlink⟩ := P.store_some _ m l hl hwaits idle
    obtain ⟨res, hres⟩ := Option.ne_none_iff_exists'.mp hsome
    have hfreed := R.free_errno _ res m _ hlink (by simp [Link.taken, show l.inUse = none from idle])
    have hstored : host.mysqlErrno (some m) (host.mysqlStoreResult (some m) w.library).2 =
        host.mysqlErrno (some m) w.library := by
      rcases R.stored_errno _ m l hl hwaits idle with hkept | hreset
      · exact hkept
      · rw [hreset, fine hwaits]
    simp [World.taken, hres, hfreed, hstored]
  | false =>
    obtain ⟨hnone, -⟩ := P.store_none _ m l hl hwaits
    simp [World.taken, hnone, reported.stored_nothing E R hl hwaits]

/-- The result loop on an idle connection ends with the number of the last outcome. -/
theorem drainResults_errno (hl : link w.library m = some l) (idle : l.Idle)
    (reported : Reported (columnless w.library m) l (host.mysqlErrno (some m) w.library))
    (fine : l.untaken = true → host.mysqlErrno (some m) w.library = 0) (hlast : ErrorLast l.rest)
    (h : (drainResults host (some m) turns).run w = .ok (rSet, w')) :
    host.mysqlErrno (some m) w'.library =
      l.rest.getLast?.elim (host.mysqlErrno (some m) w.library) Outcome.number := by
  induction turns generalizing w l with
  | zero => simp [drainResults] at h
  | succ turns ih =>
    have htaken := P.taken_link hl idle
    have hnumber := taken_errno P E R hl idle reported fine
    have hmore := P.more_results _ m _ htaken
    cases hrest : l.rest with
    | nil =>
      cases drainResults_outcome host h with
      | last => simpa using hnumber
      | stopped more => simp [hmore, Link.taken, hrest] at more
      | advanced more => simp [hmore, Link.taken, hrest] at more
    | cons o os =>
      rw [hrest] at hlast
      have hat : l.taken = ⟨false, none, o :: os⟩ := by
        simp [Link.taken, hrest, show l.inUse = none from idle]
      rw [hat] at htaken hmore
      obtain ⟨hstatus, hnext⟩ := P.next_advances _ m o os htaken
      have hreached := E.next_errno _ m o os htaken
      cases drainResults_outcome host h with
      | last no_more => simp [hmore] at no_more
      | stopped more status =>
        have herror : o.isError = true := by
          by_contra hne
          exact status (hstatus.mpr (by simpa using hne))
        obtain rfl := hlast.head herror
        simpa using hreached
      | advanced more status rest =>
        have hreported : Reported _ (Link.start (o :: os)) _ := Reported.start (E.next_columns _ m o os htaken)
        rw [← hreached] at hreported
        have hfine : (Link.start (o :: os)).untaken = true → _ := fun hrows =>
          hreached.trans (Outcome.number_of_rows hrows)
        rw [ih hnext (Link.start_inUse (o :: os)) hreported hfine hlast.tail rest, List.getLast?_cons]
        simp only [Link.start, World.performed_library, World.inspected_library, hreached]
        cases os.getLast? <;> rfl

omit E in
/-- The result loop on a busy connection ends at once, with nothing transferred. Whether the library refuses to store
in it is left open. -/
theorem drainResults_refused (hl : link w.library m = some l) (busy : l.inUse ≠ none) (htaken : l.untaken = false)
    (h : (drainResults host (some m) turns).run w = .ok (rSet, w')) :
    rSet = none ∧ link w'.library m = some l ∧ w'.transfers = w.transfers ∧
      ∃ strict : Bool, host.mysqlErrno (some m) w'.library =
        if strict ∨ l.rest ≠ [] then outOfSync else host.mysqlErrno (some m) w.library := by
  obtain ⟨hset, hlink⟩ := P.drainResults_busy hl busy htaken h
  refine ⟨hset, hlink, ?_⟩
  cases turns with
  | zero => simp [drainResults] at h
  | succ turns =>
    obtain ⟨hnone, hstore⟩ := P.store_none _ m l hl htaken
    have hat : link (w.taken host (some m)).library m = some l := by simpa [World.taken, hnone] using hstore
    have htransfers : (w.taken host (some m)).transfers = w.transfers := by
      rw [World.taken_transfers, hnone, passed, List.nil_append]
    have hlibrary : (w.taken host (some m)).library = (host.mysqlStoreResult (some m) w.library).2 := by
      simp [World.taken, hnone]
    have hmore := P.more_results _ m _ hat
    cases drainResults_outcome host h with
    | last no_more =>
      have hrest : l.rest = [] := by simpa [hmore] using no_more
      refine ⟨by simp [htransfers], ?_⟩
      rcases R.store_refused _ m l hl htaken with hkept | hsync
      · exact ⟨false, by simp [hrest, hlibrary, hkept]⟩
      · exact ⟨true, by simp [hlibrary, hsync]⟩
    | stopped more =>
      have hrest : l.rest ≠ [] := by simpa [hmore] using more
      exact ⟨by simp [htransfers], true, by simp [R.busy_errno _ m l hat busy]⟩
    | advanced more status => exact absurd status (P.next_busy _ m l hat busy).1

end Draining

section Queries

variable (P : Protocol host link outcomes) (E : ReportsErrors host link outcomes columnless)
  (R : ReportsRefusals host link) {i : Fin maxConnections} {m : Mysql} {l : Link} {q : WStr}
include P E R

/-- Sending a query moves a connection as the abstract model says, with the number of its handle. -/
theorem sent_standing (hm : w.handle i = some m) (hl : link w.library m = some l) (proper : l.Proper) :
    ∃ l', link (w.sent host i q).library m = some l' ∧ l'.Proper ∧ l'.inUse = l.inUse ∧
      Reported (columnless (w.sent host i q).library m) l'
        (host.mysqlErrno (some m) (w.sent host i q).library) ∧
      (l'.standing, w.sentErrno host i q) = l.standing.asked (outcomes w.library m (sentQuery q)) := by
  have hsent := P.sent_link (q := q) hm hl
  have hlibrary : (w.sent host i q).library =
      (host.mysqlRealQuery (some m) (sentQuery q) (sentQuery q).length w.library).2 := by
    rw [World.sent_library, hm]
  have herrno : w.sentErrno host i q = host.mysqlErrno (some m) (w.sent host i q).library := by
    rw [World.sentErrno, hm]
  refine ⟨_, hsent, ?_⟩
  rw [herrno, hlibrary]
  by_cases hready : l = Link.ready
  · subst hready
    obtain ⟨o, os, hlist⟩ := List.exists_cons_of_ne_nil (outcomes w.library m (sentQuery q)).nonempty
    have hnumber := E.query_errno _ _ (sentQuery q) (sentQuery q).length hl
    have hcolumns := E.query_columns _ _ (sentQuery q) (sentQuery q).length hl
    simp only [hlist, List.head_cons] at hnumber hcolumns
    rw [Link.ready_afterQuery, hnumber]
    refine ⟨?_, ?_, ?_, ?_⟩
    · exact Link.Proper.start (outcomes w.library m (sentQuery q)).error_last
    · rw [Link.start_inUse]
      rfl
    · rw [hlist]
      exact Reported.start hcolumns
    · have hasked : Standing.ready.asked (outcomes w.library m (sentQuery q)) = _ := Standing.asked_ready
      simp only [hlist, List.head_cons] at hasked
      rw [hlist, Link.standing_start]
      exact hasked.symm
  · have hsync := R.refused_errno _ _ (sentQuery q) (sentQuery q).length _ hl hready
    rw [Link.afterQuery, if_neg hready, hsync, Standing.asked_of_ne (mt Link.standing_eq_ready.mp hready)]
    exact ⟨proper, rfl, .refused rfl, rfl⟩

/-- The rest of executing an accepted query moves the connection as the abstract model says, and a result set which is
in use then was in use before, or is the only one which changed hands. -/
theorem drained_standing {rSet : Option MysqlRes} {w₂ : World σ} (hm : w.handle i = some m)
    (hl : link w.library m = some l) (proper : l.Proper)
    (reported : Reported (columnless w.library m) l (host.mysqlErrno (some m) w.library))
    (drained : (drainResults host (some m) turns).run (w.used host i) = .ok (rSet, w₂)) :
    ∃ l', link (host.mysqlFreeResult rSet w₂.library) m = some l' ∧ l'.Proper ∧
      (∃ strict : Bool, (host.mysqlErrno (some m) w₂.library, l'.standing) =
        l.standing.drained strict (host.mysqlErrno (some m) w.library)) ∧
      ∀ res, l'.inUse = some res → l.inUse = some res ∨
        (rSet.map Transfer.released).toList ++ w₂.transfers = .obtained res :: w.transfers := by
  have hused : (w.used host i).library = (host.mysqlUseResult (some m) w.library).2 := by
    rw [World.used, World.performed_library, hm]
  have hunused (hwaits : l.untaken = false) : link (w.used host i).library m = some l ∧
      host.mysqlErrno (some m) (w.used host i).library = host.mysqlErrno (some m) w.library ∧
        Reported (columnless (w.used host i).library m) l (host.mysqlErrno (some m) (w.used host i).library) := by
    rw [hused]
    exact ⟨(P.use_none _ m l hl hwaits).2, reported.used_nothing E R hl hwaits⟩
  by_cases idle : l.inUse = none
  · cases hwaits : l.untaken with
    | false =>
      obtain ⟨hlink, hnumber, hreported⟩ := hunused hwaits
      have hready := P.drainResults_link hlink idle proper.last drained
      have herrno := drainResults_errno P E R hlink idle hreported (by simp [hwaits]) proper.last drained
      refine ⟨Link.ready, P.free_spares rSet w₂.library m _ (by simp) hready rfl, ?_, ⟨false, ?_⟩, ?_⟩
      · exact Link.Proper.ready
      · rw [herrno, hnumber, Link.standing_of_idle idle, hwaits]
        rfl
      · rintro res ⟨⟩
    | true =>
      obtain ⟨res, hanswer, hlink⟩ := P.use_some _ m l hl hwaits
      rw [← hused] at hlink
      obtain ⟨rfl, hlink', htransfers, strict, herrno⟩ := drainResults_refused P R hlink (by simp) rfl drained
      refine ⟨_, (P.free_null _ m).trans hlink', ⟨fun _ => rfl, proper.last⟩, ?_, ?_⟩
      · rw [hused] at herrno
        -- the number is that of the query, or none any more
        have hfine : host.mysqlErrno (some m) (host.mysqlUseResult (some m) w.library).2 = 0 ∨
            host.mysqlErrno (some m) (host.mysqlUseResult (some m) w.library).2 = outOfSync := by
          rcases R.used_errno _ m l hl hwaits with hkept | hreset
          · rw [hkept]
            cases reported with
            | refused sync => exact Or.inr sync
            | rows _ fine => exact Or.inl fine
            | bare bare => simp [bare.untaken] at hwaits
          · exact Or.inl hreset
        rw [herrno, Link.standing_of_idle idle, hwaits]
        rcases hfine with hfine | hfine
        · exact ⟨strict, by simp [Link.standing, Standing.drained, Link.taken, hfine]⟩
        · exact ⟨true, by simp [Link.standing, Standing.drained, Link.taken, hfine]⟩
      · rintro res' ⟨⟩
        refine Or.inr ?_
        rw [htransfers, World.used, World.performed_transfers, hm, hanswer]
        rfl
  · have hwaits := proper.taken idle
    obtain ⟨hlink, hnumber, -⟩ := hunused hwaits
    obtain ⟨rfl, hlink', -, strict, herrno⟩ := drainResults_refused P R hlink idle hwaits drained
    refine ⟨l, (P.free_null _ m).trans hlink', proper, ⟨strict, ?_⟩, fun res hres => Or.inl hres⟩
    rw [herrno, hnumber, Link.standing_of_busy idle]
    rfl

/-- What `cMySqlExecute` answers for a query which fits, and where it leaves the connection. -/
theorem ExecuteOutcome.standing {b : Bool} (h : ExecuteOutcome host turns i.val q w b w') (fits : QueryFits q)
    (hm : w.handle i = some m) (hl : link w.library m = some l) (proper : l.Proper) :
    ∃ l', link w'.library m = some l' ∧ l'.Proper ∧
      (∃ strict : Bool, (⟨b, (w'.dll.connections i).mySqlErrorNumber⟩, l'.standing) =
        l.standing.execute (outcomes w.library m (sentQuery q)) (0 < w.dll.mySqlErrorNumber) strict) ∧
      ∀ res, l'.inUse = some res → l.inUse = some res ∨ w'.transfers = .obtained res :: w.transfers := by
  obtain ⟨l₁, hl₁, hproper, hin, hreported, hasked⟩ := sent_standing P E R (q := q) hm hl proper
  have hhandle : (w.sent host i q).handle i = some m := by rw [World.sent_handle, hm]
  have hnumber : host.mysqlErrno (some m) (w.sent host i q).library = w.sentErrno host i q := by
    rw [World.sentErrno, hm]
  cases h with
  | rejected query =>
    cases query with
    | noConnection hp => exact absurd hp (val_ne_neg_one i)
    | tooBig _ big => exact absurd fits big
    | pending j hp _ positive =>
      obtain rfl : i = j := Fin.ext (by omega)
      refine ⟨l₁, by simpa using hl₁, hproper, ⟨false, ?_⟩, fun res hres => Or.inl (hin ▸ hres)⟩
      simp [Standing.execute, ← hasked, positive, World.sent_number]
  | @failed j hp _ quiet rSet w₂ drained positive =>
    obtain rfl : i = j := Fin.ext (by omega)
    rw [hm] at drained positive ⊢
    obtain ⟨l', hl', hproper', ⟨strict, hrun⟩, hlost⟩ := drained_standing P E R hhandle hl₁ hproper hreported drained
    refine ⟨l', by simpa using hl', hproper', ⟨strict, ?_⟩, fun res hres => ?_⟩
    · have hpositive := Nat.pos_iff_ne_zero.mp positive
      rw [Standing.execute, ← hasked, ← hnumber, ← hrun]
      simp [not_lt.mpr quiet, hpositive]
    · rcases hlost res hres with hkept | hmade
      · exact Or.inl (hin ▸ hkept)
      · exact Or.inr (by simpa using hmade)
  | @succeeded j hp _ quiet rSet w₂ drained zero =>
    obtain rfl : i = j := Fin.ext (by omega)
    rw [hm] at drained zero ⊢
    obtain ⟨l', hl', hproper', ⟨strict, hrun⟩, hlost⟩ := drained_standing P E R hhandle hl₁ hproper hreported drained
    refine ⟨l', by simpa using hl', hproper', ⟨strict, ?_⟩, fun res hres => ?_⟩
    · have hdll := drainResults_dll host drained
      rw [Standing.execute, ← hasked, ← hnumber, ← hrun]
      simp [not_lt.mpr quiet, zero, hdll, World.sent_number, hnumber]
    · rcases hlost res hres with hkept | hmade
      · exact Or.inl (hin ▸ hkept)
      · exact Or.inr (by simpa using hmade)

/-- What `cMySqlCursorOpen` answers for a query which fits when a slot is free, and where it leaves the connection. -/
theorem OpenOutcome.standing {r : ℤ} (h : OpenOutcome host i.val q w r w') (fits : QueryFits q)
    (free : getNewCursorId w.dll ≠ -1) (hm : w.handle i = some m) (hl : link w.library m = some l) (proper : l.Proper) :
    ∃ l', link w'.library m = some l' ∧ l'.Proper ∧ l'.inUse = l.inUse ∧
      (⟨decide (r ≠ -1), (w'.dll.connections i).mySqlErrorNumber⟩, l'.standing) =
        l.standing.openCursor (outcomes w.library m (sentQuery q)) (0 < w.dll.mySqlErrorNumber) := by
  obtain ⟨l₁, hl₁, hproper, hin, hreported, hasked⟩ := sent_standing P E R (q := q) hm hl proper
  have hnumber : host.mysqlErrno (some m) (w.sent host i q).library = w.sentErrno host i q := by
    rw [World.sentErrno, hm]
  rcases h.result with ⟨hfull, -⟩ | ⟨k, rs, w₂, -, store, result⟩
  · exact absurd hfull free
  have hreply := result.reply
  have hslot := result.number
  rw [hm] at hreply hslot
  rw [result.library]
  -- without a record set, the number of the handle decides
  have hnone (hrs : rs = none) (herrno : host.mysqlErrno (some m) w₂.library = w.sentErrno host i q) :
      (⟨decide (r ≠ -1), (w'.dll.connections i).mySqlErrorNumber⟩ : Answered) =
        ⟨w.sentErrno host i q = 0, w.sentErrno host i q⟩ := by
    rw [hslot, if_pos hrs, herrno]
    simp only [Answered.mk.injEq, and_true, decide_eq_decide, ne_eq, hreply, herrno]
    simp [hrs]
  rw [Standing.openCursor, ← hasked]
  cases store with
  | rejected query =>
    rw [query.library, if_pos fits, World.opening_sent_library] at hnone ⊢
    have positive : 0 < w.dll.mySqlErrorNumber := by
      cases query with
      | noConnection hp => exact absurd hp (val_ne_neg_one i)
      | tooBig _ big => exact absurd fits big
      | pending _ _ _ positive => simpa [World.opening] using positive
    refine ⟨l₁, hl₁, hproper, hin, ?_⟩
    rw [hnone rfl hnumber]
    simp [positive]
  | stored _ quiet =>
    have hquiet : ¬ 0 < w.dll.mySqlErrorNumber := not_lt.mpr quiet
    simp only [World.onDll_library, World.performed_library, World.opening_sent_library, hm] at hnone hreply hslot ⊢
    cases hwaits : l₁.untaken with
    | false =>
      obtain ⟨hanswer, hlink⟩ := P.store_none _ m l₁ hl₁ hwaits
      have hstored : l₁.standing.stored = none := by
        by_cases idle : l₁.inUse = none
        · rw [Link.standing_of_idle idle, hwaits]
          rfl
        · rw [Link.standing_of_busy idle]
          rfl
      refine ⟨l₁, hlink, hproper, hin, ?_⟩
      rw [hnone hanswer ((hreported.stored_nothing E R hl₁ hwaits).trans hnumber)]
      simp [hquiet, hstored]
    | true =>
      have idle : l₁.inUse = none := by
        by_contra busy
        have huntaken := hproper.taken busy
        rw [hwaits] at huntaken
        cases huntaken
      obtain ⟨hanswer, hlink⟩ := P.store_some _ m l₁ hl₁ hwaits idle
      have hstored : l₁.standing.stored = some l₁.taken.standing := by
        rw [Link.standing_of_idle idle, hwaits, Link.standing_of_idle (l := l₁.taken) idle]
        rfl
      refine ⟨l₁.taken, hlink, ⟨fun _ => rfl, hproper.last⟩, hin, ?_⟩
      have hr : r ≠ -1 := fun h => hanswer (hreply.mp h).1
      have hwritten : (((w.opening i.val k).sent host i q).dll.connections i).mySqlErrorNumber =
          w.sentErrno host i q := by
        rw [World.sent_number, World.sentErrno, World.opening_sent_library, World.opening_handle, World.sentErrno]
      rw [hslot, if_neg hanswer]
      simp [hquiet, hstored, hr, hwritten]

end Queries

end MqlMySql
