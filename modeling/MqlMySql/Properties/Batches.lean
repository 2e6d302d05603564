import MqlMySql.Spec.Errnos
import MqlMySql.Spec.Quiet
import MqlMySql.Spec.Server

/-!
# Batches of statements without result sets

On a connection which is ready, `cMySqlExecute` runs a batch of statements without columns to its end: it
returns, advances over every outcome, and reports the error which ended the batch, if any. `MySqlExecute` tests
the DLL-wide number in between, which is only positive after a refused connection.
-/

namespace MqlMySql

open Library

variable {σ : Type} {host : Host σ} {link : σ → Mysql → Option Link}
  {outcomes : σ → Mysql → List UInt8 → Outcomes} {columnless : σ → Mysql → Prop} {turns : ℕ} {w w' : World σ}

/-- A batch of statements: every outcome is a success without columns, or an error with a number. -/
def StatementsOnly (os : Outcomes) : Prop :=
  ∀ o ∈ os.list, o = .done ∨ ∃ number, number ≠ 0 ∧ o = .error number

/-- The call executed a batch with the given outcomes on the connection `p` with the handle `m`, and reported
how it ended. -/
structure BatchExecuted (host : Host σ) (link : σ → Mysql → Option Link) (os : List Outcome) (p : ℤ)
    (m : Mysql) (w : World σ) (b : Bool) (w' : World σ) : Prop where
  /-- The connection advanced over all outcomes after the first. -/
  consumed : w'.calls.count (.nextResult (some m)) + 1 =
    w.calls.count (.nextResult (some m)) + os.length
  answer : b = true ↔ ∀ o ∈ os, o.isError = false
  number : ∀ e : ℕ, .error e ∈ os → cGetMySqlErrorNumber p w'.dll = e
  /-- The description is the message at the time when the error was the latest outcome. -/
  description : ∀ e : ℕ, .error e ∈ os → ∃ s, w'.library = host.mysqlFreeResult none s ∧
    host.mysqlErrno (some m) s = e ∧ cGetMySqlErrorDescription p w'.dll = host.mysqlError (some m) s
  ready : link w'.library m = some Link.ready

/-- An error is the last outcome. -/
theorem Outcomes.getLast_of_error (os : Outcomes) {o : Outcome} (ho : o ∈ os.list)
    (herror : o.isError = true) : os.list.getLast os.nonempty = o := by
  rw [← List.dropLast_append_getLast os.nonempty, List.mem_append, List.mem_singleton] at ho
  rcases ho with ho | ho
  · rw [os.error_last o ho] at herror
    cases herror
  · exact ho.symm

/-- The last outcome of a batch has a number exactly when the batch ended with an error. -/
theorem StatementsOnly.number_eq_zero_iff {os : Outcomes} (h : StatementsOnly os) :
    (os.list.getLast os.nonempty).number = 0 ↔ ∀ o ∈ os.list, o.isError = false := by
  constructor
  · intro hzero o ho
    by_contra herror
    rw [Bool.not_eq_false] at herror
    rw [os.getLast_of_error ho herror] at hzero
    rcases h o ho with rfl | ⟨number, hnumber, rfl⟩
    · cases herror
    · exact hnumber hzero
  · intro hall
    have hlast := List.getLast_mem os.nonempty
    rcases h _ hlast with hdone | ⟨number, -, herror⟩
    · rw [hdone]
      rfl
    · have hfalse := hall _ hlast
      rw [herror] at hfalse
      cases hfalse

/-- The number which the result loop ends with is that of the last outcome. -/
theorem Outcomes.last_number (os : Outcomes) :
    (Link.start os.list).rest.getLast?.elim (os.list.head os.nonempty).number Outcome.number =
      (os.list.getLast os.nonempty).number := by
  obtain ⟨list, nonempty, error_last⟩ := os
  cases list with
  | nil => exact absurd rfl nonempty
  | cons o rest =>
    cases rest with
    | nil => rfl
    | cons o' rest =>
      simp only [Link.start]
      rw [List.getLast?_eq_some_getLast (List.cons_ne_nil o' rest), List.getLast_cons (List.cons_ne_nil o' rest)]
      rfl

/-- One outcome is where the connection starts, the others are left. -/
theorem Outcomes.length_rest (os : Outcomes) : (Link.start os.list).rest.length + 1 = os.list.length := by
  obtain ⟨list, nonempty, error_last⟩ := os
  cases list with
  | nil => exact absurd rfl nonempty
  | cons o rest => rfl

section Batch

variable (P : Protocol host link outcomes) (E : ReportsErrors host link outcomes columnless)
  {i : Fin maxConnections} {m : Mysql} {q : WStr}
include P E

/-- The state in which the result loop starts after a batch was sent on a ready connection. -/
theorem batch_used (hm : w.handle i = some m) (ready : link w.library m = some Link.ready)
    (batch : StatementsOnly (outcomes w.library m (sentQuery q))) :
    (Link.start (outcomes w.library m (sentQuery q)).list).NoRows ∧
      link ((w.sent host i q).used host i).library m =
          some (Link.start (outcomes w.library m (sentQuery q)).list) ∧
        columnless ((w.sent host i q).used host i).library m ∧
          host.mysqlErrno (some m) ((w.sent host i q).used host i).library =
            ((outcomes w.library m (sentQuery q)).list.head (outcomes w.library m (sentQuery q)).nonempty).number := by
  have hcolumns : ∀ o ∈ (outcomes w.library m (sentQuery q)).list, o.hasRows = false := by
    intro o ho
    rcases batch o ho with rfl | ⟨number, -, rfl⟩ <;> rfl
  have hnoRows := Link.noRows_start hcolumns
  have hsent := P.sent_link (q := q) hm ready
  rw [Link.ready_afterQuery] at hsent
  have hlibrary : (w.sent host i q).library =
      (host.mysqlRealQuery (some m) (sentQuery q) (sentQuery q).length w.library).2 := by
    rw [World.sent_library, hm]
  have hused : ((w.sent host i q).used host i).library =
      (host.mysqlUseResult (some m) (w.sent host i q).library).2 := by simp [World.used, hm]
  have hbare : columnless (w.sent host i q).library m := by
    rw [hlibrary]
    exact E.query_columns _ m _ _ ready (hcolumns _ (List.head_mem _))
  obtain ⟨hnumber, hbare'⟩ := E.use_errno _ m _ hsent hnoRows.toBare hbare
  rw [hused]
  refine ⟨hnoRows, (P.use_none _ m _ hsent hnoRows.untaken).2, hbare', ?_⟩
  rw [hnumber, hlibrary, E.query_errno _ m _ _ ready]

/-- The result loop over a batch. -/
theorem batch_drained (hm : w.handle i = some m) (ready : link w.library m = some Link.ready)
    (batch : StatementsOnly (outcomes w.library m (sentQuery q))) {rSet : Option MysqlRes} {w₂ : World σ}
    (h : (drainResults host (some m) turns).run ((w.sent host i q).used host i) = .ok (rSet, w₂)) :
    rSet = none ∧ link w₂.library m = some Link.ready ∧
      host.mysqlErrno (some m) w₂.library = ((outcomes w.library m (sentQuery q)).list.getLast
        (outcomes w.library m (sentQuery q)).nonempty).number ∧
      w₂.calls.count (.nextResult (some m)) + 1 = w.calls.count (.nextResult (some m)) +
        (outcomes w.library m (sentQuery q)).list.length := by
  obtain ⟨hnoRows, hused, hbare, hnumber⟩ := batch_used P E hm ready batch
  have hlast : ErrorLast (Link.start (outcomes w.library m (sentQuery q)).list).rest := by
    rw [← Link.ready_afterQuery]
    exact Link.errorLast_afterQuery (by simp [Link.ready, ErrorLast]) _
  have hcount : ((w.sent host i q).used host i).calls.count (.nextResult (some m)) =
      w.calls.count (.nextResult (some m)) := by
    simp [World.used, World.sent]
  obtain ⟨hset, hend, hcalls⟩ := drainResults_noRows P E hused hnoRows hbare hlast h
  refine ⟨hset, P.drainResults_link hused hnoRows.idle hlast h, ?_, ?_⟩
  · rw [hend, hnumber, Outcomes.last_number]
  · rw [hcalls, hcount, Nat.add_assoc, Outcomes.length_rest]

/-- From every reachable state in which no connect has failed since the last successful one, a query whose
outcomes have no columns is executed to its end on every live connection which is ready: the call returns, and
did what `BatchExecuted` says. -/
theorem batch_executed {library : σ} {tr : List (Called σ)} (h : DllRun host turns library tr w)
    (settled : ConnectsSettled tr) {p : ℤ} (live : w.dll.liveConnection p = some i)
    (hm : w.handle i = some m) (ready : link w.library m = some Link.ready) (fits : QueryFits q)
    (batch : StatementsOnly (outcomes w.library m (sentQuery q))) {n : ℕ}
    (enough : (outcomes w.library m (sentQuery q)).list.length ≤ n) :
    ∃ b w', (cMySqlExecute host n p q).run w = .ok (b, w') ∧
      BatchExecuted host link (outcomes w.library m (sentQuery q)).list p m w b w' := by
  have quiet := number_quiet_of_settled h settled
  obtain ⟨rfl, hid⟩ := liveConnection_eq_some_iff.mp live
  obtain ⟨hnoRows, hused, -, -⟩ := batch_used P E hm ready batch
  have hturns : (Link.start (outcomes w.library m (sentQuery q)).list).rest.length < n := by
    have hlength := Outcomes.length_rest (outcomes w.library m (sentQuery q))
    omega
  obtain ⟨rSet, w₂, hdrain⟩ := P.drainResults_returns hused hnoRows.idle hturns
  obtain ⟨rfl, hready, herrno, hcount⟩ := batch_drained P E hm ready batch hdrain
  rw [← hm] at hdrain
  obtain ⟨b, w', hrun⟩ := cMySqlExecute_returns fits quiet hdrain
  refine ⟨b, w', hrun, ?_⟩
  have hout := cMySqlExecute_outcome host hrun
  have hlive := (liveConnection_of_registry (congrArg Registry.connections (hout.registry host)) i.val).trans live
  cases hout with
  | rejected query =>
    cases query with
    | noConnection hp => exact absurd hp (val_ne_neg_one i)
    | tooBig _ big => exact absurd fits big
    | pending _ _ _ positive => omega
  | @failed j hp _ _ rSet' w₂' drained positive =>
    obtain rfl : i = j := Fin.ext (by omega)
    obtain ⟨rfl, rfl⟩ : none = rSet' ∧ w₂ = w₂' := by simpa using hdrain.symm.trans drained
    rw [hm] at positive hlive ⊢
    have hlast : ∀ e : ℕ, .error e ∈ (outcomes w.library m (sentQuery q)).list →
        host.mysqlErrno (some m) w₂.library = e := by
      intro e he
      rw [herrno, Outcomes.getLast_of_error _ he rfl]
      rfl
    constructor
    · simpa using hcount
    · apply iff_of_false (by simp)
      rw [← batch.number_eq_zero_iff, ← herrno]
      omega
    · intro e he
      rw [cGetMySqlErrorNumber_of_live hlive]
      simp [hlast e he]
    · intro e he
      refine ⟨w₂.library, rfl, hlast e he, ?_⟩
      rw [cGetMySqlErrorDescription, hlive]
      simp [Dll.setConnectionError]
    · exact (P.free_null _ m).trans hready
  | @succeeded j hp _ _ rSet' w₂' drained zero =>
    obtain rfl : i = j := Fin.ext (by omega)
    obtain ⟨rfl, rfl⟩ : none = rSet' ∧ w₂ = w₂' := by simpa using hdrain.symm.trans drained
    rw [hm] at zero ⊢
    have hfine := batch.number_eq_zero_iff.mp (herrno.symm.trans zero)
    have hnone : ∀ e : ℕ, .error e ∉ (outcomes w.library m (sentQuery q)).list := by
      intro e he
      cases hfine _ he
    constructor
    · simpa using hcount
    · exact iff_of_true rfl hfine
    · intro e he
      exact absurd he (hnone e)
    · intro e he
      exact absurd he (hnone e)
    · exact (P.free_null _ m).trans hready

end Batch

/-- The number of the first outcome. -/
theorem Server.numberOf_cons (o : Outcome) (os : List Outcome) :
    Server.numberOf (o :: os) = o.number := by
  cases o <;> rfl

/-- The scripted library reports the latest outcome. -/
theorem scripted_reportsErrors :
    ReportsErrors scriptedHost Server.links (fun s _ _ => s.answer) fun _ _ => True where
  query_errno s m q n h := by
    simp only [scriptedHost, Option.elim, Server.realQuery_of_link h, if_true, Server.setLink_errnos]
    rw [← Server.numberOf_cons _ s.answer.list.tail, List.cons_head_tail]
  query_columns _ _ _ _ _ _ := trivial
  store_errno s m l h bare _ := by
    have hidle : l.inUse = none := bare.idle
    simp [scriptedHost, Server.storeResult_of_link h, bare.untaken, hidle]
  use_errno s m l h bare _ := by
    have hidle : l.inUse = none := bare.idle
    simp [scriptedHost, Server.useResult_of_link h, bare.untaken, hidle]
  next_errno s m o os h := by
    simp [scriptedHost, Server.nextResult_of_link h, Server.numberOf_cons]
  next_columns _ _ _ _ _ _ := trivial

/-- The batch is executed up to its error, which is reported. -/
theorem batch_executed_sample :
    ∃ (w w' : World Server) (b : Bool),
      (cMySqlExecute scriptedHost 3 0 [83]).run w = .ok (b, w') ∧
        BatchExecuted scriptedHost Server.links Outcomes.ofBatch.list 0 ⟨1⟩ w b w' := by
  have hcheck : passes (fun run => decide (ConnectsSettled run.1 ∧
        run.2.dll.liveConnection 0 = some firstConnection ∧
          run.2.handle firstConnection = some ⟨1⟩ ∧ run.2.library.links ⟨1⟩ = some Link.ready ∧
            run.2.library.answer = Outcomes.ofBatch))
      (replay (dllStep scriptedHost 8) [.connect .anonymous, .connect .sample]
        (attach (Server.fresh [.ofBatch]))) = true := by
    decide +kernel
  obtain ⟨tr, w, hrun, hcheck⟩ := Run.of_passes hcheck
  obtain ⟨hsettled, hlive, hhandle, hready, hanswer⟩ := of_decide_eq_true hcheck
  have hbatch : StatementsOnly w.library.answer := by
    rw [hanswer]
    intro o ho
    simp only [Outcomes.ofBatch, List.mem_cons, List.not_mem_nil, or_false] at ho
    rcases ho with rfl | rfl | rfl <;> simp
  obtain ⟨b, w', hcall, hdone⟩ := batch_executed scripted_protocol scripted_reportsErrors (q := [83])
    (n := 3) hrun hsettled hlive hhandle hready (by decide) hbatch (by rw [hanswer]; decide)
  rw [hanswer] at hdone
  exact ⟨w, w', b, hcall, hdone⟩

end MqlMySql
