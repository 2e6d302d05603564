import MqlMySql.Properties.Batches
import MqlMySql.Spec.Standings

/-!
# What the queries on a connection get

Over a library which follows the protocol, every run of the DLL is a trail of the abstract model of its connections.
What the model says of the trails holds of the runs: a query with rows which `cMySqlExecute` runs makes the connection
unusable until it is disconnected, and after `cMySqlCursorOpen` on several statements the next query is lost, while its
caller learns what became of the earlier ones.
-/

namespace MqlMySql

open Library

variable {σ : Type} {host : Host σ} {link : σ → Mysql → Option Link}
  {outcomes : σ → Mysql → List UInt8 → Outcomes} {columnless : σ → Mysql → Prop} {turns : ℕ} {w w' : World σ}
  {i : Fin maxConnections} {m : Mysql}

/-- A query on the connection which is sent gets the answer. A query for a cursor is sent when a slot is free. -/
def Called.GetsOn (i : Fin maxConnections) (answer : Answered) : Called σ → Prop
  | ⟨_, .execute p q, b, w'⟩ => p = i.val → QueryFits q → answer = ⟨b, cGetMySqlErrorNumber p w'.dll⟩
  | ⟨w, .cursorOpen p q, r, w'⟩ => p = i.val → QueryFits q → getNewCursorId w.dll ≠ -1 →
    answer = ⟨decide (r ≠ -1), cGetMySqlErrorNumber p w'.dll⟩
  | _ => True

/-- A call which the abstract model refuses is refused. -/
theorem Conversing.refused {x : Called σ} (inv : Conversing link x.before) (onLive : OnLiveId x.before.dll x.label)
    (refuses : (callEvent outcomes x.before x.label x.reply x.after).Refuses i) : x.GetsOn i ⟨false, outOfSync⟩ := by
  obtain ⟨w, e, r, w'⟩ := x
  cases e with
  | execute p q =>
    rintro rfl fits
    obtain ⟨j, m, l, hj, hon, -⟩ := inv.links.onLink onLive
    obtain rfl := slot_of_val hj
    simp only [callEvent, hon.sends fits, Option.elim_some, Event.Refuses, forall_const] at refuses
    exact refuses.symm
  | cursorOpen p q =>
    rintro rfl fits free
    obtain ⟨j, m, l, hj, hon, -⟩ := inv.links.onLink onLive
    obtain rfl := slot_of_val hj
    simp only [callEvent, hon.sends fits, if_neg free, Option.elim_some, Event.Refuses, forall_const] at refuses
    exact refuses.symm
  | _ => trivial

/-- The scripted library refuses commands out of sync. -/
theorem scripted_reportsRefusals : ReportsRefusals scriptedHost Server.links where
  refused_errno s m q n l h hl := by simp [scriptedHost, Server.realQuery_of_link h, hl, outOfSync]
  busy_errno s m l h busy := by simp [scriptedHost, Server.nextResult_of_link h, busy, outOfSync]
  use_refused s m l h hu := by
    by_cases idle : l.inUse = none <;> simp [scriptedHost, Server.useResult_of_link h, hu, idle, outOfSync]
  store_refused s m l h hu := by
    by_cases idle : l.inUse = none <;> simp [scriptedHost, Server.storeResult_of_link h, hu, idle, outOfSync]
  used_errno s m l h hu := by
    simp only [scriptedHost, Option.elim, Server.useResult_of_link h, hu, if_true]
    exact Or.inl (Server.setLink_errnos ..)
  stored_errno s m l h hu _ := by
    simp only [scriptedHost, Option.elim, Server.storeResult_of_link h, hu, if_true]
    exact Or.inl (Server.setLink_errnos ..)
  free_errno s res m l h _ := rfl

section Conversations

variable (P : Protocol host link outcomes) (E : ReportsErrors host link outcomes columnless)
  (R : ReportsRefusals host link)
include P E R

omit P E R in
/-- Executing a query, seen from the standings alone. -/
theorem Standings.Step.executed_inv {S S' : Standings} {s : Standing} {os : Outcomes} {pending : Bool}
    {answer : Answered} (h : S.Step (.executed i os pending answer) S') (stands : S i = some s) :
    ∃ strict s', s.execute os pending strict = (answer, s') ∧ S' i = some s' := by
  cases h with
  | executed stands' runs =>
    rw [stands] at stands'
    cases stands'
    exact ⟨_, _, runs, Function.update_self ..⟩

omit P E R in
/-- Opening a cursor, seen from the standings alone. -/
theorem Standings.Step.opened_inv {S S' : Standings} {s : Standing} {os : Outcomes} {pending : Bool}
    {answer : Answered} (h : S.Step (.opened i os pending answer) S') (stands : S i = some s) :
    ∃ s', s.openCursor os pending = (answer, s') ∧ S' i = some s' := by
  cases h with
  | opened stands' runs =>
    rw [stands] at stands'
    cases stands'
    exact ⟨_, runs, Function.update_self ..⟩

/-- Executing a query which fits moves its connection. -/
theorem Conversing.executed {l : Link} {q : WStr} {b : Bool} (inv : Conversing link w) (hon : OnLink link w i m l)
    (fits : QueryFits q) (hcall : (call host turns (.execute i.val q)).run w = .ok (b, w'))
    (fresh : FreshLog w'.transfers) : Conversing link w' ∧ ∃ strict s', w'.standings link i = some s' ∧
      l.standing.execute (outcomes w.library m (sentQuery q)) (0 < w.dll.mySqlErrorNumber) strict =
        (⟨b, cGetMySqlErrorNumber i.val w'.dll⟩, s') := by
  have hlive : w.dll.liveConnection i.val ≠ none := by simp [hon.liveConnection]
  obtain ⟨hinv, hstep⟩ := inv.execute P E R hcall hlive fresh
  simp only [callEvent, hon.sends fits, Option.elim_some] at hstep
  obtain ⟨strict, s', hruns, hstands⟩ := hstep.executed_inv hon.standing
  exact ⟨hinv, strict, s', hstands, hruns⟩

/-- Opening a cursor for a query which is sent moves its connection. -/
theorem Conversing.opened {l : Link} {q : WStr} {r : ℤ} (inv : Conversing link w) (hon : OnLink link w i m l)
    (fits : QueryFits q) (free : getNewCursorId w.dll ≠ -1)
    (hcall : (call host turns (.cursorOpen i.val q)).run w = .ok (r, w')) (fresh : FreshLog w'.transfers) :
    Conversing link w' ∧ ∃ s', w'.standings link i = some s' ∧
      l.standing.openCursor (outcomes w.library m (sentQuery q)) (0 < w.dll.mySqlErrorNumber) =
        (⟨decide (r ≠ -1), cGetMySqlErrorNumber i.val w'.dll⟩, s') := by
  have hlive : w.dll.liveConnection i.val ≠ none := by simp [hon.liveConnection]
  obtain ⟨hinv, hstep⟩ := inv.cursorOpen P E R hcall hlive fresh
  simp only [callEvent, if_neg free, hon.sends fits, Option.elim_some] at hstep
  obtain ⟨s', hruns, hstands⟩ := hstep.opened_inv hon.standing
  exact ⟨hinv, s', hstands, hruns⟩

end Conversations

end MqlMySql
