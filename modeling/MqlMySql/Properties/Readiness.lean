import MqlMySql.Spec.LinkSteps
import MqlMySql.Spec.Server

/-!
# Ready for the next command

After every call, each live connection should stand at the end of its last query with nothing left to
take. `cMySqlExecute` asks for the first result row by row and then loses it, `cMySqlCursorOpen` looks at
the first outcome only, and both leave everything untaken when the DLL-wide error number is positive.
`KeepsReady` says which queries leave the connection ready in spite of that.
-/

namespace MqlMySql

open Library

/-- The first outcome carries rows. -/
def Outcomes.rowsFirst (os : Outcomes) : Bool := os.list.head?.elim false Outcome.hasRows

/-- A connection at the first outcome is ready when there is no other and it has no rows. -/
theorem Outcomes.start_eq_ready_iff (os : Outcomes) :
    Link.start os.list = Link.ready ↔ os.list.length = 1 ∧ os.rowsFirst = false := by
  obtain ⟨list, nonempty, error_last⟩ := os
  cases list with
  | nil => exact absurd rfl nonempty
  | cons o os => simp [Link.start, Link.ready, Outcomes.rowsFirst, and_comm]

/-- Once the first result was taken, only further outcomes are in the way. -/
theorem Outcomes.start_taken_eq_ready_iff (os : Outcomes) :
    (Link.start os.list).taken = Link.ready ↔ os.list.length = 1 := by
  obtain ⟨list, nonempty, error_last⟩ := os
  cases list with
  | nil => exact absurd rfl nonempty
  | cons o os => simp [Link.start, Link.taken, Link.ready]

theorem Outcomes.start_untaken (os : Outcomes) : (Link.start os.list).untaken = os.rowsFirst := by
  obtain ⟨list, nonempty, error_last⟩ := os
  cases list with
  | nil => exact absurd rfl nonempty
  | cons o os => rfl

variable {σ : Type} {host : Host σ} {link : σ → Mysql → Option Link}
  {outcomes : σ → Mysql → List UInt8 → Outcomes}

/-- Every live connection is ready. -/
def AllReady (link : σ → Mysql → Option Link) (w : World σ) : Prop :=
  ∀ i h, w.registry.connections i = some h →
    ∃ m, h = some m ∧ link w.library m = some Link.ready

theorem LinksHold.allReady {w : World σ} (h : LinksHold link (· = Link.ready) w) :
    AllReady link w := by
  intro i g hi
  obtain ⟨m, l, hm, hl, rfl⟩ := h.linked i g hi
  exact ⟨m, hm, hl⟩

/-- When a query on a ready connection leaves it ready, in terms of the outcomes of the query. -/
def KeepsReady (outcomes : σ → Mysql → List UInt8 → Outcomes) (w : World σ) : Exported → Prop
  | .execute p q => ∀ (i : Fin maxConnections) m, p = i.val → w.handle i = some m → QueryFits q →
      (outcomes w.library m (sentQuery q)).rowsFirst = false ∧
        (0 < w.dll.mySqlErrorNumber → (outcomes w.library m (sentQuery q)).list.length = 1)
  | .cursorOpen p q => ∀ (i : Fin maxConnections) m, p = i.val → w.handle i = some m →
      getNewCursorId w.dll ≠ -1 → QueryFits q →
        (outcomes w.library m (sentQuery q)).list.length = 1 ∧
          (0 < w.dll.mySqlErrorNumber → (outcomes w.library m (sentQuery q)).rowsFirst = false)
  | _ => True

section Queries

variable (P : Protocol host link outcomes) {i : Fin maxConnections} {m : Mysql} {q : WStr}
  {w w' : World σ}
include P

/-- Executing a query leaves its ready connection ready exactly if it meets the condition. -/
theorem execute_ready_iff {turns : ℕ} {b : Bool} (h : ExecuteOutcome host turns i.val q w b w')
    (hon : OnLink link w i m Link.ready) :
    ∃ l', link w'.library m = some l' ∧
      (l' = Link.ready ↔ KeepsReady outcomes w (.execute i.val q)) := by
  obtain ⟨-, l', hl', heffect⟩ := h.links P hon.handle hon.linked rfl (by simp [Link.ready, ErrorLast])
  rw [Link.ready_afterQuery] at heffect
  refine ⟨l', hl', ?_⟩
  rw [KeepsReady, forall_handle_iff hon.handle]
  by_cases fits : QueryFits q
  · by_cases positive : 0 < w.dll.mySqlErrorNumber
    · rw [heffect.pending fits positive, Outcomes.start_eq_ready_iff, and_comm]
      simp [fits, positive]
    · have quiet := not_lt.mp positive
      cases hrows : (outcomes w.library m (sentQuery q)).rowsFirst with
      | false =>
        rw [heffect.drained fits quiet (by rw [Outcomes.start_untaken, hrows])]
        simp [positive]
      | true =>
        have hbusy := heffect.busy fits quiet (by rw [Outcomes.start_untaken, hrows])
        apply iff_of_false
        · rintro rfl
          exact hbusy rfl
        · simp [fits]
  · rw [heffect.unsent fits]
    exact iff_of_true rfl fun h => absurd h fits

/-- Opening a cursor on a ready connection leaves it ready exactly if it meets the condition. -/
theorem cursorOpen_ready_iff {r : ℤ} (h : OpenOutcome host i.val q w r w')
    (hon : OnLink link w i m Link.ready) :
    ∃ l', link w'.library m = some l' ∧
      (l' = Link.ready ↔ KeepsReady outcomes w (.cursorOpen i.val q)) := by
  obtain ⟨-, hl'⟩ := h.links P hon.handle hon.linked rfl
  refine ⟨_, hl', ?_⟩
  rw [KeepsReady, forall_handle_iff hon.handle, Link.ready_afterQuery]
  by_cases hsent : getNewCursorId w.dll ≠ -1 ∧ QueryFits q
  · rw [if_pos hsent]
    by_cases positive : 0 < w.dll.mySqlErrorNumber
    · rw [if_pos positive, Outcomes.start_eq_ready_iff]
      simp [hsent, positive]
    · rw [if_neg positive, Outcomes.start_taken_eq_ready_iff]
      simp [hsent, positive]
  · rw [if_neg hsent]
    exact iff_of_true rfl fun hslot fits => absurd ⟨hslot, fits⟩ hsent

end Queries

section Runs

variable (P : Protocol host link outcomes) {turns : ℕ}
include P

/-- A query which meets the condition keeps all links ready. -/
theorem ready_step {e : Exported} {r : e.Reply} {w w' : World σ}
    (inv : LinksHold link (· = Link.ready) w) (live : OnLiveId w.dll e)
    (meets : KeepsReady outcomes w e) (h : (call host turns e).run w = .ok (r, w')) :
    LinksHold link (· = Link.ready) w' := by
  apply inv.step P _ _ rfl h live
  · intro hquery i m l hon hp
    obtain rfl := inv.good hon
    cases e with
    | execute p q =>
      obtain rfl := hp p q (Or.inl rfl)
      obtain ⟨l', hl', hready⟩ := execute_ready_iff P (cMySqlExecute_outcome host h) hon
      exact ⟨l', hl', hready.mpr meets⟩
    | cursorOpen p q =>
      obtain rfl := hp p q (Or.inr rfl)
      obtain ⟨l', hl', hready⟩ := cursorOpen_ready_iff P (cMySqlCursorOpen_outcome host h) hon
      exact ⟨l', hl', hready.mpr meets⟩
    | _ => cases hquery
  · rintro l rfl
    rfl
  · rintro l rfl
    simp [Link.ready, ErrorLast]

/-- A query after which all connections are ready met the condition. -/
theorem keepsReady_of_allReady {e : Exported} {r : e.Reply} {w w' : World σ}
    (inv : LinksHold link (· = Link.ready) w) (live : OnLiveId w.dll e)
    (h : (call host turns e).run w = .ok (r, w')) (ready : AllReady link w') :
    KeepsReady outcomes w e := by
  have hstep := call_refines host h
  cases e with
  | execute p q =>
    obtain ⟨i, m, l, rfl, hon, rfl⟩ := inv.onLink live
    obtain ⟨l', hl', hready⟩ := execute_ready_iff P (cMySqlExecute_outcome host h) hon
    obtain ⟨m', hm, hm'⟩ := ready i _ (hstep.connections trivial ▸ hon.live)
    cases hm
    exact hready.mp (Option.some.inj (hl'.symm.trans hm'))
  | cursorOpen p q =>
    obtain ⟨i, m, l, rfl, hon, rfl⟩ := inv.onLink live
    obtain ⟨l', hl', hready⟩ := cursorOpen_ready_iff P (cMySqlCursorOpen_outcome host h) hon
    obtain ⟨m', hm, hm'⟩ := ready i _ (hstep.connections trivial ▸ hon.live)
    cases hm
    exact hready.mp (Option.some.inj (hl'.symm.trans hm'))
  | _ => trivial

/-- In a run on live ids all connections are ready after every call exactly if every call meets the
condition. -/
theorem connections_ready_iff {library : σ} {tr : List (Called σ)} {w : World σ}
    (h : DllRun host turns library tr w) (live : ∀ x ∈ tr, OnLiveId x.before.dll x.label) :
    (∀ x ∈ tr, AllReady link x.after) ↔ ∀ x ∈ tr, KeepsReady outcomes x.before x.label := by
  rw [← forall_split_iff]
  apply Run.forall_correct_iff (fun _ w => LinksHold link (· = Link.ready) w)
    (fun x => OnLiveId x.before.dll x.label) _ _ h (LinksHold.attached _ library) live
  · intro past x inv hlive meets hx
    exact ready_step P inv hlive meets hx
  · intro past x inv hlive hx
    constructor
    · intro hready
      exact keepsReady_of_allReady P inv hlive hx hready
    · intro meets
      exact (ready_step P inv hlive meets hx).allReady

end Runs

/-- A run in which a statement is executed and a cursor is opened on a query. -/
theorem connections_ready_sample :
    ∃ (tr : List (Called Server)) (w : World Server),
      DllRun scriptedHost 8 (Server.fresh [.ofDone, .ofResultSet]) tr w ∧ tr.length = 3 ∧
        ((∀ x ∈ tr, AllReady Server.links x.after) ↔
          ∀ x ∈ tr, KeepsReady (fun s _ _ => s.answer) x.before x.label) := by
  have hcheck : passes (fun run => decide (run.1.length = 3 ∧
      ∀ x ∈ run.1, OnLiveId x.before.dll x.label))
      (replay (dllStep scriptedHost 8) [.connect .sample, .execute 0 [83], .cursorOpen 0 [83]]
        (attach (Server.fresh [.ofDone, .ofResultSet]))) = true := by
    decide +kernel
  obtain ⟨tr, w, hrun, hcheck⟩ := Run.of_passes hcheck
  obtain ⟨hlength, hlive⟩ := of_decide_eq_true hcheck
  exact ⟨tr, w, hrun, hlength, connections_ready_iff scripted_protocol hrun hlive⟩

/-- A single query through `cMySqlExecute` leaves its connection busy. -/
theorem connections_not_ready :
    ∃ (tr : List (Called Server)) (w : World Server),
      DllRun scriptedHost 8 (Server.fresh [.ofResultSet]) tr w ∧
        (∀ x ∈ tr, OnLiveId x.before.dll x.label) ∧ ¬ ∀ x ∈ tr, AllReady Server.links x.after := by
  have hcheck : passes (fun run => decide ((∀ x ∈ run.1, OnLiveId x.before.dll x.label) ∧
      ∃ x ∈ run.1, x.after.registry.connections firstConnection = some (some ⟨0⟩) ∧
        x.after.library.links ⟨0⟩ ≠ some Link.ready))
      (replay (dllStep scriptedHost 8) [.connect .sample, .execute 0 [83]]
        (attach (Server.fresh [.ofResultSet]))) = true := by
    decide +kernel
  obtain ⟨tr, w, hrun, hcheck⟩ := Run.of_passes hcheck
  obtain ⟨hlive, x, hx, hregistered, hbusy⟩ := of_decide_eq_true hcheck
  refine ⟨tr, w, hrun, hlive, fun hall => ?_⟩
  obtain ⟨m, hm, hready⟩ := hall x hx firstConnection _ hregistered
  cases hm
  exact hbusy hready

end MqlMySql
