import MqlMySql.Spec.Alone
import MqlMySql.Spec.Order
import MqlMySql.Spec.Server

/-!
# Two threads which disconnect one connection

`cMySqlDisconnect` does not take the mutex. Between the load of a handle and its removal from the table a second thread
can load it too, and so `mysql_close` is called twice with one handle, after which the library has freed it.
-/

namespace MqlMySql

open Library

variable {T σ : Type} [DecidableEq T] {host : Host σ} {turns : ℕ} {library : σ} {tr : List (Threaded T σ)}
  {s : Threads T σ} {i : Fin maxConnections} {t u : T}

/-- A thread calls `mysql_close`. -/
def Closes (handle : Option Mysql) (t : T) (x : Threaded T σ) : Prop :=
  x.label = .advance t ∧ x.reply = .made (.library (.close handle)) ()

/-- What is left of `cMySqlDisconnect` when it is about to close a handle, or has found none. -/
def closing (p : ℤ) : Option (Option Mysql) → Code Unit
  | none => Code.noConnection
  | some handle => do
    Code.library (.close handle)
    Code.deleteConnection p

/-- What it does before. -/
def lookUp (p : ℤ) : Code (Option (Option Mysql)) := do
  Code.clearErrors p
  match ← Code.liveConnection p with
  | none => return none
  | some i => return some (← Code.load (.connectionHandle i))

theorem cMySqlDisconnect_eq (p : ℤ) : Code.cMySqlDisconnect p = lookUp p >>= closing p := by
  simp only [lookUp, Program.bind_assoc]
  unfold Code.cMySqlDisconnect
  congr 1
  funext _
  congr 1
  funext slot
  cases slot <;> rfl

/-- It changes no more than the error of the slot, and finds the handle there. -/
theorem run_lookUp (shared : Shared T σ) (live : (shared.dll.connections i).id ≠ -1) :
    (lookUp i.val).run (accessStep host t) shared =
      .ok (some (shared.dll.connections i).connection, { shared with dll := clearErrors i.val shared.dll }) := by
  have hlive : (clearErrors i.val shared.dll).liveConnection i.val = some i :=
    liveConnection_eq_some_iff.mpr ⟨rfl, by simpa using live⟩
  have hhandle : ((clearErrors i.val shared.dll).connections i).connection = (shared.dll.connections i).connection := by
    simp
  simp only [lookUp, Program.run_bind, run_clearErrors, run_liveConnection, ok_bind, hlive]
  rw [← hhandle]
  rfl

/-- The next access of a thread which is about to close a handle. -/
theorem step_closing {p : ℤ} {handle : Option Mysql}
    (runs : s.running t = some ⟨.disconnect p, closing p (some handle)⟩) :
    ∃ s', threadStep host turns (.advance t) s = .ok (.made (.library (.close handle)) (), s') ∧
      ∀ u, u ≠ t → s'.running u = s.running u :=
  ⟨_, poolStep_of_ok runs rfl, fun _ hut => s.moved_running_of_ne _ _ _ hut⟩

/-- Two threads stand before `mysql_close` with one handle. -/
structure BothClosing (t u : T) (p : ℤ) (handle : Option Mysql) (s : Threads T σ) : Prop where
  first : s.running t = some ⟨.disconnect p, closing p (some handle)⟩
  second : s.running u = some ⟨.disconnect p, closing p (some handle)⟩

/-- Two threads which are outside the DLL come there when the connection is live. -/
theorem reaches_bothClosing (hut : u ≠ t) (first : s.running t = none) (second : s.running u = none)
    (live : (s.shared.dll.connections i).id ≠ -1) : ∃ more s', Run (threadStep host turns) s more s' ∧
      BothClosing t u i.val (s.shared.dll.connections i).connection s' := by
  have hcode : code host turns (.disconnect i.val) = lookUp i.val >>= closing i.val := cMySqlDisconnect_eq i.val
  obtain ⟨more, hmore⟩ : ∃ more, Run (threadStep host turns) s more _ :=
    Run.enters first hcode (run_lookUp s.shared live)
  generalize hs₁ : s.moved _ t _ = s₁ at hmore
  have hhandle : (s₁.shared.dll.connections i).connection = (s.shared.dll.connections i).connection := by
    rw [← hs₁]
    simp
  have hlive : (s₁.shared.dll.connections i).id ≠ -1 := by
    rw [← hs₁]
    simpa using live
  have hidle : s₁.running u = none := by
    rw [← hs₁, s.moved_running_of_ne _ _ _ hut, second]
  obtain ⟨more', hmore'⟩ : ∃ more, Run (threadStep host turns) s₁ more _ :=
    Run.enters hidle hcode (run_lookUp s₁.shared hlive)
  refine ⟨more ++ more', _, hmore.append hmore', ?_, ?_⟩
  · rw [s₁.moved_running_of_ne _ _ _ hut.symm, ← hs₁, s.moved_running]
  · rw [s₁.moved_running, hhandle]

/-- There is nothing to stop them. -/
theorem BothClosing.close {p : ℤ} {handle : Option Mysql} (h : BothClosing t u p handle s) (hut : u ≠ t) :
    ∃ x y s', Run (threadStep host turns) s [x, y] s' ∧ Closes handle t x ∧ Closes handle u y := by
  obtain ⟨s₁, hstep, hkeeps⟩ : ∃ s₁, threadStep host turns (.advance t) s = .ok (_, s₁) ∧ _ := step_closing h.first
  obtain ⟨s₂, hstep', -⟩ : ∃ s₂, threadStep host turns (.advance u) s₁ = .ok (_, s₂) ∧ _ :=
    step_closing ((hkeeps u hut).trans h.second)
  exact ⟨⟨s, .advance t, .made (.library (.close _)) (), s₁⟩, ⟨s₁, .advance u, .made (.library (.close _)) (), s₂⟩, s₂,
    .cons hstep (.cons hstep' (.nil _)), ⟨rfl, rfl⟩, ⟨rfl, rfl⟩⟩

/-- Nothing keeps two threads out of `cMySqlDisconnect`: whenever a connection is live and two threads are outside the
DLL, both may close its handle, one right after the other. -/
theorem ThreadRun.disconnects_race (h : ThreadRun host turns library tr s) (hut : u ≠ t) (first : s.running t = none)
    (second : s.running u = none) (live : (s.shared.dll.connections i).id ≠ -1) :
    ∃ more x y s', ThreadRun host turns library (tr ++ more ++ [x, y]) s' ∧
      Closes (s.shared.dll.connections i).connection t x ∧ Closes (s.shared.dll.connections i).connection u y := by
  obtain ⟨more, s₁, hmore, hboth⟩ := reaches_bothClosing hut first second live
  obtain ⟨x, y, s₂, hclose, hx, hy⟩ := hboth.close hut
  exact ⟨more, x, y, s₂, (Run.append h hmore).append hclose, hx, hy⟩

/-- A thread connects, and then two threads close the handle. -/
theorem disconnects_race_sample :
    ∃ (tr : List (Threaded ℕ Server)) (s : Threads ℕ Server) (handle : Option Mysql),
      ThreadRun scriptedHost 8 (Server.fresh []) tr s ∧ handle.isSome ∧
        ∃ more x y s', ThreadRun scriptedHost 8 (Server.fresh []) (tr ++ more ++ [x, y]) s' ∧
          Closes handle 0 x ∧ Closes handle 1 y := by
  have hcheck : passes (fun run => decide ((run.2.shared.dll.connections ⟨0, by decide⟩).id = 0) &&
        (run.2.shared.dll.connections ⟨0, by decide⟩).connection.isSome &&
        (run.2.running 0).isNone && (run.2.running 1).isNone)
      (replay (threadStep (T := ℕ) scriptedHost 8)
        (.enter 0 (.connect .sample) :: List.replicate 11 (.advance 0)) (Threads.start ℕ (Server.fresh []))) =
          true := by
    decide +kernel
  obtain ⟨tr, s, hrun, hcheck⟩ := Run.of_passes hcheck
  simp only [Bool.and_eq_true, decide_eq_true_eq, Option.isNone_iff_eq_none] at hcheck
  obtain ⟨⟨⟨hid, hsome⟩, hidle⟩, hidle'⟩ := hcheck
  exact ⟨tr, s, _, hrun, hsome, ThreadRun.disconnects_race hrun (by decide) hidle hidle' (by simp [hid])⟩

end MqlMySql
