import MqlMySql.Spec.Order
import MqlMySql.Spec.Server

/-!
# The mutex in every interleaving

However the accesses of the threads are interleaved, the mutex is owned by a thread inside one of the four modelled
functions with `SCOPE_LOCK_MUTEX`, once, and is free when no thread is inside such a function. `ReleaseMutex` never
fails, so neither does the assertion in `~CMutexLock`; and as long as some thread is inside a call, some thread can go
on.
-/

namespace MqlMySql

open Library

variable {T σ : Type} [DecidableEq T] {host : Host σ} {turns : ℕ} {library : σ} {tr : List (Threaded T σ)}
  {s : Threads T σ} {phase : T → Phase} {t : T}

/-- A thread goes on, or the process ends with its fault. -/
def GoesOn (host : Host σ) (turns : ℕ) (s : Threads T σ) (t : T) : Prop :=
  (∃ a s', threadStep host turns (.advance t) s = .ok (a, s')) ∨
    ∃ fault, threadStep host turns (.advance t) s = .error (.inCall (.fault fault))

omit [DecidableEq T] in
/-- Inside the mutex is only a function which takes it. -/
theorem InOrder.locks (h : InOrder host turns s phase) {stage : Stage} (inside : phase t = .inside stage) :
    ∃ e p, s.running t = some ⟨e, p⟩ ∧ e.Locks := by
  cases hrun : s.running t with
  | none =>
    have hfresh := h.conforms.outside t hrun
    rw [inside] at hfresh
    cases hfresh
  | some call =>
    obtain ⟨e, p⟩ := call
    refine ⟨e, p, rfl, ?_⟩
    have hobeys := h.conforms.inside t e p hrun
    rw [inside] at hobeys
    cases p with
    | done v => exact absurd hobeys not_ends_inside
    | call a rest => exact hobeys.1

/-- The mutex is released from inside only. -/
theorem Leads.unlock_inside {e : Exported} {from_ q : Phase} {r : Unit} (h : Leads e from_ .unlock r q) :
    ∃ stage, from_ = .inside stage := by
  cases h with
  | first r locks plain => exact plain.elim
  | apart r locks plain => exact plain.elim
  | plain stage r locks plain => exact plain.elim
  | unlock stage settled => exact ⟨stage, rfl⟩

omit [DecidableEq T] in
/-- So whoever is about to release it owns it. -/
theorem InOrder.owner_of_unlock (h : InOrder host turns s phase) {e : Exported} {rest : Unit → Code e.Reply}
    (runs : s.running t = some ⟨e, .call .unlock rest⟩) : s.shared.mutex = some (t, 0) := by
  obtain ⟨q, hleads, -⟩ := (h.conforms.inside t e _ runs).2 ()
  exact (h.orderly.owner t).mp hleads.unlock_inside

/-- An access is made, or faults, unless it has to wait for the mutex or releases what is not owned. -/
theorem access_goes_on (a : Access) (shared : Shared T σ)
    (free : a = .lock → shared.mutex = none ∨ shared.mutex = some (t, 0))
    (owned : a = .unlock → shared.mutex = some (t, 0)) :
    (∃ r shared', accessStep host t a shared = .ok (r, shared')) ∨
      ∃ fault, accessStep host t a shared = .error (.fault fault) := by
  cases a with
  | lock =>
    rcases free rfl with hm | hm
    · exact .inl ⟨(), { shared with mutex := some (t, 0) }, by simp only [accessStep, hm]⟩
    · exact .inl ⟨(), { shared with mutex := some (t, 1) }, by simp only [accessStep, hm, if_true]⟩
  | unlock => exact .inl ⟨(), { shared with mutex := none }, by simp only [accessStep, owned rfl, if_true]⟩
  | load c => exact .inl ⟨_, _, rfl⟩
  | store c v => exact .inl ⟨(), _, rfl⟩
  | library q => exact .inl ⟨_, _, rfl⟩
  | fail fault => exact .inr ⟨fault, rfl⟩

/-- A thread inside a call goes on when the mutex is free or its own. -/
theorem InOrder.goesOn (h : InOrder host turns s phase) (running : s.running t ≠ none)
    (free : s.shared.mutex = none ∨ s.shared.mutex = some (t, 0)) : GoesOn host turns s t := by
  obtain ⟨⟨e, p⟩, hrun⟩ := Option.ne_none_iff_exists'.mp running
  cases p with
  | done v => exact .inl ⟨_, _, poolStep_of_done hrun⟩
  | call a rest =>
    have owned : a = .unlock → s.shared.mutex = some (t, 0) := by
      rintro rfl
      exact h.owner_of_unlock hrun
    have goes : _ ∨ ∃ fault, accessStep host t a s.shared = _ := access_goes_on a s.shared (fun _ => free) owned
    rcases goes with ⟨r, shared', hok⟩ | ⟨fault, hfault⟩
    · exact .inl ⟨_, _, poolStep_of_ok hrun hok⟩
    · exact .inr ⟨fault, poolStep_of_error hrun hfault⟩

/-- `ReleaseMutex` is called by the owner. -/
theorem InOrder.never_notOwner (h : InOrder host turns s phase) :
    threadStep host turns (.advance t) s ≠ .error (.inCall .notOwner) := by
  intro hstep
  obtain ⟨e, a, rest, hrun, herror⟩ := poolStep_error hstep
  cases a with
  | lock =>
    simp only [accessStep] at herror
    split at herror
    · cases herror
    · split at herror <;> cases herror
  | unlock => simp [accessStep, h.owner_of_unlock hrun] at herror
  | load c => cases herror
  | store c v => cases herror
  | library q => cases herror
  | fail fault => cases herror

/-- In every state of every interleaved run the mutex is in use as intended, and the threads are not stuck. -/
theorem ThreadRun.mutex_in_use (h : ThreadRun host turns library tr s) :
    (∀ t again, s.shared.mutex = some (t, again) → again = 0 ∧ ∃ e p, s.running t = some ⟨e, p⟩ ∧ e.Locks) ∧
    (∀ t, threadStep host turns (.advance t) s ≠ .error (.inCall .notOwner)) ∧
    ∀ t, s.running t ≠ none → ∃ u, s.running u ≠ none ∧ GoesOn host turns s u := by
  obtain ⟨phase, hphase⟩ := h.inOrder
  have howner : ∀ t again, s.shared.mutex = some (t, again) →
      again = 0 ∧ ∃ e p, s.running t = some ⟨e, p⟩ ∧ e.Locks := by
    intro t again hm
    obtain rfl := hphase.orderly.once t again hm
    obtain ⟨stage, hinside⟩ := (hphase.orderly.owner t).mpr hm
    exact ⟨rfl, hphase.locks hinside⟩
  refine ⟨howner, fun t => hphase.never_notOwner, fun t ht => ?_⟩
  cases hm : s.shared.mutex with
  | none => exact ⟨t, ht, hphase.goesOn ht (.inl hm)⟩
  | some held =>
    obtain ⟨u, again⟩ := held
    obtain ⟨rfl, e, p, hrun, -⟩ := howner u again hm
    have hu : s.running u ≠ none := by simp [hrun]
    exact ⟨u, hu, hphase.goesOn hu (.inr hm)⟩

/-- A thread inside `cMySqlConnect` owns the mutex while another waits for it. -/
theorem mutex_in_use_sample :
    ∃ (tr : List (Threaded ℕ Server)) (s : Threads ℕ Server),
      ThreadRun scriptedHost 8 (Server.fresh []) tr s ∧ s.shared.mutex = some (0, 0) ∧
        (∀ t, threadStep scriptedHost 8 (.advance t) s ≠ .error (.inCall .notOwner)) ∧
        ∀ t, s.running t ≠ none → ∃ u, s.running u ≠ none ∧ GoesOn scriptedHost 8 s u := by
  have hcheck : passes (fun run => decide (run.2.shared.mutex = some (0, 0)))
      (replay (threadStep (T := ℕ) scriptedHost 8)
        [.enter 0 (.connect .sample), .enter 1 (.cursorClose 0), .advance 0, .advance 0]
        (Threads.start ℕ (Server.fresh []))) = true := by
    decide +kernel
  obtain ⟨tr, s, hrun, hmutex⟩ := Run.of_passes hcheck
  exact ⟨tr, s, hrun, of_decide_eq_true hmutex, (ThreadRun.mutex_in_use hrun).2⟩

end MqlMySql
