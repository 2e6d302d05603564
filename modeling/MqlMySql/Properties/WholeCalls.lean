import MqlMySql.Library.Atomicity
import MqlMySql.Spec.Alone
import MqlMySql.Spec.Order
import MqlMySql.Spec.Server

/-!
# Interleaved runs which are runs of whole calls

What is proved about runs of the exported functions, each taken as one action, holds of the threads in two cases: when
the terminal lets one thread into the DLL at a time, and, whatever the interleaving, when the threads call only
`cMySqlConnect`, `cMySqlCursorOpen` and `cMySqlCursorClose`, which are inside the mutex from the first access to the
last.
-/

namespace MqlMySql

open Library

variable {T σ : Type} [DecidableEq T] {host : Host σ} {turns : ℕ} {library : σ} {tr : List (Threaded T σ)}
  {s : Threads T σ}

/-- The calls which have made their last access, in this order, with what they return. -/
def completed (tr : List (Threaded T σ)) : List (Σ e : Exported, e.Reply) :=
  (tr.filterMap Moved.completes).map fun y => ⟨y.1.2, y.2⟩

/-- A whole call of a program is the action. -/
theorem wholeCall_eq_ok {w : World σ} {t : T} {e : Exported} {r : e.Reply} {s' : Shared T σ}
    (h : wholeCall (code host turns) (accessStep host) (t, e) (w.shared none) = .ok (r, s')) :
    ∃ w', dllStep host turns e w = .ok (r, w') ∧ s' = w'.shared none := by
  rw [wholeCall, code_alone turns e w] at h
  cases hcall : (call host turns e).run w with
  | error fault => simp [hcall, asShared] at h
  | ok x =>
    rw [hcall] at h
    cases h
    exact ⟨x.2, hcall, rfl⟩

/-- A run of whole calls of programs is a run of actions. -/
theorem actions_of_wholeCalls {w : World σ} {calls : List (Recorded (Shared T σ) (T × Exported) fun y => y.2.Reply)}
    {base : Shared T σ} (h : Run (wholeCall (code host turns) (accessStep host)) (w.shared none) calls base) :
    ∃ (record : List (Called σ)) (w' : World σ), Run (dllStep host turns) w record w' ∧ base = w'.shared none ∧
      record.map (fun y => (⟨y.label, y.reply⟩ : Σ e : Exported, e.Reply)) =
        calls.map fun y => ⟨y.label.2, y.reply⟩ := by
  induction calls generalizing w with
  | nil =>
    cases h
    exact ⟨[], w, .nil w, rfl, rfl⟩
  | cons x calls ih =>
    cases h with
    | cons head rest =>
      obtain ⟨w₁, hcall, rfl⟩ := wholeCall_eq_ok head
      obtain ⟨record, w', hrun, hbase, hmap⟩ := ih rest
      exact ⟨_, w', .cons hcall hrun, hbase, by simp [hmap]⟩

/-- No thread makes an access while another is in the middle of a call. -/
def Exclusive (host : Host σ) (turns : ℕ) (tr : List (Threaded T σ)) : Prop :=
  ∀ x ∈ tr, ∀ t a r, x.label = .advance t → x.reply = .made a r →
    ∀ u, u ≠ t → ¬ x.before.InMiddle (code host turns) u

/-- Then the calls which have made their last access form a run of actions. -/
theorem ThreadRun.of_exclusive (h : ThreadRun host turns library tr s) (exclusive : Exclusive host turns tr) :
    ∃ (calls : List (Called σ)) (w : World σ), DllRun host turns library calls w ∧
      calls.map (fun y => (⟨y.label, y.reply⟩ : Σ e : Exported, e.Reply)) = completed tr ∧
      ((∀ t, ¬ s.InMiddle (code host turns) t) → s.shared = w.shared none) := by
  obtain ⟨calls, base, hcalls, hmap, hamounts⟩ := Run.amounts h (fun _ => rfl) exclusive
  have hstart : (Threads.start T library).shared = (attach library).shared none := rfl
  rw [hstart] at hcalls
  obtain ⟨record, w, hrun, rfl, hrecord⟩ := actions_of_wholeCalls hcalls
  refine ⟨record, w, hrun, ?_, hamounts.between⟩
  rw [hrecord, completed, ← hmap, List.map_map]
  rfl

/-- When the threads are let into the DLL one at a time, their calls are actions: they return what the actions return,
and leave the globals and the library as the actions leave them. -/
theorem ThreadRun.serial_calls (h : ThreadRun host turns library tr s)
    (serial : ∀ x ∈ tr, ∀ t e, x.label = .enter t e → ∀ u, x.before.running u = none) :
    ∃ (calls : List (Called σ)) (w : World σ), DllRun host turns library calls w ∧
      calls.map (fun y => (⟨y.label, y.reply⟩ : Σ e : Exported, e.Reply)) = completed tr ∧
      ((∀ t, s.running t = none) → s.shared = w.shared none) := by
  obtain ⟨calls, w, hrun, hmap, hshared⟩ :=
    h.of_exclusive (Run.exclusive_of_serial h (fun _ => rfl) serial)
  exact ⟨calls, w, hrun, hmap, fun idle => hshared fun t => Pool.not_inMiddle_of_idle (idle t)⟩

/-- One thread connects, and the other asks for the number of rows afterwards. -/
theorem serial_calls_sample :
    ∃ (tr : List (Threaded Bool Server)) (s : Threads Bool Server),
      ThreadRun scriptedHost 8 (Server.fresh []) tr s ∧ (completed tr).length = 2 ∧
        ∃ (calls : List (Called Server)) (w : World Server), DllRun scriptedHost 8 (Server.fresh []) calls w ∧
          calls.map (fun y => (⟨y.label, y.reply⟩ : Σ e : Exported, e.Reply)) = completed tr ∧
          ((∀ t, s.running t = none) → s.shared = w.shared none) := by
  have hcheck : passes (fun run => decide ((completed run.1).length = 2) && run.1.all fun x =>
        match x.label with
        | .enter _ _ => (x.before.running false).isNone && (x.before.running true).isNone
        | .advance _ => true)
      (replay (threadStep (T := Bool) scriptedHost 8)
        (.enter true (.connect .sample) :: List.replicate 11 (.advance true) ++
          .enter false (.rowsAffected 0) :: List.replicate 3 (.advance false))
        (Threads.start Bool (Server.fresh []))) = true := by
    decide +kernel
  obtain ⟨tr, s, hrun, hcheck⟩ := Run.of_passes hcheck
  obtain ⟨hlength, hall⟩ := Bool.and_eq_true_iff.mp hcheck
  refine ⟨tr, s, hrun, of_decide_eq_true hlength, ThreadRun.serial_calls hrun ?_⟩
  intro x hx t e hlabel u
  have hx := List.all_eq_true.mp hall x hx
  simp only [hlabel, Bool.and_eq_true, Option.isNone_iff_eq_none] at hx
  cases u
  · exact hx.1
  · exact hx.2

/-- The functions which are inside the mutex from their first access to their last. `cMySqlGetRowField` is none of
them: the buffer which it returns is read when the mutex has been released. -/
def Exported.WholeInside : Exported → Prop
  | .connect _ | .cursorOpen _ _ | .cursorClose _ => True
  | _ => False

theorem Exported.WholeInside.locks {e : Exported} (h : e.WholeInside) : e.Locks := by
  cases e <;> trivial

/-- Every access but a failure has some answer. -/
theorem Access.answers {a : Access} (h : ∀ fault, a ≠ .fail fault) : Nonempty a.Reply := by
  cases a with
  | lock => exact ⟨()⟩
  | unlock => exact ⟨()⟩
  | store c v => exact ⟨()⟩
  | load c => exact ⟨Dll.attached.load c⟩
  | library q => cases q <;> exact ⟨default⟩
  | fail fault => exact absurd rfl (h fault)

omit [DecidableEq T] in
/-- In the middle of such a call a thread is inside the mutex. -/
theorem InOrder.inside_of_inMiddle {phase : T → Phase} {t : T} (h : InOrder host turns s phase)
    (whole : ∀ e p, s.running t = some ⟨e, p⟩ → e.WholeInside) (hmid : s.InMiddle (code host turns) t) :
    ∃ stage, phase t = .inside stage := by
  obtain ⟨e, p, hrun, hne, hgoing⟩ := hmid
  have hwhole := whole e p hrun
  have hobeys := h.conforms.inside t e p hrun
  have hfresh := h.conforms.fresh t e p hrun
  cases p with
  | done v => exact absurd rfl (hgoing v)
  | call a rest =>
    cases hphase : phase t with
    | fresh => exact absurd (hfresh hphase) hne
    | inside stage => exact ⟨stage, rfl⟩
    | apart =>
      rw [hphase] at hobeys
      exact absurd hwhole.locks hobeys.1
    | left stage =>
      rw [hphase] at hobeys
      obtain ⟨r⟩ := Access.answers hobeys.1
      obtain ⟨q, hleads, -⟩ := hobeys.2 r
      cases hleads with
      | read stage k v reads =>
        obtain ⟨p, f, rfl⟩ := reads
        exact hwhole.elim

/-- A thread makes an access of such a call from inside the mutex, or takes it. -/
theorem Leads.inside_or_lock {e : Exported} {from_ q : Phase} {a : Access} {r : a.Reply} (h : Leads e from_ a r q)
    (whole : e.WholeInside) : (∃ stage, from_ = .inside stage) ∨ a = .lock := by
  cases h with
  | first r locks plain => exact absurd whole.locks locks
  | apart r locks plain => exact absurd whole.locks locks
  | lock locks => exact .inr rfl
  | read stage k v reads =>
    obtain ⟨p, f, rfl⟩ := reads
    exact whole.elim
  | _ => exact .inl ⟨_, rfl⟩

/-- What a thread is inside of, it has entered. -/
theorem ThreadRun.entered (h : ThreadRun host turns library tr s) {t : T} {e : Exported} {p : Code e.Reply}
    (hrun : s.running t = some ⟨e, p⟩) : ∃ x ∈ tr, x.label = .enter t e := by
  obtain ⟨past, x, own, rfl, hx, -⟩ := Run.path h rfl hrun
  exact ⟨x, by simp, hx⟩

/-- The mutex keeps such calls apart. -/
theorem ThreadRun.exclusive_of_whole (h : ThreadRun host turns library tr s)
    (whole : ∀ x ∈ tr, ∀ t e, x.label = .enter t e → e.WholeInside) : Exclusive host turns tr := by
  intro x hx t a r hlabel hreply u hut hmid
  obtain ⟨past, future, rfl⟩ := List.append_of_mem hx
  obtain ⟨hpast, -, -⟩ := Run.split_at h
  have hwhole : ∀ v e p, x.before.running v = some ⟨e, p⟩ → e.WholeInside := by
    intro v e p hrun
    obtain ⟨y, hy, hentered⟩ := ThreadRun.entered hpast hrun
    exact whole y (by simp [hy]) v e hentered
  obtain ⟨e, rest, phase, next, hrun, hphase, hleads, hok⟩ := h.made hlabel hreply
  obtain ⟨stage, hinside⟩ := hphase.inside_of_inMiddle (hwhole u) hmid
  rcases hleads.inside_or_lock (hwhole t e _ hrun) with ⟨stage', ht⟩ | rfl
  · exact hut (hphase.orderly.alone hinside ht)
  · have howner := (hphase.orderly.owner u).mp ⟨stage, hinside⟩
    simp [accessStep, howner, hut] at hok

/-- However the accesses of threads are interleaved which call only functions inside the mutex, these calls are actions,
made one after the other in the order of their last accesses: they return what the actions return, and whenever the
mutex is free, the globals and the library are as the actions leave them. -/
theorem ThreadRun.locked_calls (h : ThreadRun host turns library tr s)
    (whole : ∀ x ∈ tr, ∀ t e, x.label = .enter t e → e.WholeInside) :
    ∃ (calls : List (Called σ)) (w : World σ), DllRun host turns library calls w ∧
      calls.map (fun y => (⟨y.label, y.reply⟩ : Σ e : Exported, e.Reply)) = completed tr ∧
      (s.shared.mutex = none → s.shared = w.shared none) := by
  obtain ⟨calls, w, hrun, hmap, hshared⟩ := h.of_exclusive (h.exclusive_of_whole whole)
  refine ⟨calls, w, hrun, hmap, fun hfree => hshared fun t hmid => ?_⟩
  obtain ⟨phase, hphase⟩ := h.inOrder
  have hwhole : ∀ e p, s.running t = some ⟨e, p⟩ → e.WholeInside := by
    intro e p hrun
    obtain ⟨x, hx, hentered⟩ := h.entered hrun
    exact whole x hx t e hentered
  have howner := (hphase.orderly.owner t).mp (hphase.inside_of_inMiddle hwhole hmid)
  rw [hfree] at howner
  cases howner

/-- Two threads connect at the same time. -/
theorem locked_calls_sample :
    ∃ (tr : List (Threaded ℕ Server)) (s : Threads ℕ Server),
      ThreadRun scriptedHost 8 (Server.fresh []) tr s ∧ (completed tr).length = 2 ∧
        ∃ (calls : List (Called Server)) (w : World Server), DllRun scriptedHost 8 (Server.fresh []) calls w ∧
          calls.map (fun y => (⟨y.label, y.reply⟩ : Σ e : Exported, e.Reply)) = completed tr ∧
          (s.shared.mutex = none → s.shared = w.shared none) := by
  have hcheck : passes (fun run => decide ((completed run.1).length = 2) && run.1.all fun x =>
        match x.label with
        | .enter _ (.connect _) | .advance _ => true
        | .enter _ _ => false)
      (replay (threadStep (T := ℕ) scriptedHost 8)
        ([.enter 0 (.connect .sample), .enter 1 (.connect .sample)] ++ List.replicate 10 (.advance 0) ++
          List.replicate 11 (.advance 1))
        (Threads.start ℕ (Server.fresh []))) = true := by
    decide +kernel
  obtain ⟨tr, s, hrun, hcheck⟩ := Run.of_passes hcheck
  obtain ⟨hlength, hall⟩ := Bool.and_eq_true_iff.mp hcheck
  refine ⟨tr, s, hrun, of_decide_eq_true hlength, ThreadRun.locked_calls hrun ?_⟩
  intro x hx t e hlabel
  have hx := List.all_eq_true.mp hall x hx
  cases e <;> simp_all [Exported.WholeInside]

end MqlMySql
