import MqlMySql.Spec.Server
import MqlMySql.Spec.Settlement

/-!
# Every handle is closed once

Each handle returned by `mysql_init` should be passed to `mysql_close` once, and until then it should be the
handle of one live connection. When `mysql_real_connect` refuses, `cMySqlConnect` returns without closing the
handle and without keeping it: the handle is lost. This is the only way to lose one.
-/

namespace MqlMySql

open Library

variable {σ : Type} (host : Host σ)

/-- When a connection which is asked for is accepted: `mysql_real_connect` gives back the handle, if a slot
was free and a handle was allocated. -/
def Accepted (w : World σ) : Exported → Prop
  | .connect c => getNewConnectionId w.dll ≠ -1 → ∀ m ∈ (host.mysqlInit w.library).1,
      w.connectAnswer host c m = some m
  | _ => True

instance (w : World σ) : (e : Exported) → Decidable (Accepted host w e)
  | .connect _ => inferInstanceAs (Decidable (_ → ∀ m ∈ _, _))
  | .disconnect _ | .execute _ _ | .cursorOpen _ _ | .cursorClose _ | .cursorRows _
  | .cursorFetchRow _ | .getRowField _ _ | .rowsAffected _ => isTrue trivial
  | .getMySqlErrorNumber _ | .getMySqlErrorDescription _ | .getCursorErrorNumber _
  | .getCursorErrorDescription _ => isTrue trivial

variable {host} {w w' : World σ} {turns : ℕ}

/-- Nothing was handed out, closed or registered. -/
theorem HandlesAccounted.of_same (h : HandlesAccounted w) (lifecycle : w'.lifecycle = w.lifecycle)
    (connections : w'.registry.connections = w.registry.connections) : HandlesAccounted w' := by
  have hhandles : w'.registry.handles = w.registry.handles := by
    funext i
    rw [Registry.handles, connections, Registry.handles]
  rw [handlesAccounted_iff [] lifecycle, hhandles]
  exact h

/-- Connecting keeps the account exactly when the connection is accepted. -/
theorem ConnectOutcome.accounted_iff {c : Credentials} {r : ℤ} (h : ConnectOutcome host c w r w')
    (inv : HandlesAccounted w) : HandlesAccounted w' ↔ Accepted host w (.connect c) := by
  cases h with
  | full none_free =>
    apply iff_of_true
    · exact inv.of_same rfl (by simp)
    · intro hfree
      exact absurd none_free hfree
  | unallocated answer =>
    apply iff_of_true
    · rw [handlesAccounted_iff (w := w) [.init none]
        (by simp [World.lifecycle, List.filter_cons, LibraryCall.isLifecycle, answer])]
      simpa [List.filterMap_cons, HandlesAccounted] using inv
    · intro _ m hm
      rw [answer] at hm
      cases hm
  | refused i free mysql allocated answer =>
    apply iff_of_false
    · rw [handlesAccounted_iff (w := w) [.init (some mysql)]
        (by simp [World.lifecycle, List.filter_cons, LibraryCall.isLifecycle, World.asked, allocated])]
      simpa [List.filterMap_cons, World.asked_registry host c mysql free] using
        Accounted.not_of_lost inv
    · intro haccepted
      have hfree : getNewConnectionId w.dll ≠ -1 := by
        rw [free]
        exact val_ne_neg_one i
      exact answer (haccepted hfree mysql allocated)
  | connected i free mysql allocated answer =>
    have hnone : w.registry.handles i = none := by
      simp [Registry.handles, World.registry, Dll.registry, getNewConnectionId_free free]
    apply iff_of_true
    · rw [handlesAccounted_iff (w := w) [.init (some mysql)]
        (by simp [World.lifecycle, List.filter_cons, LibraryCall.isLifecycle, World.asked, allocated]),
        World.connected_registry host c mysql free, Registry.handles_connect]
      simpa [List.filterMap_cons] using Accounted.take inv hnone
    · intro _ m hm
      rw [allocated, Option.mem_some_iff] at hm
      rw [← hm]
      exact answer

/-- Disconnecting keeps the account. -/
theorem DisconnectOutcome.accounted {p : ℤ} (h : DisconnectOutcome host p w w')
    (inv : HandlesAccounted w) : HandlesAccounted w' := by
  cases h with
  | dead => exact inv.of_same rfl (by simp)
  | closed i hp live =>
    have hheld : w.registry.handles i = w.handle i := by
      simp [Registry.handles, World.registry, Dll.registry, live, World.handle]
    subst hp
    rw [HandlesAccounted, World.onDll_registry, deleteConnection_val, Dll.registry_disconnect,
      World.dll_registry, World.commanded_registry, World.onDll_registry, Dll.registry_clearErrors,
      World.dll_registry, Registry.handles_disconnect]
    simpa using Accounted.drop inv hheld

/-- A call keeps the account exactly when it is accepted. -/
theorem call_accounted_iff {e : Exported} {r : e.Reply} (h : (call host turns e).run w = .ok (r, w'))
    (inv : HandlesAccounted w) : HandlesAccounted w' ↔ Accepted host w e := by
  have hkept (keeps : Registry.KeepsConnections e) : HandlesAccounted w' :=
    inv.of_same (call_lifecycle h keeps) ((call_refines host h).connections keeps)
  cases e with
  | connect c => exact (cMySqlConnect_outcome host h).accounted_iff inv
  | disconnect p => exact iff_of_true ((cMySqlDisconnect_outcome host h).accounted inv) trivial
  | _ => exact iff_of_true (hkept trivial) trivial

/-- Nothing was handed out at process attach. -/
theorem HandlesAccounted.attached (library : σ) : HandlesAccounted (attach library) := by
  apply Accounted.start
  intro i
  simp [Registry.handles, Registry.empty]

/-- From process attach to process detach, every handle which was handed out is at any time closed or that of a
live connection, as often as it was handed out, and closed as often in the end, exactly when every connection
which is asked for is accepted. -/
theorem handles_closedOnce_iff {library : σ} {tr : List (Called σ)}
    (h : DllRun host turns library tr w) (hdetach : (detach host).run w = .ok ((), w')) :
    ((∀ x ∈ tr, HandlesAccounted x.after) ∧ ∀ m, w'.initialised.count m = w'.closed.count m) ↔
      ∀ x ∈ tr, Accepted host x.before x.label := by
  have hstates : (∀ past x future, tr = past ++ x :: future → HandlesAccounted x.after) ↔
      ∀ x ∈ tr, Accepted host x.before x.label := by
    apply Run.forall_correct_iff (fun _ w => HandlesAccounted w) (fun _ => True) _ _ h
      (HandlesAccounted.attached library) (fun _ _ => trivial)
    · intro past x inv _ meets hx
      exact (call_accounted_iff hx inv).mpr meets
    · intro past x inv _ hx
      exact call_accounted_iff hx inv
  rw [forall_split_iff] at hstates
  rw [← hstates, and_iff_left_iff_imp]
  intro hall m
  have hend : HandlesAccounted w :=
    h.keeps HandlesAccounted (fun x hx _ _ => hall x hx) (HandlesAccounted.attached library)
  rw [eq_detached_of_run host hdetach]
  exact hend.detached m

/-- A connection is opened, closed, and another one left open. -/
theorem handles_closedOnce_sample :
    ∃ (tr : List (Called Server)) (w w' : World Server),
      DllRun scriptedHost 8 (Server.fresh []) tr w ∧ (detach scriptedHost).run w = .ok ((), w') ∧
        (∀ x ∈ tr, HandlesAccounted x.after) ∧ ∀ m, w'.initialised.count m = w'.closed.count m := by
  have hcheck : passes (fun run => decide (∀ x ∈ run.1, Accepted scriptedHost x.before x.label))
      (replay (dllStep scriptedHost 8) [.connect .sample, .disconnect 0, .connect .sample]
        (attach (Server.fresh []))) = true := by
    decide +kernel
  obtain ⟨tr, w, hrun, hcheck⟩ := Run.of_passes hcheck
  have hdetach := run_detach scriptedHost w
  exact ⟨tr, w, _, hrun, hdetach, (handles_closedOnce_iff hrun hdetach).mpr (of_decide_eq_true hcheck)⟩

/-- The handle of a refused connection is never closed. -/
theorem refusedHandle_not_closed :
    ∃ (tr : List (Called Server)) (w w' : World Server),
      DllRun scriptedHost 8 (Server.fresh []) tr w ∧ (∀ x ∈ tr, OnLiveId x.before.dll x.label) ∧
        (detach scriptedHost).run w = .ok ((), w') ∧ w'.initialised = [⟨0⟩] ∧ w'.closed = [] ∧
          ¬ ((∀ x ∈ tr, HandlesAccounted x.after) ∧
            ∀ m, w'.initialised.count m = w'.closed.count m) := by
  have hcheck : passes (fun run => decide ((∀ x ∈ run.1, OnLiveId x.before.dll x.label) ∧
      passes (fun w' => decide (w'.2.initialised = [⟨0⟩] ∧ w'.2.closed = []))
        ((detach scriptedHost).run run.2) = true))
      (replay (dllStep scriptedHost 8) [.connect .anonymous] (attach (Server.fresh []))) = true := by
    decide +kernel
  obtain ⟨tr, w, hrun, hcheck⟩ := Run.of_passes hcheck
  obtain ⟨hlive, hdetached⟩ := of_decide_eq_true hcheck
  obtain ⟨⟨⟨⟩, w'⟩, hdetach, hlists⟩ := exists_of_passes hdetached
  obtain ⟨hinitialised, hclosed⟩ : w'.initialised = [⟨0⟩] ∧ w'.closed = [] := of_decide_eq_true hlists
  refine ⟨tr, w, w', hrun, hlive, hdetach, hinitialised, hclosed, ?_⟩
  rintro ⟨-, hcounts⟩
  have hone := hcounts ⟨0⟩
  rw [hinitialised, hclosed] at hone
  simp at hone

end MqlMySql
