import MqlMySql.Spec.Record

/-!
# Who owns the handles

Every live connection stores a handle which the library allocated and has not freed, and no two
store the same. This needs the library to hand out only handles which are not allocated already.
-/

namespace MqlMySql

open Library

variable {σ : Type} {host : Host σ}

/-- The handles which are allocated after a record of calls, most recent call first. -/
def openHandles : List LibraryCall → List Mysql
  | [] => []
  | .init (some m) :: past => m :: openHandles past
  | .close (some m) :: past => (openHandles past).filter (· ≠ m)
  | _ :: past => openHandles past

/-- Every handle was free when `mysql_init` returned it. -/
def FreshHandles : List LibraryCall → Prop
  | [] => True
  | .init (some m) :: past => m ∉ openHandles past ∧ FreshHandles past
  | _ :: past => FreshHandles past

instance decidableFreshHandles : (calls : List LibraryCall) → Decidable (FreshHandles calls)
  | [] => isTrue trivial
  | .init (some m) :: past =>
    have := decidableFreshHandles past
    inferInstanceAs (Decidable (m ∉ openHandles past ∧ FreshHandles past))
  | .init none :: past | .realConnect _ _ _ :: past | .close _ :: past
  | .realQuery _ _ _ :: past | .errno _ :: past | .error _ :: past | .useResult _ _ :: past
  | .storeResult _ _ :: past | .moreResults _ :: past | .nextResult _ :: past
  | .affectedRows _ :: past | .freeResult _ :: past | .numRows _ :: past | .numFields _ :: past
  | .fetchRow _ _ :: past | .rowField _ _ :: past => decidableFreshHandles past

/-- Every live connection has an allocated handle of its own. -/
structure OwnsHandles (w : World σ) : Prop where
  allocated : ∀ i h, w.registry.connections i = some h →
    ∃ m, h = some m ∧ m ∈ openHandles w.lifecycle
  distinct : w.registry.connections.Distinct

/-- What one call does to the registered connections and to the handles. -/
inductive HandleStep (e : Exported) (w w' : World σ) : Prop
  | kept (connections : w'.registry.connections = w.registry.connections)
      (lifecycle : w'.lifecycle = w.lifecycle)
  | leaked (connections : w'.registry.connections = w.registry.connections)
      (answer : Option Mysql) (lifecycle : w'.lifecycle = .init answer :: w.lifecycle)
  | taken (i : Fin maxConnections) (m : Mysql) (free : w.registry.connections i = none)
      (connections : w'.registry.connections =
        Function.update w.registry.connections i (some (some m)))
      (lifecycle : w'.lifecycle = .init (some m) :: w.lifecycle)
  | dropped (i : Fin maxConnections) (he : e = .disconnect i.val) (h : Option Mysql)
      (live : w.registry.connections i = some h)
      (connections : w'.registry.connections = Function.update w.registry.connections i none)
      (lifecycle : w'.lifecycle = .close h :: w.lifecycle)

/-- A connect that succeeds puts one handle into its slot, and a refused one leaves a handle nowhere. -/
theorem ConnectOutcome.handleStep {c : Credentials} {r : ℤ} {w w' : World σ}
    (h : ConnectOutcome host c w r w') : HandleStep (.connect c) w w' := by
  cases h with
  | full none_free => exact .kept (by simp) rfl
  | unallocated answer =>
    refine .leaked (by simp) none ?_
    simp [World.lifecycle, List.filter_cons, LibraryCall.isLifecycle, answer]
  | refused i free mysql allocated answer =>
    refine .leaked (by simp [World.asked_registry host c mysql free]) (some mysql) ?_
    simp [World.lifecycle, List.filter_cons, LibraryCall.isLifecycle, World.asked, allocated]
  | connected i free mysql allocated answer =>
    refine .taken i mysql
      (w.dll.registry_connections_eq_none.mpr (getNewConnectionId_free free)) ?_ ?_
    · rw [World.connected_registry host c mysql free]
      rfl
    · simp [World.lifecycle, List.filter_cons, LibraryCall.isLifecycle, World.asked, allocated]

/-- A disconnect closes the handle of its slot, and no other. -/
theorem DisconnectOutcome.handleStep {p : ℤ} {w w' : World σ} (h : DisconnectOutcome host p w w') :
    HandleStep (.disconnect p) w w' := by
  cases h with
  | dead dead => exact .kept (by simp) rfl
  | closed i hp live =>
    subst hp
    refine .dropped i rfl (w.handle i) ?_ ?_ ?_
    · simp [World.registry, Dll.registry, live, World.handle]
    · rw [World.onDll_registry, deleteConnection_val, Dll.registry_disconnect]
      simp [Registry.disconnect]
    · simp [World.lifecycle, List.filter_cons, LibraryCall.isLifecycle]

/-- Every exported call which returns is one of the handle steps. -/
theorem call_handleStep {turns : ℕ} {e : Exported} {r : e.Reply} {w w' : World σ}
    (h : (call host turns e).run w = .ok (r, w')) : HandleStep e w w' := by
  have hkept (keeps : Registry.KeepsConnections e) : HandleStep e w w' :=
    .kept ((call_refines host h).connections keeps) (call_lifecycle h keeps)
  cases e with
  | connect c => exact (cMySqlConnect_outcome host h).handleStep
  | disconnect p => exact (cMySqlDisconnect_outcome host h).handleStep
  | _ => exact hkept trivial

/-- As long as the library hands out fresh handles, every live connection owns one. -/
theorem OwnsHandles.step {e : Exported} {w w' : World σ} (h : OwnsHandles w)
    (hstep : HandleStep e w w')
    (fresh : FreshHandles w'.lifecycle) : OwnsHandles w' := by
  cases hstep with
  | kept connections lifecycle =>
    exact ⟨by rw [connections, lifecycle]; exact h.allocated,
      by rw [connections]; exact h.distinct⟩
  | leaked connections answer lifecycle =>
    refine ⟨fun i g hg => ?_, by rw [connections]; exact h.distinct⟩
    rw [connections] at hg
    obtain ⟨m, rfl, hm⟩ := h.allocated i g hg
    refine ⟨m, rfl, ?_⟩
    rw [lifecycle]
    cases answer with
    | none => exact hm
    | some a => exact List.mem_cons_of_mem _ hm
  | taken i m free connections lifecycle =>
    rw [lifecycle] at fresh
    have hnew : ∀ j, w.registry.connections j ≠ some (some m) := by
      intro j hj
      obtain ⟨m', hm', hmem⟩ := h.allocated j _ hj
      cases hm'
      exact fresh.1 hmem
    constructor
    · intro j g hg
      rw [connections] at hg
      rw [lifecycle]
      by_cases hji : j = i
      · subst hji
        rw [Function.update_self, Option.some.injEq] at hg
        exact ⟨m, hg.symm, List.mem_cons_self⟩
      · rw [Function.update_of_ne hji] at hg
        obtain ⟨m', rfl, hm'⟩ := h.allocated j g hg
        exact ⟨m', rfl, List.mem_cons_of_mem _ hm'⟩
    · rw [connections]
      exact Occupancy.Distinct.take h.distinct i hnew
  | dropped i he g live connections lifecycle =>
    constructor
    · intro j g' hg'
      rw [connections] at hg'
      have hji : j ≠ i := by
        rintro rfl
        simp at hg'
      rw [Function.update_of_ne hji] at hg'
      obtain ⟨m', rfl, hm'⟩ := h.allocated j g' hg'
      obtain ⟨m, rfl, hm⟩ := h.allocated i g live
      refine ⟨m', rfl, ?_⟩
      rw [lifecycle, openHandles, List.mem_filter]
      refine ⟨hm', ?_⟩
      rw [decide_eq_true_eq]
      rintro rfl
      exact hji (h.distinct j i _ hg' live)
    · rw [connections]
      exact Occupancy.Distinct.drop h.distinct i

/-- Nobody owns a handle at process attach. -/
theorem OwnsHandles.attached (library : σ) : OwnsHandles (attach library) where
  allocated i h hi := by simp [Registry.empty] at hi
  distinct i j h hi _ := by simp [Registry.empty] at hi

/-- Freshness concerns the whole past. -/
theorem HandleStep.fresh {e : Exported} {w w' : World σ} (hstep : HandleStep e w w')
    (h : FreshHandles w'.lifecycle) : FreshHandles w.lifecycle := by
  cases hstep with
  | kept connections lifecycle => rwa [lifecycle] at h
  | leaked connections answer lifecycle =>
    rw [lifecycle] at h
    cases answer with
    | none => exact h
    | some m => exact h.2
  | taken i m free connections lifecycle =>
    rw [lifecycle] at h
    exact h.2
  | dropped i he g live connections lifecycle =>
    rw [lifecycle] at h
    cases g <;> exact h

/-- If all handles of a run were fresh, they were so up to every step of it. -/
theorem run_fresh {turns : ℕ} {tr : List (Called σ)} {w w' : World σ}
    (h : Run (dllStep host turns) w tr w') (fresh : FreshHandles w'.lifecycle) :
    FreshHandles w.lifecycle ∧ ∀ x ∈ tr, FreshHandles x.after.lifecycle := by
  induction h with
  | nil => exact ⟨fresh, by simp⟩
  | cons head _ ih =>
    obtain ⟨hone, hall⟩ := ih fresh
    refine ⟨(call_handleStep head).fresh hone, fun x hx => ?_⟩
    rcases List.mem_cons.mp hx with rfl | hx
    · exact hone
    · exact hall x hx

end MqlMySql
