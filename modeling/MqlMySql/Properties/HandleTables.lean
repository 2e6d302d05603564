import MqlMySql.Spec.ResultOwners
import MqlMySql.Spec.Server
import MqlMySql.Spec.Settlement
import MqlMySql.Spec.SlotIds

/-!
# The two tables over whole runs

In every reachable state the slots carry their own numbers, the live connections have handles of their own and
the open cursors record sets of their own. A connect or an open is turned away for lack of a slot exactly when
there is none, a failed one registers nothing, and process detach gives back what the tables hold, once.
-/

namespace MqlMySql

open Library

variable {σ : Type} {host : Host σ} {turns : ℕ} {w w' : World σ}

/-- Both tables are well formed. -/
structure WellFormed (w : World σ) : Prop where
  ids : SlotIds w.dll
  handles : OwnsHandles w
  results : OwnsResults w

/-- Process detach closed each live handle and freed each open record set once, and nothing else, and both
tables are empty. -/
structure GivesBack (w w' : World σ) : Prop where
  closed : ∀ m, w'.closed.count m =
    w.closed.count m + if ∃ i, w.registry.handles i = some m then 1 else 0
  released : ∀ r, w'.released.count r =
    w.released.count r + if ∃ k, w.registry.results k = some r then 1 else 0
  emptied : w'.registry = Registry.empty

/-- Every call keeps the tables well formed, as long as the pointers are fresh. -/
theorem WellFormed.step {e : Exported} {r : e.Reply} (inv : WellFormed w)
    (h : (call host turns e).run w = .ok (r, w')) (handles : FreshHandles w'.lifecycle)
    (results : FreshLog w'.transfers) : WellFormed w' where
  ids := inv.ids.step h
  handles := inv.handles.step (call_handleStep h) handles
  results := inv.results.step h results

theorem WellFormed.attached (library : σ) : WellFormed (attach library) where
  ids := SlotIds.attached library
  handles := OwnsHandles.attached library
  results := OwnsResults.attached library

/-- The tables are well formed after every run with fresh pointers. -/
theorem WellFormed.of_run {library : σ} {tr : List (Called σ)} (h : DllRun host turns library tr w)
    (handles : FreshHandles w.lifecycle) (results : FreshLog w.transfers) : WellFormed w := by
  apply Run.reverse_induction
    (motive := fun _ w => FreshHandles w.lifecycle → FreshLog w.transfers → WellFormed w) _ _ h handles
    results
  · intro _ _
    exact WellFormed.attached library
  · intro past x _ ih hx hhandles hresults
    obtain ⟨made, hmade⟩ := call_transfers_grow hx
    have hpast := ih ((call_handleStep hx).fresh hhandles) (FreshLog.past (hmade ▸ hresults))
    exact hpast.step hx hhandles hresults

/-- There is no free connection slot exactly when all are live. -/
theorem getNewConnectionId_eq_neg_one_iff {w : World σ} :
    getNewConnectionId w.dll = -1 ↔ ∀ i, w.registry.connections i ≠ none := by
  rw [getNewConnectionId, firstSlot_eq_neg_one_iff]
  apply forall_congr'
  intro i
  rw [decide_eq_false_iff_not, Ne, World.registry, Dll.registry_connections_eq_none]

/-- There is no free cursor slot exactly when all are open. -/
theorem getNewCursorId_eq_neg_one_iff {w : World σ} :
    getNewCursorId w.dll = -1 ↔ ∀ k, w.registry.cursors k ≠ none := by
  rw [getNewCursorId, firstSlot_eq_neg_one_iff]
  apply forall_congr'
  intro k
  rw [decide_eq_false_iff_not, Ne, World.registry, Dll.registry_cursors_eq_none]

/-- Connecting fails for lack of a slot exactly when all are live. -/
theorem connect_full_iff {c : Credentials} :
    (∃ w', (cMySqlConnect host c).run w = .ok (-1, w') ∧ cGetMySqlErrorNumber (-1) w'.dll = -3) ↔
      ∀ i, w.registry.connections i ≠ none := by
  rw [← getNewConnectionId_eq_neg_one_iff]
  constructor
  · rintro ⟨w', hrun, hnumber⟩
    rw [cGetMySqlErrorNumber_of_dead liveConnection_neg_one] at hnumber
    have hout := cMySqlConnect_outcome host hrun
    generalize hr : (-1 : ℤ) = r at hout
    cases hout with
    | full none_free => exact none_free
    | unallocated => simp at hnumber
    | refused => simp at hnumber
    | connected i => omega
  · intro hfull
    have hsame : getNewConnectionId (w.dll.setMySqlError 0 "No errors.") = getNewConnectionId w.dll :=
      getNewConnectionId_congr fun _ => rfl
    simp [cMySqlConnect, hsame, hfull, cGetMySqlErrorNumber_of_dead liveConnection_neg_one]

/-- Opening a cursor on a live connection fails for lack of a slot exactly when all are open. -/
theorem cursorOpen_full_iff {p : ℤ} {q : WStr} (live : w.dll.liveConnection p ≠ none) :
    (∃ w', (cMySqlCursorOpen host p q).run w = .ok (-1, w') ∧ cGetMySqlErrorNumber p w'.dll = -3) ↔
      ∀ k, w.registry.cursors k ≠ none := by
  rw [← getNewCursorId_eq_neg_one_iff]
  obtain ⟨i, rfl, -⟩ := exists_slot_of_live live
  constructor
  · rintro ⟨w', hrun, hnumber⟩
    have hout := cMySqlCursorOpen_outcome host hrun
    rw [number_of_registry live ((hout.step host).connections trivial)] at hnumber
    generalize hr : (-1 : ℤ) = r at hout
    cases hout with
    | noConnection hp => exact absurd hp (val_ne_neg_one i)
    | full j hp none_free => exact none_free
    | opened j hp k => omega
    | refused j hp k free store =>
      obtain rfl : i = j := Fin.ext (by omega)
      simp [World.blamed] at hnumber
    | undecided j hp k => omega
  · intro hfull
    have hrun : (cMySqlCursorOpen host i.val q).run w = .ok (-1, w.onDll fun d =>
        (clearCursorErrors (-1) (clearErrors i.val d)).setConnectionError i (-3)
          "Maximum number of opened cursors was exceeded.") := by
      simp [cMySqlCursorOpen, val_ne_neg_one, getNewCursorId_cleared, hfull, -clearCursorErrors_neg_one,
        -clearErrors_val]
      rfl
    refine ⟨_, hrun, ?_⟩
    rw [number_of_registry live (by simp)]
    simp

/-- No two live connections have the same handle. -/
theorem OwnsHandles.handles_distinct (h : OwnsHandles w) : w.registry.handles.Distinct := by
  intro i j m hi hj
  rw [Registry.handles, Option.bind_eq_some_iff] at hi hj
  obtain ⟨_, hi, rfl⟩ := hi
  obtain ⟨_, hj, rfl⟩ := hj
  exact h.distinct i j _ hi hj

/-- Process detach gives back what well-formed tables hold. -/
theorem WellFormed.givesBack (inv : WellFormed w) : GivesBack w (w.detached host) := by
  have hsettles := Settles.detached host w
  have hregistry := World.detached_registry host w
  have hhandles : ∀ i, (w.detached host).registry.handles i = none := by
    intro i
    simp [Registry.handles, hregistry, Registry.empty]
  have hresults : ∀ k, (w.detached host).registry.results k = none := by
    intro k
    simp [Registry.results, hregistry, Registry.empty]
  constructor
  · intro m
    rw [← due_empty hhandles, hsettles.closed, due, inv.handles.handles_distinct.count_eq]
  · intro r
    rw [← due_empty hresults, hsettles.released, due, inv.results.owned.distinct.count_eq]
  · exact hregistry

/-- A connect which fails registers nothing. -/
theorem ConnectOutcome.registry_of_failed {c : Credentials} (h : ConnectOutcome host c w (-1) w') :
    w'.registry = w.registry := by
  rcases h.taken with ⟨-, hsame⟩ | ⟨i, m, hr, -⟩
  · exact hsame
  · exact absurd hr.symm (val_ne_neg_one i)

/-- An open which fails registers nothing. -/
theorem OpenOutcome.registry_of_failed {p : ℤ} {q : WStr} (h : OpenOutcome host p q w (-1) w') :
    w'.registry = w.registry := by
  rcases h.transfers with ⟨k, res, hr, -⟩ | ⟨hsame, -⟩
  · exact absurd hr.symm (val_ne_neg_one k)
  · exact hsame

/-- After every run from process attach in which the library hands out fresh pointers, the tables are well
formed; a connect or an open fails for lack of a slot exactly when there is none, a failed one registers
nothing, and process detach gives back what the tables hold. -/
theorem tables_wellFormed {library : σ} {tr : List (Called σ)} (h : DllRun host turns library tr w)
    (freshHandles : FreshHandles w.lifecycle) (freshResults : FreshLog w.transfers) :
    WellFormed w ∧
      (∀ c, ((∃ w', (cMySqlConnect host c).run w = .ok (-1, w') ∧
          cGetMySqlErrorNumber (-1) w'.dll = -3) ↔ ∀ i, w.registry.connections i ≠ none) ∧
        ∀ w', (cMySqlConnect host c).run w = .ok (-1, w') → w'.registry = w.registry) ∧
      (∀ p q, (w.dll.liveConnection p ≠ none →
          ((∃ w', (cMySqlCursorOpen host p q).run w = .ok (-1, w') ∧
            cGetMySqlErrorNumber p w'.dll = -3) ↔ ∀ k, w.registry.cursors k ≠ none)) ∧
        ∀ w', (cMySqlCursorOpen host p q).run w = .ok (-1, w') → w'.registry = w.registry) ∧
      ∃ w', (detach host).run w = .ok ((), w') ∧ GivesBack w w' := by
  have hwell := WellFormed.of_run h freshHandles freshResults
  refine ⟨hwell, fun c => ⟨connect_full_iff, ?_⟩, fun p q => ⟨cursorOpen_full_iff, ?_⟩, ?_⟩
  · intro w' hrun
    exact (cMySqlConnect_outcome host hrun).registry_of_failed
  · intro w' hrun
    exact (cMySqlCursorOpen_outcome host hrun).registry_of_failed
  · exact ⟨w.detached host, run_detach host w, hwell.givesBack⟩

/-- A connection with an open cursor. -/
theorem tables_wellFormed_sample :
    ∃ (tr : List (Called Server)) (w : World Server),
      DllRun scriptedHost 8 (Server.fresh [.ofResultSet]) tr w ∧ w.registry.results.count ⟨0⟩ = 1 ∧
        WellFormed w := by
  have hcheck : passes (fun run => decide (FreshHandles run.2.lifecycle ∧ FreshLog run.2.transfers ∧
      run.2.registry.results.count ⟨0⟩ = 1))
      (replay (dllStep scriptedHost 8) [.connect .sample, .cursorOpen 0 [83], .execute 0 [83]]
        (attach (Server.fresh [.ofResultSet]))) = true := by
    decide +kernel
  obtain ⟨tr, w, hrun, hcheck⟩ := Run.of_passes hcheck
  obtain ⟨hhandles, hresults, hcount⟩ := of_decide_eq_true hcheck
  exact ⟨tr, w, hrun, hcount, (tables_wellFormed hrun hhandles hresults).1⟩

end MqlMySql
