import MqlMySql.Library.Ledger
import MqlMySql.Spec.Transfers

/-!
# Where the result sets are

A result set which the library handed out is either passed to `mysql_free_result` again, or held by an
open cursor. A world is balanced when, for every result set, these add up; here is what the calls do to
this balance.
-/

namespace MqlMySql

open Library

/-- The result set which a library call handed out. -/
def LibraryCall.obtains : LibraryCall → Option MysqlRes
  | .useResult _ answer | .storeResult _ answer => answer
  | _ => none

/-- The result set which a library call released. -/
def LibraryCall.releases : LibraryCall → Option MysqlRes
  | .freeResult res => res
  | _ => none

/-- The record sets which the open cursors hold. -/
def Registry.results (t : Registry) : Occupancy maxCursors MysqlRes :=
  fun k => (t.cursors k).bind Prod.snd

/-- Emptying the slot of a cursor empties it for its record set. -/
theorem Registry.results_closeCursor (t : Registry) (k : Fin maxCursors) :
    (t.closeCursor k).results = Function.update t.results k none := by
  funext j
  by_cases hjk : j = k
  · simp [Registry.results, Registry.closeCursor, hjk]
  · simp [Registry.results, Registry.closeCursor, hjk]

/-- Filling the slot of a cursor fills it with its record set. -/
theorem Registry.results_openCursor (t : Registry) (k : Fin maxCursors) (p : ℤ) (res : MysqlRes) :
    (t.openCursor k p res).results = Function.update t.results k (some res) := by
  funext j
  by_cases hjk : j = k
  · simp [Registry.results, Registry.openCursor, hjk]
  · simp [Registry.results, Registry.openCursor, hjk]

/-- Apart from opening, only closing changes the record sets held, and it empties one slot. -/
theorem Registry.Step.results_cases {e : Exported} {r : e.Reply} {t t' : Registry}
    (h : Registry.Step e r t t') (hopen : ∀ p q, e ≠ .cursorOpen p q) :
    (∃ k : Fin maxCursors, e = .cursorClose k.val ∧ t'.results = Function.update t.results k none) ∨
      t'.results = t.results ∧ ∀ k : Fin maxCursors, e = .cursorClose k.val → t.results k = none := by
  cases h with
  | opened => exact absurd rfl (hopen _ _)
  | closed k => exact Or.inl ⟨k, rfl, t.results_closeCursor k⟩
  | notClosed shut =>
    refine Or.inr ⟨rfl, ?_⟩
    intro k hk
    rw [Registry.results, shut k (Exported.cursorClose.inj hk), Option.bind_none]
  | kept r keeps =>
    refine Or.inr ⟨rfl, ?_⟩
    intro k hk
    subst hk
    cases keeps
  | _ => exact Or.inr ⟨rfl, by simp⟩

variable {σ : Type}

/-- The result sets handed out so far. -/
def World.obtained (w : World σ) : List MysqlRes := w.calls.filterMap LibraryCall.obtains

/-- The result sets released so far. -/
def World.released (w : World σ) : List MysqlRes := w.calls.filterMap LibraryCall.releases

/-- Every result set which was handed out was released or is held by an open cursor. -/
def Balanced (w : World σ) : Prop :=
  ∀ r, w.obtained.count r = w.released.count r + w.registry.results.count r

/-- Both lists can be read off the transfers. -/
theorem World.obtained_eq (w : World σ) : w.obtained = w.transfers.filterMap Transfer.gain := by
  rw [World.obtained, World.transfers, List.filterMap_filterMap]
  congr 1
  funext c
  cases c with
  | useResult m answer | storeResult m answer => cases answer <;> rfl
  | freeResult res => cases res <;> rfl
  | _ => rfl

/-- What was released are the losses among the transfers. -/
theorem World.released_eq (w : World σ) : w.released = w.transfers.filterMap Transfer.loss := by
  rw [World.released, World.transfers, List.filterMap_filterMap]
  congr 1
  funext c
  cases c with
  | useResult m answer | storeResult m answer => cases answer <;> rfl
  | freeResult res => cases res <;> rfl
  | _ => rfl

section Projections

variable {α : Type} (w : World σ) (g : Dll → Dll) (f : σ → α × σ) (record : α → LibraryCall)
  (h : σ → σ) (c : LibraryCall)

@[simp] theorem World.onDll_obtained : (w.onDll g).obtained = w.obtained := rfl
@[simp] theorem World.onDll_released : (w.onDll g).released = w.released := rfl
@[simp] theorem World.performed_obtained : (w.performed f record).obtained =
    (record (f w.library).1).obtains.toList ++ w.obtained := by
  cases hc : (record (f w.library).1).obtains <;> simp [World.obtained, hc]
@[simp] theorem World.performed_released : (w.performed f record).released =
    (record (f w.library).1).releases.toList ++ w.released := by
  cases hc : (record (f w.library).1).releases <;> simp [World.released, hc]
@[simp] theorem World.inspected_obtained :
    (w.inspected c).obtained = c.obtains.toList ++ w.obtained := by
  cases hc : c.obtains <;> simp [World.obtained, hc]
@[simp] theorem World.inspected_released :
    (w.inspected c).released = c.releases.toList ++ w.released := by
  cases hc : c.releases <;> simp [World.released, hc]
@[simp] theorem World.commanded_obtained :
    (w.commanded h c).obtained = c.obtains.toList ++ w.obtained := by
  cases hc : c.obtains <;> simp [World.obtained, hc]
@[simp] theorem World.commanded_released :
    (w.commanded h c).released = c.releases.toList ++ w.released := by
  cases hc : c.releases <;> simp [World.released, hc]

end Projections

attribute [simp] LibraryCall.obtains LibraryCall.releases

variable {host : Host σ} {w w' : World σ}

/-- Two worlds between which no result set was handed out or released. -/
structure SameResultSets (w w' : World σ) : Prop where
  obtained : w'.obtained = w.obtained
  released : w'.released = w.released

/-- Nothing changed hands. -/
theorem SameResultSets.of_transfers (h : w'.transfers = w.transfers) : SameResultSets w w' where
  obtained := by rw [w'.obtained_eq, h, ← w.obtained_eq]
  released := by rw [w'.released_eq, h, ← w.released_eq]

/-- At process attach nothing was handed out. -/
theorem Balanced.attached (library : σ) : Balanced (attach library) := by
  have hempty : ∀ k, (attach library).registry.results k = none := by
    intro k
    simp [Registry.results, Registry.empty]
  intro r
  rw [Occupancy.count_empty hempty]
  rfl

/-- A world stays balanced when neither the lists nor the cursors change. -/
theorem Balanced.of_same (h : Balanced w) (same : SameResultSets w w')
    (cursors : w'.registry.cursors = w.registry.cursors) : Balanced w' := by
  have hresults : w'.registry.results = w.registry.results := by
    funext k
    simp only [Registry.results, cursors]
  intro r
  rw [same.obtained, same.released, h r, hresults]

variable (host) in
/-- Sending a query hands out no result set and releases none. -/
theorem World.sent_resultSets (i : Fin maxConnections) (q : WStr) (w : World σ) :
    SameResultSets w (w.sent host i q) :=
  SameResultSets.of_transfers (World.sent_transfers host i q w)

/-- As many result sets are gained as are lost. -/
theorem gain_passed (l : List (Option MysqlRes)) :
    (l.flatMap passed).filterMap Transfer.gain = (l.flatMap passed).filterMap Transfer.loss := by
  induction l with
  | nil => rfl
  | cons res l ih =>
    rw [List.flatMap_cons, List.filterMap_append, List.filterMap_append, ih]
    cases res <;> rfl

/-- The result loop releases what it obtained. -/
theorem drainResults_resultSets {mysql : Option Mysql} {turns : ℕ} {rSet : Option MysqlRes}
    (h : (drainResults host mysql turns).run w = .ok (rSet, w')) :
    ∃ l, w'.obtained = l ++ w.obtained ∧ w'.released = l ++ w.released := by
  obtain ⟨l, hl⟩ := drainResults_transfers h
  rw [← List.append_assoc, ← List.flatMap_cons] at hl
  refine ⟨((rSet :: l).flatMap passed).filterMap Transfer.gain, ?_, ?_⟩
  · rw [w'.obtained_eq, hl, List.filterMap_append, ← w.obtained_eq]
  · rw [w'.released_eq, hl, List.filterMap_append, ← w.released_eq, gain_passed]

/-- Executing keeps the balance when `mysql_use_result` hands out nothing and the loop is left without
a result set. -/
theorem ExecuteOutcome.balanced {turns : ℕ} {p : ℤ} {q : WStr} {b : Bool}
    (h : ExecuteOutcome host turns p q w b w') (inv : Balanced w)
    (use : ∀ i : Fin maxConnections, p = i.val → QueryFits q → w.dll.mySqlErrorNumber ≤ 0 →
      (host.mysqlUseResult (w.handle i) (w.sent host i q).library).1 = none)
    (last : ∀ (i : Fin maxConnections) rSet w₂, p = i.val → QueryFits q →
      w.dll.mySqlErrorNumber ≤ 0 → (drainResults host (w.handle i) turns).run
        ((w.sent host i q).used host i) = .ok (rSet, w₂) → rSet = none) : Balanced w' := by
  have hregistry := congrArg Registry.cursors (h.registry host)
  have hdrained {i : Fin maxConnections} {rSet : Option MysqlRes} {w₂ : World σ} (hp : p = i.val)
      (fits : QueryFits q) (quiet : w.dll.mySqlErrorNumber ≤ 0)
      (drained : (drainResults host (w.handle i) turns).run ((w.sent host i q).used host i) =
        .ok (rSet, w₂)) :
      rSet = none ∧ ∃ l, w₂.obtained = l ++ w.obtained ∧ w₂.released = l ++ w.released := by
    refine ⟨last i rSet w₂ hp fits quiet drained, ?_⟩
    obtain ⟨l, hl, hl'⟩ := drainResults_resultSets drained
    have hsent := World.sent_resultSets host i q w
    refine ⟨l, ?_, ?_⟩
    · rw [hl]
      simp [World.used, use i hp fits quiet, hsent.obtained]
    · rw [hl']
      simp [World.used, hsent.released]
  have hbalance {u : World σ} (l : List MysqlRes) (hl : u.obtained = l ++ w.obtained)
      (hl' : u.released = l ++ w.released) (hu : u.registry.cursors = w.registry.cursors) :
      Balanced u := by
    have hresults : u.registry.results = w.registry.results := by
      funext k
      simp only [Registry.results, hu]
    rw [Balanced, hl, hl', hresults]
    exact Accounted.pass inv l
  cases h with
  | rejected query => exact inv.of_same (SameResultSets.of_transfers query.transfers) hregistry
  | failed i hp fits quiet drained =>
    obtain ⟨rfl, l, hl, hl'⟩ := hdrained hp fits quiet drained
    exact hbalance l (by simp [hl]) (by simp [hl']) hregistry
  | succeeded i hp fits quiet drained =>
    obtain ⟨rfl, l, hl, hl'⟩ := hdrained hp fits quiet drained
    exact hbalance l (by simp [hl]) (by simp [hl']) hregistry

/-- Opening a cursor keeps the balance. -/
theorem OpenOutcome.balanced {p r : ℤ} {q : WStr} (h : OpenOutcome host p q w r w')
    (inv : Balanced w) : Balanced w' := by
  rcases h.transfers with ⟨k, res, -, free, hregistry, hmade⟩ | ⟨hregistry, hsame⟩
  · have hnone : w.registry.results k = none := by rw [Registry.results, free, Option.bind_none]
    have hobtained : w'.obtained = res :: w.obtained := by
      rw [w'.obtained_eq, hmade, w.obtained_eq]
      rfl
    have hreleased : w'.released = w.released := by
      rw [w'.released_eq, hmade, w.released_eq]
      rfl
    rw [Balanced, hregistry, Registry.results_openCursor, hobtained, hreleased]
    exact Accounted.take inv hnone
  · exact inv.of_same (SameResultSets.of_transfers hsame) (congrArg Registry.cursors hregistry)

/-- Closing a cursor keeps the balance. -/
theorem CloseOutcome.balanced {p : ℤ} (h : CloseOutcome host p w w') (inv : Balanced w) :
    Balanced w' := by
  rcases h.transfers with ⟨k, c, -, hc, hregistry, hmade⟩ | ⟨hregistry, hsame⟩
  · have hheld : w.registry.results k = c.2 := by simp [Registry.results, hc]
    have hobtained : w'.obtained = w.obtained := by
      rw [w'.obtained_eq, hmade, w.obtained_eq]
      cases c.2 <;> rfl
    have hreleased : w'.released = c.2.toList ++ w.released := by
      rw [w'.released_eq, hmade, w.released_eq]
      cases c.2 <;> rfl
    rw [Balanced, hregistry, Registry.results_closeCursor, hobtained, hreleased]
    exact Accounted.drop inv hheld
  · exact inv.of_same (SameResultSets.of_transfers hsame) (congrArg Registry.cursors hregistry)

end MqlMySql
