import MqlMySql.Spec.Results

/-!
# Who owns the result sets

Every open cursor has a record set of its own, which the library handed out and which was not released since.
Like the ownership of the handles, this needs the library to hand out only result sets which are not
unreleased. The result set which `cMySqlExecute` frees twice is its own, so no cursor loses one by it.
-/

namespace MqlMySql

open Library

variable {σ : Type} {host : Host σ} {w w' : World σ}

/-- Every open cursor has an unreleased record set of its own. -/
structure OwnsResults (w : World σ) : Prop where
  stored : ∀ k c, w.registry.cursors k = some c → c.2 ≠ none
  owned : Owned w.registry.results w.transfers

/-- Nobody owns a result set at process attach. -/
theorem OwnsResults.attached (library : σ) : OwnsResults (attach library) where
  stored k c hc := by simp [Registry.empty] at hc
  owned := by
    apply Owned.start
    intro k
    simp [Registry.results, Registry.empty]

/-- The turns of the result loop keep what is owned. -/
theorem owned_passed {t : Occupancy maxCursors MysqlRes} {log : List (Transfer MysqlRes)}
    {l : List (Option MysqlRes)} (h : Owned t log) (fresh : FreshLog (l.flatMap passed ++ log)) :
    Owned t (l.flatMap passed ++ log) := by
  induction l with
  | nil => exact h
  | cons res l ih =>
    rw [List.flatMap_cons, List.append_assoc] at fresh ⊢
    have hrest := ih fresh.past
    cases res with
    | none => exact hrest
    | some res => exact (hrest.obtain res).release (hrest.ne_of_fresh fresh.1)

/-- Executing a query keeps what is owned. -/
theorem ExecuteOutcome.owned {turns : ℕ} {p : ℤ} {q : WStr} {b : Bool}
    (h : ExecuteOutcome host turns p q w b w') {t : Occupancy maxCursors MysqlRes}
    (owned : Owned t w.transfers) (fresh : FreshLog w'.transfers) : Owned t w'.transfers := by
  rcases h.transfers with hsame | ⟨used, rSet, l, hmade⟩
  · rw [hsame]
    exact owned
  · rw [hmade] at fresh ⊢
    have hused : Owned t ((used.map Transfer.obtained).toList ++ w.transfers) := by
      cases used with
      | none => exact owned
      | some res => exact owned.obtain res
    have hlast := owned_passed hused (l := rSet :: l) (by simpa using fresh.past)
    rw [List.flatMap_cons, List.append_assoc] at hlast
    cases rSet with
    | none => exact hlast
    | some res =>
      -- the last turn has released it already
      apply hlast.release
      apply hlast.ne_of_fresh
      simp [passed, unreleased]

/-- The registry keeps its record sets. -/
theorem OwnsResults.of_cursors (h : OwnsResults w)
    (cursors : w'.registry.cursors = w.registry.cursors)
    (owned : Owned w.registry.results w'.transfers) : OwnsResults w' where
  stored := by
    rw [cursors]
    exact h.stored
  owned := by
    have hresults : w'.registry.results = w.registry.results := by
      funext k
      rw [Registry.results, cursors, Registry.results]
    rw [hresults]
    exact owned

/-- Opening a cursor. -/
theorem OpenOutcome.ownsResults {p r : ℤ} {q : WStr} (h : OpenOutcome host p q w r w')
    (inv : OwnsResults w) (fresh : FreshLog w'.transfers) : OwnsResults w' := by
  rcases h.transfers with ⟨k, res, -, -, hregistry, hmade⟩ | ⟨hregistry, hsame⟩
  · rw [hmade] at fresh
    constructor
    · intro j c hj
      simp only [hregistry, Registry.openCursor] at hj
      by_cases hjk : j = k
      · subst hjk
        rw [Function.update_self, Option.some.injEq] at hj
        simp [← hj]
      · rw [Function.update_of_ne hjk] at hj
        exact inv.stored j c hj
    · rw [hregistry, Registry.results_openCursor, hmade]
      exact inv.owned.take fresh.1 k
  · apply inv.of_cursors (congrArg Registry.cursors hregistry)
    rw [hsame]
    exact inv.owned

/-- Closing a cursor. -/
theorem CloseOutcome.ownsResults {p : ℤ} (h : CloseOutcome host p w w') (inv : OwnsResults w) :
    OwnsResults w' := by
  rcases h.transfers with ⟨k, c, -, hc, hregistry, hmade⟩ | ⟨hregistry, hsame⟩
  · obtain ⟨res, hres⟩ := Option.ne_none_iff_exists'.mp (inv.stored k c hc)
    have hheld : w.registry.results k = some res := by simp [Registry.results, hc, hres]
    constructor
    · intro j d hj
      simp only [hregistry, Registry.closeCursor] at hj
      have hjk : j ≠ k := by
        rintro rfl
        simp at hj
      rw [Function.update_of_ne hjk] at hj
      exact inv.stored j d hj
    · rw [hregistry, Registry.results_closeCursor, hmade, hres]
      exact inv.owned.drop hheld
  · apply inv.of_cursors (congrArg Registry.cursors hregistry)
    rw [hsame]
    exact inv.owned

/-- As long as the library hands out fresh result sets, every open cursor owns one. -/
theorem OwnsResults.step {turns : ℕ} {e : Exported} {r : e.Reply} (inv : OwnsResults w)
    (h : (call host turns e).run w = .ok (r, w')) (fresh : FreshLog w'.transfers) : OwnsResults w' := by
  cases e with
  | execute p q =>
    exact inv.of_cursors ((call_refines host h).cursors trivial)
      ((cMySqlExecute_outcome host h).owned inv.owned fresh)
  | cursorOpen p q => exact (cMySqlCursorOpen_outcome host h).ownsResults inv fresh
  | cursorClose p => exact (cMySqlCursorClose_outcome host h).ownsResults inv
  | _ =>
    apply inv.of_cursors ((call_refines host h).cursors trivial)
    rw [call_transfers h trivial (by simp)]
    exact inv.owned

end MqlMySql
