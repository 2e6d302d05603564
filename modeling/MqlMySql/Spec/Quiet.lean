import MqlMySql.Spec.Touched

/-!
# When the DLL-wide number is positive

`MySqlExecute` tests the DLL-wide error number. A connect which is refused stores the number of its handle there;
every other call leaves the number, clears it, or writes a negative one. So it is not positive as long as no
connect has failed since the last successful one.
-/

namespace MqlMySql

open Library

variable {σ : Type} {host : Host σ} {turns : ℕ} {w w' : World σ}

/-- Whether the latest connect failed, after one more call. -/
def failedAfter (failed : Bool) : Called σ → Bool
  | ⟨_, .connect _, (r : ℤ), _⟩ => decide (r = -1)
  | _ => failed

/-- No `cMySqlConnect` has failed since the last successful one. -/
def ConnectsSettled (past : List (Called σ)) : Prop := past.foldl failedAfter false = false

instance (past : List (Called σ)) : Decidable (ConnectsSettled past) :=
  inferInstanceAs (Decidable (_ = _))

/-- A call other than `cMySqlConnect` writes negative numbers only. -/
theorem numberSet_neg (e : Exported) : numberSet e < 0 := by
  unfold numberSet
  split
  · split <;> decide
  · split <;> decide
  · decide

/-- A call other than `cMySqlConnect` raises no DLL-wide number. -/
theorem call_number_le {e : Exported} {r : e.Reply} (h : (call host turns e).run w = .ok (r, w'))
    (hne : ∀ c, e ≠ .connect c) (quiet : w.dll.mySqlErrorNumber ≤ 0) : w'.dll.mySqlErrorNumber ≤ 0 := by
  rw [call_number h hne]
  split
  · exact (numberSet_neg e).le
  · exact quiet

/-- A connect which does not fail clears the DLL-wide number. -/
theorem ConnectOutcome.number_of_connected {c : Credentials} {r : ℤ} (h : ConnectOutcome host c w r w')
    (connected : r ≠ -1) : w'.dll.mySqlErrorNumber = 0 := by
  cases h with
  | full => exact absurd rfl connected
  | unallocated => exact absurd rfl connected
  | refused => exact absurd rfl connected
  | connected => simp [World.asked]

/-- The DLL-wide number is positive at most after a connect which failed. -/
theorem call_number_quiet {e : Exported} {r : e.Reply} (h : (call host turns e).run w = .ok (r, w'))
    {failed : Bool} (quiet : failed = false → w.dll.mySqlErrorNumber ≤ 0)
    (settled : failedAfter failed ⟨w, e, r, w'⟩ = false) : w'.dll.mySqlErrorNumber ≤ 0 := by
  cases e with
  | connect c =>
    simp only [failedAfter, decide_eq_false_iff_not] at settled
    exact ((cMySqlConnect_outcome host h).number_of_connected settled).le
  | disconnect | execute | cursorOpen | cursorClose | cursorRows | cursorFetchRow | getRowField
  | rowsAffected | getMySqlErrorNumber | getMySqlErrorDescription | getCursorErrorNumber
  | getCursorErrorDescription => exact call_number_le h (by simp) (quiet settled)

/-- While the connects are settled, the DLL-wide number is not positive. -/
theorem number_quiet_of_settled {library : σ} {tr : List (Called σ)} (h : DllRun host turns library tr w)
    (settled : ConnectsSettled tr) : w.dll.mySqlErrorNumber ≤ 0 := by
  apply Run.reverse_induction
    (motive := fun tr w => ConnectsSettled tr → w.dll.mySqlErrorNumber ≤ 0) _ _ h settled
  · intro _
    exact le_rfl
  · intro past x _ ih hx hsettled
    rw [ConnectsSettled, List.foldl_append] at hsettled
    exact call_number_quiet hx ih hsettled

end MqlMySql
