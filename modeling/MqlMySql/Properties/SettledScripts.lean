import MqlMySql.Library.Lending
import MqlMySql.Spec.Loans
import MqlMySql.Spec.Refinement
import MqlMySql.Spec.Shelf

/-!
# The example scripts leave nothing behind

Any number of programs run any of the example scripts, one after the other and side by side, so that their calls are
interleaved in any order, with any library. They may even close each other's cursors, when an id was handed out
without its slot being taken. Still, what was registered before they started stays registered, and when all of them
have come to their ends the tables are as they were.
-/

namespace MqlMySql

open Library

variable {T σ : Type} [DecidableEq T] {mql : Mql} {host : Host σ} {turns : ℕ} {w : World σ}

/-- The tables are on loan to the programs. -/
structure OnLoan (base now : Registry) (phase : T → Option Held) : Prop where
  connections : Lent base.connections now.connections fun t => (held (phase t)).connections
  cursors : Lent base.cursors now.cursors fun t => (held (phase t)).cursors

variable {base now now' : Registry} {phase : T → Option Held} {t : T}

/-- The debts after one program has moved on. -/
theorem held_update (f : Held → Debts) (q : Option Held) :
    (fun u => f (held (Function.update phase t q u))) = Function.update (fun u => f (held (phase u))) t (f (held q)) :=
  Function.comp_update (fun q => f (held q)) phase t q

/-- A call which opens and closes no connection. -/
theorem Held.after_connections {h : Held} {e : Exported} (keeps : Registry.KeepsConnections e) (r : e.Reply) :
    (h.after e r).connections = h.connections := by
  cases e with
  | connect | disconnect => cases keeps
  | _ => rfl

/-- A call which opens and closes no cursor. -/
theorem Held.after_cursors {h : Held} {e : Exported} (keeps : Registry.KeepsCursors e) (r : e.Reply) :
    (h.after e r).cursors = h.cursors := by
  cases e with
  | cursorOpen | cursorClose => cases keeps
  | _ => rfl

/-- A call which a script may make keeps the connections on loan. -/
theorem OnLoan.step_connections (h : OnLoan base now phase) {e : Exported} {r : e.Reply}
    (may : (held (phase t)).May e) (step : Registry.Step e r now now') :
    Lent base.connections now'.connections
      (Function.update (fun u => (held (phase u)).connections) t ((held (phase t)).after e r).connections) := by
  have kept (keeps : Registry.KeepsConnections e) : Lent base.connections now'.connections
      (Function.update (fun u => (held (phase u)).connections) t ((held (phase t)).after e r).connections) := by
    rw [Held.after_connections keeps, step.connections keeps, Function.update_eq_self]
    exact h.connections
  cases e with
  | connect c =>
    cases step with
    | connected i mysql free => exact h.connections.tell free _
    | notConnected => exact h.connections.tell_neg (p := -1) (by decide)
    | kept r keeps => cases keeps
  | disconnect p =>
    rcases step.disconnect_cases with ⟨i, rfl, -, rfl⟩ | ⟨dead, rfl⟩
    · exact h.connections.give may
    · exact h.connections.give_free dead
  | _ => exact kept trivial

/-- And the cursors; an id of which the slot was not taken is on loan all the same. -/
theorem OnLoan.step_cursors (h : OnLoan base now phase) {e : Exported} {r : e.Reply}
    (may : (held (phase t)).May e) (step : Registry.Step e r now now') :
    Lent base.cursors now'.cursors
      (Function.update (fun u => (held (phase u)).cursors) t ((held (phase t)).after e r).cursors) := by
  have kept (keeps : Registry.KeepsCursors e) : Lent base.cursors now'.cursors
      (Function.update (fun u => (held (phase u)).cursors) t ((held (phase t)).after e r).cursors) := by
    rw [Held.after_cursors keeps, step.cursors keeps, Function.update_eq_self]
    exact h.cursors
  cases e with
  | cursorOpen p q =>
    cases step with
    | opened i k res free => exact h.cursors.tell free _
    | notOpened => exact h.cursors.tell_neg (p := -1) (by decide)
    | undecided i k free =>
      have hlent := h.cursors.tell (t := t) free none
      rwa [Function.update_eq_self_iff.mpr free.symm] at hlent
    | kept r keeps => cases keeps
  | cursorClose p =>
    rcases step.close_cases with ⟨k, rfl, -, rfl⟩ | ⟨shut, rfl⟩
    · exact h.cursors.give may
    · exact h.cursors.give_free shut
  | _ => exact kept trivial

theorem OnLoan.step (h : OnLoan base now phase) {e : Exported} {r : e.Reply} (may : (held (phase t)).May e)
    (step : Registry.Step e r now now') :
    OnLoan base now' (Function.update phase t (some ((held (phase t)).after e r))) where
  connections := by
    rw [held_update Held.connections]
    exact h.step_connections may step
  cursors := by
    rw [held_update Held.cursors]
    exact h.step_cursors may step

/-- A program leaves a script with its debts settled. -/
theorem OnLoan.leave (h : OnLoan base now phase) (settled : (held (phase t)).Settled) :
    OnLoan base now (Function.update phase t none) where
  connections := by
    rw [held_update Held.connections]
    exact h.connections.leave settled.1
  cursors := by
    rw [held_update Held.cursors]
    exact h.cursors.leave settled.2

/-- The rules of lending keep the tables on loan. -/
theorem lending_upholds (mql : Mql) (host : Host σ) (turns : ℕ) (base : Registry) :
    Upholds (T := T) (V := fun _ : Demo => List Line) (fun _ => lending) (fun _ phase _ => (held phase).Settled) none
      (onStart mql) (fun _ => dllStep host turns) fun _ (w : World σ) phase => OnLoan base w.registry phase where
  obeys demo := owes_onStart demo none rfl
  onward _ _ _ _ _ leads := by
    rw [leads]
    exact Option.some_ne_none _
  enters _ _ _ _ _ inv _ _ := inv
  keeps _ _ _ _ _ _ _ _ _ inv _ _ _ ok may leads := by
    rw [leads]
    exact inv.step may (call_refines host ok)
  leaves _ _ _ _ _ _ inv _ _ settled := inv.leave settled

omit [DecidableEq T] in
/-- The programs start while nothing is on loan. -/
theorem onLoan_start (base : Registry) : OnLoan base base fun _ : T => none where
  connections := Lent.start base.connections
  cursors := Lent.start base.cursors

/-- However the calls of the scripts are interleaved: what was registered before stays as it is, and when all programs
have come to the ends of their scripts, the same is registered as before. -/
theorem scripts_settle {tr : List (Moved T (World σ) Exported.Reply fun _ : Demo => List Line)} {s : Charts T σ}
    (h : Run (chartStep mql host turns) ⟨w, fun _ => none⟩ tr s) :
    (∀ i, w.registry.connections i ≠ none → s.shared.registry.connections i = w.registry.connections i) ∧
      (∀ k, w.registry.cursors k ≠ none → s.shared.registry.cursors k = w.registry.cursors k) ∧
      ((∀ t, s.running t = none) → s.shared.registry = w.registry) := by
  have start : Pool.Conforms (fun _ => lending) (fun (_ : Demo) phase _ => (held phase).Settled) none (onStart mql)
      (⟨w, fun _ => none⟩ : Charts T σ) fun _ => none := by
    constructor <;> simp
  obtain ⟨phase, hconforms, hloan⟩ :=
    Run.conforms h (lending_upholds mql host turns w.registry) start (onLoan_start w.registry)
  refine ⟨fun i => hloan.connections.kept, fun k => hloan.cursors.kept, fun ended => ?_⟩
  have settled (t : T) : held (phase t) = .nothing := by rw [hconforms.outside t (ended t), held_none]
  ext1
  · exact hloan.connections.restored fun t => by rw [settled t]; exact Debts.nothing_settled
  · exact hloan.cursors.restored fun t => by rw [settled t]; exact Debts.nothing_settled

/-- Two programs show the rows of a table and open four cursors, call by call in turn. -/
theorem scripts_settle_sample :
    ∃ (tr : List (Moved Bool (World Shelf) Exported.Reply fun _ : Demo => List Line)) (s : Charts Bool Shelf),
      Run (chartStep .sample shelfHost 8) ⟨attach Shelf.empty, fun _ => none⟩ tr s ∧ tr.length = 57 ∧
        s.shared.registry = (attach Shelf.empty).registry := by
  have hcheck : passes (fun run => decide (run.1.length = 57) && (run.2.running true).isNone &&
        (run.2.running false).isNone)
      (replay (chartStep (T := Bool) .sample shelfHost 8)
        (.enter true .mySQL004c :: .enter false .mySQL005 ::
          (List.replicate 20 [.advance true, .advance false]).flatten ++ List.replicate 15 (.advance true))
        ⟨attach Shelf.empty, fun _ => none⟩) = true := by
    decide +kernel
  obtain ⟨tr, s, hrun, hcheck⟩ := Run.of_passes hcheck
  simp only [Bool.and_eq_true, decide_eq_true_eq, Option.isNone_iff_eq_none] at hcheck
  refine ⟨tr, s, hrun, hcheck.1.1, (scripts_settle hrun).2.2 fun t => ?_⟩
  cases t
  · exact hcheck.2
  · exact hcheck.1.2

end MqlMySql
