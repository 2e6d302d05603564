import MqlMySql.Spec.LibrarySteps
import MqlMySql.Spec.Server

/-!
# Running out of rows

A fetch which finds no row copies `mysql_errno` of the connection into the cursor. A stored record set is read without
asking the server, so that number is the one which the last command on the connection left: a statement which fails
between two fetches is reported by the second one.
-/

namespace MqlMySql

open Library

variable {σ : Type} (host : Host σ)

/-- The call works on the connection in the slot: it makes it, or runs a statement on it. -/
def commands (i : Fin maxConnections) : Called σ → Bool
  | ⟨_, .connect _, (r : ℤ), _⟩ => decide (r = i.val)
  | ⟨_, .execute p _, _, _⟩ | ⟨_, .cursorOpen p _, _, _⟩ => decide (p = i.val)
  | _ => false

/-- The `mysql_errno` which the last command on the connection in the slot left. -/
def lastErrno (i : Fin maxConnections) (past : List (Called σ)) : Option ℕ :=
  (past.filter (commands i)).getLast?.map fun x => host.mysqlErrno (x.after.handle i) x.after.library

/-- The cursor is open on the connection in the slot, and that is live. -/
structure World.ReadsOn (w : World σ) (k : Fin maxCursors) (i : Fin maxConnections) : Prop where
  isOpen : (w.dll.cursors k).id ≠ -1
  owner : (w.dll.cursors k).connection = i.val
  live : (w.dll.connections i).id ≠ -1

/-- A fetch leaves the error number `0`, and returns `false` when there is no row. -/
def FetchesQuietly : Called σ → Prop
  | ⟨w, .cursorFetchRow p, b, w'⟩ => ∀ k i, p = Fin.val k → w.ReadsOn k i →
      cGetCursorErrorNumber p w'.dll = 0 ∧
        ((host.mysqlFetchRow (w.recordSet k) w.library).1 = none → b = false)
  | _ => True

/-- When a fetch finds no row, the last command on its connection left no error. -/
def FollowsQuiet (past : List (Called σ)) : Called σ → Prop
  | ⟨w, .cursorFetchRow p, _, _⟩ => ∀ k i, p = Fin.val k → w.ReadsOn k i →
      (host.mysqlFetchRow (w.recordSet k) w.library).1 = none → lastErrno host i past = some 0
  | _ => True

/-- The `mysql_errno` of every live connection is the one which the last command on it left. -/
def ErrnosKept (past : List (Called σ)) (w : World σ) : Prop :=
  ∀ i m, w.registry.connections i = some (some m) →
    lastErrno host i past = some (host.mysqlErrno (some m) w.library)

variable {host} {turns : ℕ}

theorem lastErrno_snoc (i : Fin maxConnections) (past : List (Called σ)) (x : Called σ) :
    lastErrno host i (past ++ [x]) =
      if commands i x then some (host.mysqlErrno (x.after.handle i) x.after.library)
      else lastErrno host i past := by
  by_cases hx : commands i x
  · simp [lastErrno, List.filter_append, hx]
  · simp [lastErrno, List.filter_append, hx]

/-- A connection which is live after a call that is no command on it was live before, and is not named. -/
theorem live_of_no_command {x : Called σ} (h : dllStep host turns x.label x.before = .ok (x.reply, x.after))
    {i : Fin maxConnections} (other : ¬commands i x) {g : Option Mysql}
    (live : x.after.registry.connections i = some g) :
    x.before.registry.connections i = some g ∧ ¬NamesConnection i x.label := by
  obtain ⟨w, e, r, w'⟩ := x
  have hstep : Registry.Step e r w.registry w'.registry := call_refines host h
  cases e with
  | connect c =>
    refine ⟨?_, not_false⟩
    generalize w.registry = t, w'.registry = t' at hstep live
    cases hstep with
    | connected j m =>
      have hij : i ≠ j := by
        rintro rfl
        simp [commands] at other
      simpa [Registry.connect, hij] using live
    | notConnected => exact live
    | kept _ keeps => cases keeps
  | disconnect p =>
    rcases hstep.disconnect_cases with ⟨j, rfl, -, hafter⟩ | ⟨dead, hafter⟩
    · rw [hafter] at live
      have hij : i ≠ j := by
        rintro rfl
        simp [Registry.disconnect] at live
      refine ⟨by simpa [Registry.disconnect, hij] using live, fun hnamed => hij (Fin.ext ?_)⟩
      exact Int.ofNat_inj.mp hnamed.symm
    · rw [hafter] at live
      refine ⟨live, fun hnamed => ?_⟩
      rw [dead i hnamed] at live
      cases live
  | execute p q =>
    rw [hstep.connections trivial] at live
    exact ⟨live, by simpa [commands, NamesConnection] using other⟩
  | cursorOpen p q =>
    rw [hstep.connections trivial] at live
    exact ⟨live, by simpa [commands, NamesConnection] using other⟩
  | _ =>
    rw [hstep.connections trivial] at live
    exact ⟨live, not_false⟩

section Errnos

variable (keeps : KeepsErrnos host)
include keeps

theorem ErrnosKept.step {past : List (Called σ)} {x : Called σ} (inv : ErrnosKept host past x.before)
    (owns : OwnsHandles x.before) (fresh : FreshHandles x.after.lifecycle)
    (known : OnKnownId x.before.dll x.label)
    (h : dllStep host turns x.label x.before = .ok (x.reply, x.after)) :
    ErrnosKept host (past ++ [x]) x.after := by
  intro i m hlive
  rw [lastErrno_snoc]
  split
  · rw [World.handle_of_registry hlive]
  · rename_i other
    obtain ⟨hbefore, hunnamed⟩ := live_of_no_command h other hlive
    rw [inv i m hbefore, call_keeps_errno keeps h owns fresh known hbefore hunnamed]

/-- In a run on known ids, with fresh handles, the numbers are kept. -/
theorem errnosKept_of_run {library : σ} {tr : List (Called σ)} {w : World σ}
    (h : DllRun host turns library tr w)
    (allowed : ∀ x ∈ tr, OnKnownId x.before.dll x.label ∧ FreshHandles x.after.lifecycle) :
    OwnsHandles w ∧ ErrnosKept host tr w := by
  refine Run.reverse_induction
    (motive := fun tr w => (∀ x ∈ tr, OnKnownId x.before.dll x.label ∧ FreshHandles x.after.lifecycle) →
      OwnsHandles w ∧ ErrnosKept host tr w)
    (fun _ => ⟨OwnsHandles.attached library, ?_⟩) (fun past x _ ih hx hall => ?_) h allowed
  · intro i m hi
    simp [Registry.empty] at hi
  · obtain ⟨howns, hkept⟩ := ih fun y hy => hall y (List.mem_append_left _ hy)
    obtain ⟨hknown, hfresh⟩ := hall x (by simp)
    exact ⟨howns.step (call_handleStep hx) hfresh, hkept.step keeps howns hfresh hknown hx⟩

end Errnos

/-- The number after a fetch from an open cursor, and its answer. -/
theorem FetchOutcome.number {p : ℤ} {b : Bool} {w w' : World σ} (h : FetchOutcome host p w b w')
    {k : Fin maxCursors} {i : Fin maxConnections} (hp : p = k.val) (reads : w.ReadsOn k i) :
    (cGetCursorErrorNumber p w'.dll =
        if (host.mysqlFetchRow (w.recordSet k) w.library).1 = none then
          (host.mysqlErrno (w.handle i) (host.mysqlFetchRow (w.recordSet k) w.library).2 : ℤ)
        else 0) ∧
      ((host.mysqlFetchRow (w.recordSet k) w.library).1 = none → b = false) := by
  subst hp
  cases h with
  | wrong shut => simp [openCursor_val, reads.isOpen] at shut
  | fetched l hl isOpen row =>
    obtain rfl : k = l := Fin.ext (by omega)
    have hopen : (w.fetched host k).dll.openCursor k.val = some k := by
      simp [openCursor_val, World.fetched, isOpen]
    rw [cGetCursorErrorNumber_of_open hopen, if_neg row]
    exact ⟨by simp [World.fetched], fun hnone => absurd hnone row⟩
  | ended l hl isOpen row j owner =>
    obtain rfl : k = l := Fin.ext (by omega)
    obtain rfl : i = j := Fin.ext (by have := reads.owner; omega)
    refine ⟨?_, fun _ => rfl⟩
    rw [if_pos row, cGetCursorErrorNumber_of_open (k := k)]
    · simp
    · simp [openCursor_val, World.fetched, isOpen]

/-- In every run on known ids, with fresh handles, and with a library which changes `mysql_errno` of no other handle
than the one it works on: a fetch from an open cursor on a live connection leaves the error number `0` exactly when
there is a row or the last command on that connection left no error. -/
theorem rowsEnd_quiet_iff {library : σ} {tr : List (Called σ)} {w : World σ}
    (h : DllRun host turns library tr w) (known : ∀ x ∈ tr, OnKnownId x.before.dll x.label)
    (fresh : FreshHandles w.lifecycle) (keeps : KeepsErrnos host) (past : List (Called σ)) (x : Called σ)
    (future : List (Called σ)) (heq : tr = past ++ x :: future) :
    FetchesQuietly host x ↔ FollowsQuiet host past x := by
  have hfresh := (run_fresh h fresh).2
  subst heq
  obtain ⟨hpast, hx, -⟩ := h.split_at
  obtain ⟨howns, hkept⟩ := errnosKept_of_run keeps hpast fun y hy =>
    ⟨known y (List.mem_append_left _ hy), hfresh y (List.mem_append_left _ hy)⟩
  obtain ⟨w, e, b, w'⟩ := x
  cases e with
  | cursorFetchRow p =>
    refine forall₂_congr fun k i => forall₂_congr fun hp reads => ?_
    obtain ⟨hnumber, hanswer⟩ := (cMySqlCursorFetchRow_outcome host hx).number hp reads
    have hlive : w.registry.connections i = some (w.handle i) := by
      simp [World.registry, Dll.registry, reads.live, World.handle]
    obtain ⟨m, hm, -⟩ := howns.allocated i _ hlive
    rw [hm] at hlive hnumber
    rw [hnumber, hkept i m hlive, Option.some.injEq, and_iff_left hanswer,
      keeps none _ _ (.fetchRow ..) m (by simp)]
    split
    · simp [*]
    · simp [*]
  | _ => exact Iff.rfl

/-- The library over `Server` notes an error at the handle which it works on. -/
theorem scripted_keepsErrnos : KeepsErrnos scriptedHost := by
  intro h s s' step m hne
  cases step with
  | init => rfl
  | realConnect m' request =>
    have hm : m ≠ m' := by simpa using hne.symm
    simp only [scriptedHost, Option.elim, Server.realConnect]
    split
    · rfl
    · split <;> simp [Server.setLink_errnos_other, hm]
  | close => cases h <;> rfl
  | realQuery _ query length =>
    cases h with
    | none => rfl
    | some m' =>
      have hm : m ≠ m' := by simpa using hne.symm
      simp only [scriptedHost, Option.elim, Server.realQuery]
      split
      · rfl
      · split <;> simp [Server.setLink_errnos_other, hm]
  | useResult =>
    cases h with
    | none => rfl
    | some m' =>
      have hm : m ≠ m' := by simpa using hne.symm
      simp only [scriptedHost, Option.elim, Server.useResult]
      split
      · rfl
      · split
        · simp [Server.setLink_errnos_other, hm]
        · split
          · rfl
          · simp [Server.setLink_errnos_other, hm]
  | storeResult =>
    cases h with
    | none => rfl
    | some m' =>
      have hm : m ≠ m' := by simpa using hne.symm
      simp only [scriptedHost, Option.elim, Server.storeResult]
      split
      · rfl
      · split
        · simp [Server.setLink_errnos_other, hm]
        · split
          · rfl
          · simp [Server.setLink_errnos_other, hm]
  | nextResult =>
    cases h with
    | none => rfl
    | some m' =>
      have hm : m ≠ m' := by simpa using hne.symm
      simp only [scriptedHost, Option.elim, Server.nextResult]
      split
      · rfl
      · split
        · simp [Server.setLink_errnos_other, hm]
        · split
          · rfl
          · simp [Server.setLink_errnos_other, hm]
  | freeResult _ res => cases res <;> rfl
  | fetchRow => rfl

/-- A cursor is opened and read to its end. -/
theorem rowsEnd_quiet_sample :
    ∃ (tr : List (Called Server)) (w : World Server),
      DllRun scriptedHost 8 (Server.fresh [.ofResultSet]) tr w ∧
        tr.map (·.label) = [.connect .sample, .cursorOpen 0 [83], .cursorFetchRow 0] ∧
          ∀ past x future, tr = past ++ x :: future →
            (FetchesQuietly scriptedHost x ↔ FollowsQuiet scriptedHost past x) := by
  have hcheck : passes (fun run =>
        decide (∀ x ∈ run.1, OnKnownId x.before.dll x.label) && decide (FreshHandles run.2.lifecycle) &&
          decide (run.1.map (·.label) = [.connect .sample, .cursorOpen 0 [83], .cursorFetchRow 0]))
      (replay (dllStep scriptedHost 8) [.connect .sample, .cursorOpen 0 [83], .cursorFetchRow 0]
        (attach (Server.fresh [.ofResultSet]))) = true := by
    decide +kernel
  obtain ⟨tr, w, hrun, hcheck⟩ := Run.of_passes hcheck
  simp only [Bool.and_eq_true, decide_eq_true_eq] at hcheck
  obtain ⟨⟨known, fresh⟩, hlabels⟩ := hcheck
  exact ⟨tr, w, hrun, hlabels, rowsEnd_quiet_iff hrun known fresh scripted_keepsErrnos⟩

/-- A statement fails between the opening of a cursor and the fetch which finds no row: the fetch reports its
error. -/
theorem failedStatement_reported_by_fetch :
    KeepsErrnos scriptedHost ∧ ∃ (tr : List (Called Server)) (w w' : World Server) (b : Bool),
      DllRun scriptedHost 8 (Server.fresh [.ofResultSet, .ofError 1064]) tr w ∧
        (∀ x ∈ tr, OnKnownId x.before.dll x.label) ∧ FreshHandles w'.lifecycle ∧
          (call scriptedHost 8 (.cursorFetchRow 0)).run w = .ok (b, w') ∧
            ¬FetchesQuietly scriptedHost ⟨w, .cursorFetchRow 0, b, w'⟩ := by
  have hcheck : passes (fun run => decide (∀ x ∈ run.1, OnKnownId x.before.dll x.label) &&
        decide ((run.2.dll.cursors ⟨0, by decide⟩).id ≠ -1 ∧
          (run.2.dll.cursors ⟨0, by decide⟩).connection = 0 ∧
            (run.2.dll.connections firstConnection).id ≠ -1) &&
          passes (fun reply => decide (FreshHandles reply.2.lifecycle) &&
              decide (cGetCursorErrorNumber 0 reply.2.dll = 1064))
            ((call scriptedHost 8 (.cursorFetchRow 0)).run run.2))
      (replay (dllStep scriptedHost 8) [.connect .sample, .cursorOpen 0 [83], .execute 0 [68]]
        (attach (Server.fresh [.ofResultSet, .ofError 1064]))) = true := by
    decide +kernel
  obtain ⟨tr, w, hrun, hcheck⟩ := Run.of_passes hcheck
  rw [Bool.and_eq_true, Bool.and_eq_true, decide_eq_true_eq, decide_eq_true_eq] at hcheck
  obtain ⟨⟨known, isOpen, owner, live⟩, hcheck⟩ := hcheck
  obtain ⟨⟨b, w'⟩, hcall, hcheck⟩ := exists_of_passes hcheck
  rw [Bool.and_eq_true, decide_eq_true_eq, decide_eq_true_eq] at hcheck
  obtain ⟨fresh, hnumber⟩ := hcheck
  refine ⟨scripted_keepsErrnos, tr, w, w', b, hrun, known, fresh, hcall, fun hquiet => ?_⟩
  obtain ⟨hzero, -⟩ := hquiet ⟨0, by decide⟩ firstConnection rfl ⟨isOpen, owner, live⟩
  rw [hnumber] at hzero
  cases hzero

end MqlMySql
