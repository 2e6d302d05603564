import MqlMySql.Spec.Handles
import MqlMySql.Spec.Server

/-!
# Cursors and their connections

A cursor remembers the number of the connection it was opened on. While that connection stays live, the
number denotes the handle of the opening; after a disconnect it denotes a free slot, and later
possibly another connection. So the cursors of a run stay bound exactly if no call disconnects a
connection on which a cursor is open.
-/

namespace MqlMySql

open Library

variable {σ : Type}

/-- The call opened the slot. -/
def Opens (k : Fin maxCursors) (x : Called σ) : Prop :=
  ¬ x.before.registry.IsOpen k ∧ x.after.registry.IsOpen k

/-- The call is the last one which opened the slot. -/
def LastOpened (past : List (Called σ)) (k : Fin maxCursors) (x : Called σ) : Prop :=
  ∃ early late, past = early ++ x :: late ∧ Opens k x ∧ ∀ y ∈ late, ¬ Opens k y

/-- The connection of the cursor is live, holds the handle which it held when `x` opened the cursor,
and that handle has not been closed since. -/
def Bound (k : Fin maxCursors) (x : Called σ) (w : World σ) : Prop :=
  ∃ (i : Fin maxConnections) (m : Mysql) (res : Option MysqlRes),
    w.registry.cursors k = some ((i.val : ℤ), res) ∧ w.registry.connections i = some (some m) ∧
      x.after.registry.connections i = some (some m) ∧
        w.lifecycle.count (.close (some m)) = x.after.lifecycle.count (.close (some m))

/-- Every open cursor is bound to the connection it was opened on. -/
def StaysBound (past : List (Called σ)) (w : World σ) : Prop :=
  ∀ k, w.registry.IsOpen k → ∃ x, LastOpened past k x ∧ Bound k x w

/-- A fetch asks for the error of no other handle than the one its cursor was opened on, and that
handle has not been closed since. -/
def AsksOwnHandle (past : List (Called σ)) : Called σ → Prop
  | ⟨w, .cursorFetchRow p, _, w'⟩ => ∀ new, w'.calls = new ++ w.calls →
      ∀ h, LibraryCall.errno h ∈ new ∨ LibraryCall.error h ∈ new →
        ∃ (k : Fin maxCursors) (x : Called σ) (i : Fin maxConnections),
          p = k.val ∧ LastOpened past k x ∧ (w.dll.cursors k).connection = i.val ∧
            h = x.after.handle i ∧
              w.lifecycle.count (.close h) = x.after.lifecycle.count (.close h)
  | _ => True

/-- The call does not disconnect a connection on which a cursor is open. -/
def KeepsBindings (w : World σ) : Exported → Prop
  | .disconnect p => ∀ k res, w.registry.cursors k ≠ some (p, res)
  | _ => True

variable {host : Host σ}

/-- The last opening of a slot is not affected by a call which does not open it. -/
theorem LastOpened.snoc {past : List (Called σ)} {k : Fin maxCursors} {x y : Called σ}
    (h : LastOpened past k x) (hy : ¬ Opens k y) : LastOpened (past ++ [y]) k x := by
  obtain ⟨early, late, rfl, hx, hlate⟩ := h
  refine ⟨early, late ++ [y], by simp, hx, fun z hz => ?_⟩
  rcases List.mem_append.mp hz with hz | hz
  · exact hlate z hz
  · rwa [List.mem_singleton.mp hz]

/-- A call which opens the slot is its last opening. -/
theorem LastOpened.last {past : List (Called σ)} {k : Fin maxCursors} {x : Called σ}
    (h : Opens k x) : LastOpened (past ++ [x]) k x :=
  ⟨past, [], rfl, h, by simp⟩

/-- A cursor which is open before and after a call is registered as before. -/
theorem Registry.Step.cursor_kept {e : Exported} {r : e.Reply} {t t' : Registry}
    (h : Registry.Step e r t t') {k : Fin maxCursors} (before : t.IsOpen k) (after : t'.IsOpen k) :
    t'.cursors k = t.cursors k := by
  cases h with
  | opened i l res free =>
    have hkl : k ≠ l := by
      rintro rfl
      exact before free
    simp [Registry.openCursor, hkl]
  | closed l isOpen =>
    have hkl : k ≠ l := by
      rintro rfl
      simp [Registry.IsOpen, Registry.closeCursor] at after
    simp [Registry.closeCursor, hkl]
  | _ => rfl

/-- A call which disconnects no connection of an open cursor keeps the cursor bound. -/
theorem Bound.step {e : Exported} {k : Fin maxCursors} {x : Called σ} {w w' : World σ}
    (h : Bound k x w) (owns : OwnsHandles w) (hstep : HandleStep e w w')
    (hcursor : w'.registry.cursors k = w.registry.cursors k) (keeps : KeepsBindings w e) :
    Bound k x w' := by
  obtain ⟨i, m, res, hk, hi, hx, hcount⟩ := h
  refine ⟨i, m, res, by rw [hcursor, hk], ?_, hx, ?_⟩
  · cases hstep with
    | kept connections | leaked connections => rw [connections, hi]
    | taken j m' free connections =>
      have hij : i ≠ j := by
        rintro rfl
        simp [hi] at free
      rw [connections, Function.update_of_ne hij, hi]
    | dropped j he h live connections =>
      have hij : i ≠ j := by
        rintro rfl
        subst he
        exact keeps k res hk
      rw [connections, Function.update_of_ne hij, hi]
  · rw [← hcount]
    cases hstep with
    | kept _ lifecycle => rw [lifecycle]
    | leaked _ answer lifecycle => simp [lifecycle]
    | taken j m' free _ lifecycle => simp [lifecycle]
    | dropped j he h live _ lifecycle =>
      have hne : h ≠ some m := by
        rintro rfl
        obtain rfl := owns.distinct i j _ hi live
        subst he
        exact keeps k res hk
      rw [lifecycle, List.count_cons_of_ne (by simpa using hne)]

/-- A call which opens a slot binds the cursor to the connection of the call. -/
theorem Bound.opened {e : Exported} {r : e.Reply} {k : Fin maxCursors} {w w' : World σ}
    (owns : OwnsHandles w) (live : OnLiveId w.dll e)
    (hstep : Registry.Step e r w.registry w'.registry) (hopens : Opens k ⟨w, e, r, w'⟩) :
    Bound k ⟨w, e, r, w'⟩ w' := by
  obtain ⟨hbefore, hafter⟩ := hopens
  dsimp only at hbefore hafter
  generalize ht : w.registry = t at hstep hbefore
  generalize ht' : w'.registry = t' at hstep hafter
  cases hstep with
  | @opened _ q i l res free =>
    obtain rfl : k = l := by
      by_contra hkl
      refine hbefore ?_
      simpa [Registry.IsOpen, Registry.openCursor, hkl] using hafter
    obtain ⟨h, hh⟩ := Option.ne_none_iff_exists'.mp
      (fun hnone => live (by simpa [liveConnection_val] using
        (w.dll.registry_connections_eq_none (i := i)).mp hnone))
    obtain ⟨m, rfl, -⟩ := owns.allocated i h hh
    have hsame : w'.registry.connections = w.registry.connections := by rw [ht', ht]; rfl
    refine ⟨i, m, some res, ?_, by rw [hsame]; exact hh, by rw [hsame]; exact hh, rfl⟩
    rw [ht']
    simp [Registry.openCursor]
  | closed l isOpen =>
    refine absurd ?_ hbefore
    by_cases hkl : k = l
    · rwa [hkl]
    · simpa [Registry.IsOpen, Registry.closeCursor, hkl] using hafter
  | _ => exact absurd hafter hbefore

/-- With all cursors bound, a fetch asks only for errors of its own handle. -/
theorem asksOwnHandle_of_bound {past : List (Called σ)} {p : ℤ} {b : Bool} {w w' : World σ}
    (bound : StaysBound past w) (h : FetchOutcome host p w b w') :
    AsksOwnHandle past ⟨w, .cursorFetchRow p, b, w'⟩ := by
  intro new hnew g hg
  cases h with
  | wrong shut =>
    obtain rfl := List.append_cancel_right (show [] ++ w.calls = new ++ w.calls from hnew)
    simp at hg
  | fetched k hp isOpen row =>
    rw [World.fetched_calls, ← List.singleton_append, List.append_cancel_right_eq] at hnew
    simp [← hnew] at hg
  | ended k hp isOpen row i owner =>
    simp only [World.onDll_calls, World.inspected_calls, World.fetched_calls] at hnew
    have hadded : [.error (w.handle i), .errno (w.handle i), .fetchRow (w.recordSet k)
        (host.mysqlFetchRow (w.recordSet k) w.library).1] = new :=
      List.append_cancel_right hnew
    obtain rfl : g = w.handle i := by simpa [← hadded] using hg
    have hregistered := World.cursor_of_registry isOpen
    obtain ⟨x, hlast, j, m, res, hk, hj, hx, hcount⟩ :=
      bound k (by rw [Registry.IsOpen, hregistered]; simp)
    have hij : i = j := by
      rw [hregistered, owner, Option.some.injEq, Prod.mk.injEq] at hk
      exact Fin.ext (by omega)
    subst hij
    have hm : w.handle i = some m := World.handle_of_registry hj
    exact ⟨k, x, i, hp, hlast, owner, by rw [hm, World.handle_of_registry hx], by rw [hm, hcount]⟩

/-- One call which keeps the bindings leaves every open cursor bound. -/
theorem staysBound_step {turns : ℕ} {past : List (Called σ)} {x : Called σ}
    (bound : StaysBound past x.before) (owns : OwnsHandles x.before)
    (live : OnLiveId x.before.dll x.label) (keeps : KeepsBindings x.before x.label)
    (h : dllStep host turns x.label x.before = .ok (x.reply, x.after)) :
    StaysBound (past ++ [x]) x.after := by
  obtain ⟨w, e, r, w'⟩ := x
  intro k hafter
  have hstep : Registry.Step e r w.registry w'.registry := call_refines host h
  by_cases hbefore : w.registry.IsOpen k
  · obtain ⟨y, hlast, hbound⟩ := bound k hbefore
    have hnot : ¬ Opens k ⟨w, e, r, w'⟩ := fun hopens => hopens.1 hbefore
    exact ⟨y, hlast.snoc hnot,
      hbound.step owns (call_handleStep h) (hstep.cursor_kept hbefore hafter) keeps⟩
  · have hopens : Opens k ⟨w, e, r, w'⟩ := ⟨hbefore, hafter⟩
    exact ⟨_, LastOpened.last hopens, Bound.opened owns live hstep hopens⟩

/-- Disconnecting a connection leaves the cursors which are open on it unbound. -/
theorem keepsBindings_of_bound {turns : ℕ} {past : List (Called σ)} {x : Called σ}
    (live : OnLiveId x.before.dll x.label) (bound : StaysBound past x.after)
    (h : dllStep host turns x.label x.before = .ok (x.reply, x.after)) :
    KeepsBindings x.before x.label := by
  obtain ⟨w, e, r, w'⟩ := x
  cases e with
  | disconnect p =>
    intro k res hk
    have hstep : Registry.Step (.disconnect p) r w.registry w'.registry := call_refines host h
    have hcursors := hstep.cursors trivial
    have hopen : w'.registry.IsOpen k := by
      rw [Registry.IsOpen, hcursors, hk]
      simp
    obtain ⟨y, -, i, m, res', hk', hi, -⟩ := bound k hopen
    obtain ⟨j, rfl, hid⟩ := exists_slot_of_live live
    rw [hcursors, hk, Option.some.injEq, Prod.mk.injEq] at hk'
    obtain rfl : j = i := Fin.ext (by omega)
    have hlive : w.registry.connections j ≠ none :=
      fun hnone => hid (w.dll.registry_connections_eq_none.mp hnone)
    rcases hstep.disconnect_cases with ⟨l, hjl, -, hafter⟩ | ⟨dead, -⟩
    · obtain rfl : j = l := Fin.ext (by omega)
      simp [hafter, Registry.disconnect] at hi
    · exact hlive (dead j rfl)
  | _ => trivial

/-- In a run on live connection ids, with fresh handles, all cursors stay bound after every call and
every fetch asks for errors of its own handle exactly if no call disconnects a connection on which a
cursor is open. -/
theorem cursors_stayBound_iff {turns : ℕ} {library : σ} {tr : List (Called σ)} {w : World σ}
    (h : DllRun host turns library tr w) (live : ∀ x ∈ tr, OnLiveId x.before.dll x.label)
    (fresh : FreshHandles w.lifecycle) :
    (∀ past x future, tr = past ++ x :: future →
      StaysBound (past ++ [x]) x.after ∧ AsksOwnHandle past x) ↔
      ∀ x ∈ tr, KeepsBindings x.before x.label := by
  have hfresh := (run_fresh h fresh).2
  refine Run.forall_correct_iff (fun past w => StaysBound past w ∧ OwnsHandles w)
    (fun x => OnLiveId x.before.dll x.label ∧ FreshHandles x.after.lifecycle)
    (fun past x inv allowed keeps hx => ?_) (fun past x inv allowed hx => ?_) h ?_
    fun x hx => ⟨live x hx, hfresh x hx⟩
  · exact ⟨staysBound_step inv.1 inv.2 allowed.1 keeps hx,
      inv.2.step (call_handleStep hx) allowed.2⟩
  · constructor
    · exact fun hcorrect => keepsBindings_of_bound allowed.1 hcorrect.1 hx
    · refine fun keeps => ⟨staysBound_step inv.1 inv.2 allowed.1 keeps hx, ?_⟩
      obtain ⟨w, e, r, w'⟩ := x
      cases e with
      | cursorFetchRow p =>
        exact asksOwnHandle_of_bound inv.1 (cMySqlCursorFetchRow_outcome host hx)
      | _ => trivial
  · refine ⟨fun k hopen => absurd ?_ hopen, OwnsHandles.attached library⟩
    exact (Dll.registry_cursors_eq_none _).mpr rfl

/-- A run in which a cursor is opened and read. -/
theorem cursors_stayBound_sample :
    ∃ (tr : List (Called Server)) (w : World Server),
      DllRun scriptedHost 8 (Server.fresh [.ofResultSet]) tr w ∧ w.registry.cursors ⟨0, by decide⟩ ≠ none ∧
        ((∀ past x future, tr = past ++ x :: future →
          StaysBound (past ++ [x]) x.after ∧ AsksOwnHandle past x) ↔
          ∀ x ∈ tr, KeepsBindings x.before x.label) := by
  have hcheck : passes (fun run =>
        decide (∀ x ∈ run.1, OnLiveId x.before.dll x.label) && decide (FreshHandles run.2.lifecycle) &&
          (run.2.registry.cursors ⟨0, by decide⟩).isSome)
      (replay (dllStep scriptedHost 8) [.connect .sample, .cursorOpen 0 [83], .cursorFetchRow 0]
        (attach (Server.fresh [.ofResultSet]))) = true := by
    decide +kernel
  obtain ⟨tr, w, hrun, hcheck⟩ := Run.of_passes hcheck
  simp only [Bool.and_eq_true, decide_eq_true_eq] at hcheck
  obtain ⟨⟨live, fresh⟩, hopen⟩ := hcheck
  exact ⟨tr, w, hrun, Option.isSome_iff_ne_none.mp hopen, cursors_stayBound_iff hrun live fresh⟩

/-- A cursor whose connection is disconnected stays open on a dead connection. -/
theorem disconnectedCursor_not_bound :
    ∃ (tr : List (Called Server)) (w : World Server),
      DllRun scriptedHost 8 (Server.fresh [.ofResultSet]) tr w ∧
        (∀ x ∈ tr, OnLiveId x.before.dll x.label) ∧ FreshHandles w.lifecycle ∧
          ¬ ∀ past x future, tr = past ++ x :: future →
            StaysBound (past ++ [x]) x.after ∧ AsksOwnHandle past x := by
  have hcheck : passes (fun run =>
        decide (∀ x ∈ run.1, OnLiveId x.before.dll x.label) &&
          decide (FreshHandles run.2.lifecycle) && decide (run.1 ≠ []) &&
            (run.2.registry.cursors ⟨0, by decide⟩).isSome &&
              decide (∀ i, (run.2.registry.connections i) = none))
      (replay (dllStep scriptedHost 8) [.connect .sample, .cursorOpen 0 [83], .disconnect 0]
        (attach (Server.fresh [.ofResultSet]))) = true := by
    decide +kernel
  obtain ⟨tr, w, hrun, hcheck⟩ := Run.of_passes hcheck
  simp only [Bool.and_eq_true, decide_eq_true_eq] at hcheck
  obtain ⟨⟨⟨⟨live, fresh⟩, hne⟩, hopen⟩, hnone⟩ := hcheck
  refine ⟨tr, w, hrun, live, fresh, fun hall => ?_⟩
  obtain ⟨past, x, rfl, rfl⟩ := hrun.last_step hne
  have hbound := (hall past x [] rfl).1 _ (Option.isSome_iff_ne_none.mp hopen)
  obtain ⟨y, -, i, m, res, -, hi, -⟩ := hbound
  rw [hnone i] at hi
  cases hi

end MqlMySql
