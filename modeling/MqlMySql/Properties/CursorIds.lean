import MqlMySql.Spec.Opening
import MqlMySql.Spec.Server

/-!
# Exclusive cursor ids

The number which `cMySqlCursorOpen` returns should name a slot that is open now and that nobody else
was given and has not closed yet. The code returns the number of the free slot it looked at also when
it stored no record set and the handle has no error, and then the slot stays free. An open is decided
when this cannot happen; in a run all opens are exclusive exactly if all are decided.
-/

namespace MqlMySql

open Library

variable {σ : Type}

/-- The ids given out so far, after one more call. -/
def outstandingAfter (ids : List ℤ) : Called σ → List ℤ
  | ⟨_, .cursorOpen _ _, (r : ℤ), _⟩ => if 0 ≤ r then r :: ids else ids
  | ⟨_, .cursorClose p, _, _⟩ => ids.filter (· ≠ p)
  | _ => ids

/-- The ids which `cMySqlCursorOpen` returned and which were not passed to `cMySqlCursorClose`
since. -/
def outstanding (past : List (Called σ)) : List ℤ := past.foldl outstandingAfter []

/-- What an open should guarantee: an id which is returned names an open slot with a record set and is
not outstanding, and if no slot was opened the call reports an error. -/
def OpensExclusively (past : List (Called σ)) : Called σ → Prop
  | ⟨before, .cursorOpen p _, (r : ℤ), after⟩ =>
    (0 ≤ r → (∃ k : Fin maxCursors, r = k.val ∧ (after.dll.cursors k).id = k.val ∧
        (after.dll.cursors k).recordSet ≠ none) ∧ r ∉ outstanding past) ∧
      ((∀ k, after.registry.IsOpen k → before.registry.IsOpen k) →
        r = -1 ∧ (before.dll.liveConnection p ≠ none → cGetMySqlErrorNumber p after.dll ≠ 0))
  | _ => True

/-- Every outstanding id names an open slot. -/
def OutstandingOpen (past : List (Called σ)) (w : World σ) : Prop :=
  ∀ r ∈ outstanding past, ∃ k : Fin maxCursors, r = k.val ∧ w.registry.IsOpen k

variable {host : Host σ}

/-- One open is exclusive exactly if it is decided. -/
theorem cursorOpen_exclusive_iff {past : List (Called σ)} {p r : ℤ} {q : WStr} {w w' : World σ}
    (inv : OutstandingOpen past w) (h : OpenOutcome host p q w r w') :
    OpensExclusively past ⟨w, .cursorOpen p q, r, w'⟩ ↔ Decided host w (.cursorOpen p q) := by
  have hstep := h.step host
  cases h with
  | noConnection hp =>
    subst hp
    refine iff_of_true ⟨fun h => absurd h (by decide), fun _ => ⟨rfl, fun h => ?_⟩⟩ fun i hi => ?_
    · simp at h
    · exact absurd hi.symm (val_ne_neg_one i)
  | full i hp none_free =>
    subst hp
    refine iff_of_true ⟨fun h => absurd h (by decide), fun _ => ⟨rfl, fun live => ?_⟩⟩ fun i hi => ?_
    · rw [number_of_registry live (hstep.connections trivial)]
      simp
    · exact fun hfree => absurd none_free hfree
  | opened i hp k free res store =>
    subst hp
    have hfree : ¬ w.registry.IsOpen k :=
      not_not.mpr (w.dll.registry_cursors_eq_none.mpr (getNewCursorId_free free))
    have hrecord := store.recordSet
    refine iff_of_true ⟨fun _ => ⟨⟨k, rfl, by simp, by simp [hrecord]⟩, fun hout => ?_⟩,
      fun hclosed => absurd (hclosed k ?_) hfree⟩ fun j hj _ => Or.inl ?_
    · obtain ⟨l, hl, hopen⟩ := inv _ hout
      exact hfree (by rwa [show k = l from Fin.ext (by omega)])
    · refine fun hnone => val_ne_neg_one k ?_
      simpa using (Dll.registry_cursors_eq_none _).mp hnone
    · obtain rfl : i = j := Fin.ext (by omega)
      obtain ⟨fits, quiet, answer, -⟩ := store.of_some
      exact ⟨fits, quiet, by simp [answer]⟩
  | @refused i hp k free w₂ store positive =>
    subst hp
    refine iff_of_true ⟨fun h => absurd h (by decide), fun _ => ⟨rfl, fun live => ?_⟩⟩
      fun j hj _ => Or.inr ?_
    · rw [number_of_registry live (hstep.connections trivial)]
      have hne : host.mysqlErrno (w.handle i) w₂.library ≠ 0 := by omega
      simpa [World.blamed, store.handle host i] using hne
    · obtain rfl : i = j := Fin.ext (by omega)
      rw [← store.errno_of_none]
      omega
  | @undecided i hp k free w₂ store zero =>
    subst hp
    have hid : (w₂.dll.cursors k).id = -1 := by
      rw [store.cursor_id, getNewCursorId_free free]
    refine iff_of_false (fun hex => ?_) fun hdecided => ?_
    · obtain ⟨⟨l, hl, hopen, -⟩, -⟩ := hex.1 (Int.natCast_nonneg _)
      obtain rfl : k = l := Fin.ext (by omega)
      have : (-1 : ℤ) = k.val := by rw [← hid, ← hopen]; simp [World.blamed]
      exact val_ne_neg_one k this.symm
    · rcases hdecided i rfl (by rw [free]; exact val_ne_neg_one k) with ⟨fits, quiet, hsome⟩ | hne
      · exact hsome (store.of_none fits quiet)
      · exact hne (store.errno_of_none ▸ zero)

@[simp] theorem outstanding_snoc (past : List (Called σ)) (x : Called σ) :
    outstanding (past ++ [x]) = outstandingAfter (outstanding past) x := by
  simp [outstanding]

/-- A decided open keeps every outstanding id open, and so does the one it returns. -/
theorem outstandingOpen_open {past : List (Called σ)} {p r : ℤ} {q : WStr} {w w' : World σ}
    (inv : OutstandingOpen past w) (decided : Decided host w (.cursorOpen p q))
    (h : OpenOutcome host p q w r w') :
    OutstandingOpen (past ++ [⟨w, .cursorOpen p q, r, w'⟩]) w' := by
  have hexclusive := (cursorOpen_exclusive_iff inv h).mpr decided
  intro id hid
  rw [outstanding_snoc, outstandingAfter] at hid
  have hold : id ∈ outstanding past →
      ∃ k : Fin maxCursors, id = k.val ∧ w'.registry.IsOpen k := by
    intro hin
    obtain ⟨k, rfl, hopen⟩ := inv id hin
    refine ⟨k, rfl, ?_⟩
    have hstep := h.step host
    generalize w.registry = t at hstep hopen
    generalize w'.registry = t' at hstep
    cases hstep with
    | opened i l res free =>
      by_cases hkl : k = l
      · rw [hkl] at hopen
        exact absurd free hopen
      · simpa [Registry.IsOpen, Registry.openCursor, hkl] using hopen
    | notOpened | undecided | kept => exact hopen
  by_cases hr : 0 ≤ r
  · rw [if_pos hr] at hid
    rcases List.mem_cons.mp hid with rfl | hin
    · obtain ⟨⟨k, hk, hopen, -⟩, -⟩ := hexclusive.1 hr
      refine ⟨k, hk, fun hnone => val_ne_neg_one k ?_⟩
      rw [← hopen, (Dll.registry_cursors_eq_none _).mp hnone]
    · exact hold hin
  · rw [if_neg hr] at hid
    exact hold hid

/-- Closing forgets the id which it closes. -/
theorem outstandingOpen_close {past : List (Called σ)} {p : ℤ} {w w' : World σ}
    (inv : OutstandingOpen past w)
    (h : Registry.Step (.cursorClose p) () w.registry w'.registry) :
    OutstandingOpen (past ++ [⟨w, .cursorClose p, (), w'⟩]) w' := by
  intro id hid
  rw [outstanding_snoc, outstandingAfter, List.mem_filter] at hid
  obtain ⟨k, rfl, hopen⟩ := inv id hid.1
  refine ⟨k, rfl, ?_⟩
  have hne : (k.val : ℤ) ≠ p := by simpa using hid.2
  generalize w.registry = t at h hopen
  generalize w'.registry = t' at h
  cases h with
  | closed l isOpen =>
    have hkl : k ≠ l := by
      rintro rfl
      exact hne rfl
    simpa [Registry.IsOpen, Registry.closeCursor, hkl] using hopen
  | notClosed | kept => exact hopen

/-- A decided call keeps every outstanding id open. -/
theorem outstandingOpen_step {turns : ℕ} {past : List (Called σ)} {x : Called σ}
    (inv : OutstandingOpen past x.before) (decided : Decided host x.before x.label)
    (h : dllStep host turns x.label x.before = .ok (x.reply, x.after)) :
    OutstandingOpen (past ++ [x]) x.after := by
  obtain ⟨w, e, r, w'⟩ := x
  have hstep : Registry.Step e r w.registry w'.registry := call_refines host h
  have hkeep : Registry.KeepsCursors e → outstanding (past ++ [⟨w, e, r, w'⟩]) = outstanding past →
      OutstandingOpen (past ++ [⟨w, e, r, w'⟩]) w' := by
    intro hcursors hsame id hid
    obtain ⟨k, hk, hopen⟩ := inv id (hsame ▸ hid)
    exact ⟨k, hk, by rwa [Registry.IsOpen, hstep.cursors hcursors]⟩
  cases e with
  | cursorOpen p q => exact outstandingOpen_open inv decided (cMySqlCursorOpen_outcome host h)
  | cursorClose p => exact outstandingOpen_close inv hstep
  | _ => exact hkeep trivial (outstanding_snoc _ _)

/-- In a run from process attach all opens are exclusive exactly if all of them are decided. -/
theorem cursorIds_exclusive_iff {turns : ℕ} {library : σ} {tr : List (Called σ)} {w : World σ}
    (h : DllRun host turns library tr w) :
    (∀ past x future, tr = past ++ x :: future → OpensExclusively past x) ↔
      ∀ x ∈ tr, Decided host x.before x.label := by
  refine Run.forall_correct_iff OutstandingOpen (fun _ => True)
    (fun past x inv _ decided hx => outstandingOpen_step inv decided hx)
    (fun past x inv _ hx => ?_) h (fun r hr => absurd hr List.not_mem_nil) fun _ _ => trivial
  obtain ⟨w, e, r, w'⟩ := x
  cases e with
  | cursorOpen p q => exact cursorOpen_exclusive_iff inv (cMySqlCursorOpen_outcome host hx)
  | _ => exact Iff.rfl

/-- A run in which one cursor is opened on the result set of its query. -/
theorem cursorIds_exclusive_sample :
    ∃ (tr : List (Called Server)) (w : World Server),
      DllRun scriptedHost 8 (Server.fresh [.ofResultSet]) tr w ∧ tr.length = 2 ∧
        ((∀ past x future, tr = past ++ x :: future → OpensExclusively past x) ↔
          ∀ x ∈ tr, Decided scriptedHost x.before x.label) := by
  have hcheck : passes (fun run => decide (run.1.length = 2))
      (replay (dllStep scriptedHost 8) [.connect .sample, .cursorOpen 0 [83]]
        (attach (Server.fresh [.ofResultSet]))) = true := by
    decide +kernel
  obtain ⟨tr, w, hrun, hlength⟩ := Run.of_passes hcheck
  exact ⟨tr, w, hrun, of_decide_eq_true hlength, cursorIds_exclusive_iff hrun⟩

/-- Two statements without rows, opened one after the other, both return the id `0`. -/
theorem cursorIds_not_exclusive :
    ∃ (tr : List (Called Server)) (w : World Server),
      DllRun scriptedHost 8 (Server.fresh []) tr w ∧
        ¬ ∀ past x future, tr = past ++ x :: future → OpensExclusively past x := by
  have hcheck : passes (fun run =>
        passes (fun first => decide (first.1 = 0) &&
            passes (fun second => decide (second.1 = 0)) ((cMySqlCursorOpen scriptedHost 0 [83]).run first.2))
          ((cMySqlCursorOpen scriptedHost 0 [83]).run run.2))
      (replay (dllStep scriptedHost 8) [.connect .sample] (attach (Server.fresh []))) = true := by
    decide +kernel
  obtain ⟨tr, w, hrun, hcheck⟩ := Run.of_passes hcheck
  obtain ⟨⟨r, w₁⟩, hfirst, hcheck⟩ := exists_of_passes hcheck
  obtain ⟨hr, hcheck⟩ := Bool.and_eq_true_iff.mp hcheck
  obtain ⟨⟨r', w₂⟩, hsecond, hr'⟩ := exists_of_passes hcheck
  obtain rfl : r = 0 := of_decide_eq_true hr
  obtain rfl : r' = 0 := of_decide_eq_true hr'
  have hopens : Run (dllStep scriptedHost 8) w
      [⟨w, .cursorOpen 0 [83], (0 : ℤ), w₁⟩, ⟨w₁, .cursorOpen 0 [83], (0 : ℤ), w₂⟩] w₂ :=
    .cons hfirst (.cons hsecond (.nil _))
  refine ⟨_, w₂, hrun.append hopens, fun hall => ?_⟩
  have hthird := hall (tr ++ [⟨w, .cursorOpen 0 [83], (0 : ℤ), w₁⟩]) ⟨w₁, .cursorOpen 0 [83], (0 : ℤ), w₂⟩ []
    (by simp)
  refine (hthird.1 le_rfl).2 ?_
  rw [outstanding_snoc, outstandingAfter, if_pos le_rfl]
  exact List.mem_cons_self

end MqlMySql
