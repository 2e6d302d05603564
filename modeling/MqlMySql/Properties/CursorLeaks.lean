import MqlMySql.Spec.ObjectSteps
import MqlMySql.Spec.Server

/-!
# Cursors which no object can close

Every open cursor slot should be the `CursorID` of some object, so that closing or deleting all objects closes
all cursors. `Open` overwrites the id of an object without closing the cursor which the object still has: that
slot is lost. This is the only way to lose one.
-/

namespace MqlMySql

open Library

variable {σ : Type}

/-- Every open cursor slot is remembered by some object. -/
abbrev CursorsHeld (c : Client σ) : Prop := AllHeld c.objects.cursorIDs c.world.registry.cursors

/-- An object is opened only when its cursor is not open any more, or is also remembered by another one. -/
def ReopensNothing (c : Client σ) : Operation → Prop
  | .openCursor o _ _ => Spare c.objects.cursorIDs c.world.registry.cursors o
  | _ => True

/-- Among some operations there is no `Open`, and every object which exists before is closed or deleted. -/
def ClosesAll (c : Client σ) (future : List (Performed σ)) : Prop :=
  (∀ x ∈ future, ∀ o y q, x.label ≠ .openCursor o y q) ∧
    ∀ o, c.objects.cursorIDs o ≠ none →
      ∃ x ∈ future, x.label = .closeCursor o ∨ x.label = .deleteCursor o

variable {host : Host σ} {turns : ℕ} {operation : Operation} {c c' : Client σ}

/-- Opening a cursor keeps all open slots remembered exactly when nothing is reopened. -/
theorem opened_held_iff {o : ℕ} {p r : ℤ} {q : WStr} (inv : CursorsHeld c)
    (cursorIDs : c'.objects.cursorIDs = Function.update c.objects.cursorIDs o (some r))
    (step : Registry.Step (.cursorOpen p q) r c.world.registry c'.world.registry) :
    CursorsHeld c' ↔ Spare c.objects.cursorIDs c.world.registry.cursors o := by
  have hgrown : ∀ j, c.world.registry.cursors j ≠ none → c'.world.registry.cursors j ≠ none := by
    intro j hj
    rcases step.open_cases with ⟨k, res, -, -, hopened⟩ | hsame
    · by_cases hjk : j = k
      · simp [hopened, Registry.openCursor, hjk]
      · simpa [hopened, Registry.openCursor, hjk] using hj
    · rwa [hsame]
  constructor
  · intro hheld
    rw [CursorsHeld, cursorIDs] at hheld
    apply spare_of_allHeld (some r)
    · intro j hj
      exact hheld j (hgrown j hj)
    · intro k hr _
      exact step.open_free k (Option.some.inj hr)
  · intro hspare
    rw [CursorsHeld, cursorIDs]
    rcases step.open_cases with ⟨k, res, hr, -, hopened⟩ | hsame
    · rw [hopened, hr]
      exact AllHeld.take inv hspare
    · rw [hsame]
      exact AllHeld.rename inv hspare

/-- Closing or deleting an object keeps all open slots remembered. -/
theorem closed_held {o : ℕ} {p : ℤ} {id : Option ℤ} (inv : CursorsHeld c)
    (held : c.objects.cursorIDs o = some p)
    (cursorIDs : c'.objects.cursorIDs = Function.update c.objects.cursorIDs o id)
    (step : Registry.Step (.cursorClose p) () c.world.registry c'.world.registry) : CursorsHeld c' := by
  rw [CursorsHeld, cursorIDs]
  rcases step.close_cases with ⟨k, rfl, -, hclosed⟩ | ⟨shut, hsame⟩
  · rw [hclosed]
    exact AllHeld.drop inv held
  · rw [hsame]
    apply AllHeld.rename inv
    intro k hk hopen
    rw [held, Option.some.injEq] at hk
    exact absurd (shut k hk) hopen

/-- An operation keeps all open slots remembered exactly when it reopens nothing. -/
theorem clientStep_held_iff {finished : Finished}
    (h : clientStep host turns operation c = .ok (finished, c')) (inv : CursorsHeld c) :
    CursorsHeld c' ↔ ReopensNothing c operation := by
  cases clientStep_objectStep h with
  | kept op connectIDs cursorIDs registry =>
    apply iff_of_true
    · rw [CursorsHeld, cursorIDs, registry]
      exact inv
    · cases operation with
      | openCursor o y q => cases op
      | _ => trivial
  | newConnection o op absent connectIDs cursorIDs registry =>
    rw [op, CursorsHeld, cursorIDs, registry]
    exact iff_of_true inv trivial
  | newCursor o op absent connectIDs cursorIDs registry =>
    rw [op, CursorsHeld, cursorIDs, registry]
    exact iff_of_true (AllHeld.rename inv (HoldsNothing.spare (Or.inl absent))) trivial
  | connected o op held negative i m free connectIDs cursorIDs registry calls =>
    rw [op, CursorsHeld, cursorIDs, registry]
    exact iff_of_true inv trivial
  | disconnected o held op connectIDs cursorIDs registry =>
    rw [CursorsHeld, cursorIDs, registry.cursors trivial]
    rcases op with ⟨op, -⟩ | ⟨op, -⟩
    · rw [op]
      exact iff_of_true inv trivial
    · rw [op]
      exact iff_of_true inv trivial
  | opened o y q op connection onto connectIDs cursorIDs outcome =>
    rw [op]
    exact opened_held_iff inv cursorIDs (outcome.step host)
  | @closed o p held id op connectIDs cursorIDs outcome =>
    have hheld := closed_held inv held cursorIDs (outcome.step host)
    rcases op with ⟨op, -⟩ | ⟨op, -⟩
    · rw [op]
      exact iff_of_true hheld trivial
    · rw [op]
      exact iff_of_true hheld trivial
  | discarded o op held negative connectIDs cursorIDs world =>
    rw [op, CursorsHeld, cursorIDs, world]
    refine iff_of_true (AllHeld.rename inv ?_) trivial
    intro k hk
    rw [held, Option.some.injEq] at hk
    omega

/-- An operation other than `Open` leaves open only what was open, and the objects which remember it are neither
closed nor deleted. -/
theorem clientStep_stillOpen {finished : Finished} {k : Fin maxCursors}
    (h : clientStep host turns operation c = .ok (finished, c'))
    (hne : ∀ o y q, operation ≠ .openCursor o y q) (stillOpen : c'.world.registry.cursors k ≠ none) :
    c.world.registry.cursors k ≠ none ∧ ∀ o, c.objects.cursorIDs o = some (k.val : ℤ) →
      c'.objects.cursorIDs o = some (k.val : ℤ) ∧
        ¬ (operation = .closeCursor o ∨ operation = .deleteCursor o) := by
  cases clientStep_objectStep h with
  | kept op connectIDs cursorIDs registry =>
    rw [registry] at stillOpen
    refine ⟨stillOpen, fun o ho => ⟨by rw [cursorIDs, ho], ?_⟩⟩
    rintro (rfl | rfl) <;> cases op
  | newConnection o' op absent connectIDs cursorIDs registry =>
    rw [registry] at stillOpen
    exact ⟨stillOpen, fun o ho => ⟨by rw [cursorIDs, ho], by simp [op]⟩⟩
  | newCursor o' op absent connectIDs cursorIDs registry =>
    rw [registry] at stillOpen
    refine ⟨stillOpen, fun o ho => ⟨?_, by simp [op]⟩⟩
    rw [cursorIDs, Function.update_of_ne, ho]
    rintro rfl
    rw [absent] at ho
    cases ho
  | connected o' op held negative i m free connectIDs cursorIDs registry calls =>
    rw [registry] at stillOpen
    exact ⟨stillOpen, fun o ho => ⟨by rw [cursorIDs, ho], by simp [op]⟩⟩
  | disconnected o' held op connectIDs cursorIDs registry =>
    rw [registry.cursors trivial] at stillOpen
    refine ⟨stillOpen, fun o ho => ⟨by rw [cursorIDs, ho], ?_⟩⟩
    rcases op with ⟨rfl, -⟩ | ⟨rfl, -⟩ <;> simp
  | opened o' y q op => exact absurd op (hne o' y q)
  | @closed o' p held id op connectIDs cursorIDs outcome =>
    have hopen : c.world.registry.cursors k ≠ none ∧ p ≠ k.val := by
      rcases (outcome.step host).close_cases with ⟨l, rfl, -, hclosed⟩ | ⟨shut, hsame⟩
      · have hkl : k ≠ l := by
          rintro rfl
          simp [hclosed, Registry.closeCursor] at stillOpen
        simp only [hclosed, Registry.closeCursor, Function.update_of_ne hkl] at stillOpen
        exact ⟨stillOpen, by omega⟩
      · rw [hsame] at stillOpen
        exact ⟨stillOpen, fun hp => stillOpen (shut k hp)⟩
    refine ⟨hopen.1, fun o ho => ?_⟩
    have hoo : o ≠ o' := by
      rintro rfl
      rw [held, Option.some.injEq] at ho
      exact hopen.2 ho
    refine ⟨by rw [cursorIDs, Function.update_of_ne hoo, ho], ?_⟩
    rcases op with ⟨rfl, -⟩ | ⟨rfl, -⟩ <;> simp [Ne.symm hoo]
  | discarded o' op held negative connectIDs cursorIDs world =>
    rw [world] at stillOpen
    refine ⟨stillOpen, fun o ho => ?_⟩
    have hoo : o ≠ o' := by
      rintro rfl
      rw [held, Option.some.injEq] at ho
      omega
    exact ⟨by rw [cursorIDs, Function.update_of_ne hoo, ho], by simp [op, Ne.symm hoo]⟩

/-- The same over any number of operations. -/
theorem run_stillOpen {future : List (Performed σ)} {k : Fin maxCursors}
    (h : Run (clientStep host turns) c future c')
    (hne : ∀ x ∈ future, ∀ o y q, x.label ≠ .openCursor o y q)
    (stillOpen : c'.world.registry.cursors k ≠ none) :
    c.world.registry.cursors k ≠ none ∧ ∀ o, c.objects.cursorIDs o = some (k.val : ℤ) →
      ∀ x ∈ future, ¬ (x.label = .closeCursor o ∨ x.label = .deleteCursor o) := by
  induction h with
  | nil => exact ⟨stillOpen, by simp⟩
  | cons head _ ih =>
    obtain ⟨hmiddle, hlater⟩ := ih (fun x hx => hne x (List.mem_cons_of_mem _ hx)) stillOpen
    obtain ⟨hstart, hfirst⟩ := clientStep_stillOpen head (hne _ List.mem_cons_self) hmiddle
    refine ⟨hstart, fun o ho x hx => ?_⟩
    obtain ⟨hkeeps, hclosing⟩ := hfirst o ho
    rcases List.mem_cons.mp hx with rfl | hx
    · exact hclosing
    · exact hlater o hkeeps x hx

/-- Closing or deleting all objects closes all cursors which are remembered. -/
theorem CursorsHeld.closed_all (inv : CursorsHeld c) {future : List (Performed σ)}
    (h : Run (clientStep host turns) c future c') (closes : ClosesAll c future) (k : Fin maxCursors) :
    c'.world.registry.cursors k = none := by
  by_contra stillOpen
  obtain ⟨hstart, hclosing⟩ := run_stillOpen h closes.1 stillOpen
  obtain ⟨o, ho⟩ := inv k hstart
  obtain ⟨x, hx, hlabel⟩ := closes.2 o (by simp [ho])
  exact hclosing o ho x hx hlabel

/-- No cursor is open at the start. -/
theorem CursorsHeld.start (library : σ) : CursorsHeld (Client.start library) := by
  intro k hk
  simp [Client.start, Registry.empty] at hk

/-- In every state of a run each open cursor slot is remembered by some object, and closing or deleting all
objects leaves no cursor open, exactly when the run reopens no object whose cursor is open. -/
theorem cursorObjects_leakFree_iff {library : σ} {tr : List (Performed σ)}
    (h : ClientRun host turns library tr c) :
    ((∀ x ∈ tr, CursorsHeld x.after) ∧ ∀ future c', Run (clientStep host turns) c future c' →
        ClosesAll c future → ∀ k, c'.world.registry.cursors k = none) ↔
      ∀ x ∈ tr, ReopensNothing x.before x.label := by
  have hstates : (∀ past x future, tr = past ++ x :: future → CursorsHeld x.after) ↔
      ∀ x ∈ tr, ReopensNothing x.before x.label := by
    apply Run.forall_correct_iff (fun _ c => CursorsHeld c) (fun _ => True) _ _ h
      (CursorsHeld.start library) (fun _ _ => trivial)
    · intro past x inv _ meets hx
      exact (clientStep_held_iff hx inv).mpr meets
    · intro past x inv _ hx
      exact clientStep_held_iff hx inv
  rw [forall_split_iff] at hstates
  rw [← hstates, and_iff_left_iff_imp]
  intro hall future c' hrun closes k
  have hend : CursorsHeld c :=
    h.keeps CursorsHeld (fun x hx _ _ => hall x hx) (CursorsHeld.start library)
  exact hend.closed_all hrun closes k

/-- An object is opened after its cursor was closed. -/
def opensAfresh (c : Client σ) : Operation → Bool
  | .openCursor o _ _ => decide (∀ k : Fin maxCursors,
      c.objects.cursorIDs o = some (k.val : ℤ) → c.world.registry.cursors k = none)
  | _ => true

/-- Opening afresh reopens nothing. -/
theorem reopensNothing_of_afresh (h : opensAfresh c operation = true) : ReopensNothing c operation := by
  cases operation with
  | openCursor o y q =>
    rw [opensAfresh, decide_eq_true_eq] at h
    intro k hk hopen
    exact absurd (h k hk) hopen
  | _ => trivial

/-- The first operations of the runs below: an object connects, and a cursor object is created. -/
def oneCursor : List Operation :=
  [.newConnection 0, .setCredentials 0 .sample, .connect 0, .newCursor 0]

/-- A run in which an object is opened, closed and opened again. -/
theorem cursorObjects_leakFree_sample :
    ∃ (tr : List (Performed Server)) (c : Client Server),
      ClientRun scriptedHost 8 (Server.fresh [.ofDone, .ofResultSet, .ofResultSet]) tr c ∧
        c.world.dll.openCursor 0 ≠ none ∧ (∀ x ∈ tr, CursorsHeld x.after) ∧
          ∀ future c', Run (clientStep scriptedHost 8) c future c' → ClosesAll c future →
            ∀ k, c'.world.registry.cursors k = none := by
  have hcheck : passes (fun run => decide (run.2.world.dll.openCursor 0 ≠ none) &&
        run.1.all fun x => opensAfresh x.before x.label)
      (replay (clientStep scriptedHost 8)
        (oneCursor ++ [.openCursor 0 0 [83], .closeCursor 0, .openCursor 0 0 [83]])
        (Client.start (Server.fresh [.ofDone, .ofResultSet, .ofResultSet]))) = true := by
    decide +kernel
  obtain ⟨tr, c, hrun, hcheck⟩ := Run.of_passes hcheck
  rw [Bool.and_eq_true, List.all_eq_true] at hcheck
  refine ⟨tr, c, hrun, of_decide_eq_true hcheck.1, (cursorObjects_leakFree_iff hrun).mpr ?_⟩
  intro x hx
  exact reopensNothing_of_afresh (hcheck.2 x hx)

/-- An object which was never created does not exist. -/
theorem clientStep_absent {finished : Finished} {o : ℕ}
    (h : clientStep host turns operation c = .ok (finished, c')) (hne : operation ≠ .newCursor o)
    (absent : c.objects.cursorIDs o = none) : c'.objects.cursorIDs o = none := by
  cases clientStep_objectStep h with
  | kept op connectIDs cursorIDs => rw [cursorIDs, absent]
  | newConnection o' op _ connectIDs cursorIDs => rw [cursorIDs, absent]
  | newCursor o' op _ connectIDs cursorIDs =>
    rw [cursorIDs, Function.update_of_ne, absent]
    rintro rfl
    exact hne op
  | connected o' op held negative i m free connectIDs cursorIDs => rw [cursorIDs, absent]
  | disconnected o' held op connectIDs cursorIDs => rw [cursorIDs, absent]
  | opened o' y q op connection onto connectIDs cursorIDs =>
    rw [cursorIDs, Function.update_of_ne, absent]
    rintro rfl
    rw [Objects.cursorIDs, Option.map_eq_none_iff] at absent
    simp [op, clientStep, Operation.perform, Objects.onCursor, absent] at h
  | closed o' held op connectIDs cursorIDs =>
    rw [cursorIDs, Function.update_of_ne, absent]
    rintro rfl
    rw [absent] at held
    cases held
  | discarded o' op held negative connectIDs cursorIDs =>
    rw [cursorIDs, Function.update_of_ne, absent]
    rintro rfl
    rw [absent] at held
    cases held

/-- Operations which open an object twice. -/
def reopening : List Operation := oneCursor ++ [.openCursor 0 0 [83], .openCursor 0 0 [83]]

/-- When an object is opened twice, its first cursor stays open and no object remembers it. -/
theorem reopenedCursor_lost :
    ∃ (tr : List (Performed Server)) (c : Client Server),
      ClientRun scriptedHost 8 (Server.fresh [.ofDone, .ofResultSet, .ofResultSet]) tr c ∧
        ¬ CursorsHeld c := by
  have hcheck : passes (fun run => decide (run.2.world.dll.openCursor 0 ≠ none ∧
        run.2.objects.cursorIDs 0 = some 1 ∧ run.1.map Recorded.label = reopening))
      (replay (clientStep scriptedHost 8) reopening
        (Client.start (Server.fresh [.ofDone, .ofResultSet, .ofResultSet]))) = true := by
    decide +kernel
  obtain ⟨tr, c, hrun, hcheck⟩ := Run.of_passes hcheck
  obtain ⟨hopen, hid, hlabels⟩ := of_decide_eq_true hcheck
  refine ⟨tr, c, hrun, fun hheld => ?_⟩
  obtain ⟨k, hk⟩ := Option.ne_none_iff_exists'.mp hopen
  obtain ⟨hk, hslot⟩ := openCursor_eq_some_iff.mp hk
  obtain ⟨o, ho⟩ := hheld k fun hnone => hslot (c.world.dll.registry_cursors_eq_none.mp hnone)
  by_cases hoo : o = 0
  · rw [hoo, hid, Option.some.injEq] at ho
    omega
  · have habsent : c.objects.cursorIDs o = none := by
      apply hrun.keeps (fun c => c.objects.cursorIDs o = none) _ rfl
      intro x hx hstep
      apply clientStep_absent hstep
      intro hlabel
      have hmem : Operation.newCursor o ∈ reopening := by
        rw [← hlabels, ← hlabel]
        exact List.mem_map_of_mem hx
      simp [reopening, oneCursor, hoo] at hmem
    rw [habsent] at ho
    cases ho

end MqlMySql
