import MqlMySql.Spec.ObjectSteps
import MqlMySql.Spec.Opening
import MqlMySql.Spec.Server

/-!
# Cursor objects and their ids

A `CMySQLCursor` object should never touch the cursor of another one: no two objects should remember the
same id, and an object should free only a record set which it opened itself. The code breaks this in two
ways. An open which is not decided hands out the number of a slot that stays free, and `Close` keeps the
id when the error number read after closing is not `0`; that number is the DLL-wide one, since the slot is
no longer open. Runs without either keep the objects apart.
-/

namespace MqlMySql

open Library

variable {σ : Type}

/-- No two objects remember the same id. -/
def ExclusiveIDs (objects : Objects) : Prop :=
  ∀ o o' id, 0 ≤ id → objects.cursorIDs o = some id → objects.cursorIDs o' = some id → o = o'

/-- An `Open` of the object obtained the record set in its last library call and returned the slot, and
the object has remembered the slot since. -/
def OpenedWith (tr : List (Performed σ)) (o : ℕ) (k : Fin maxCursors) (c : ℤ × Option MysqlRes) : Prop :=
  ∃ res, c.2 = some res ∧
    Since (fun x => (∃ y q, x.label = .openCursor o y q) ∧ ∃ m made,
        x.after.world.calls = .storeResult m (some res) :: made ∧ x.before.world.calls <:+ made)
      (fun client => client.objects.cursorIDs o = some (k.val : ℤ)) tr

/-- `Close` and the destructor free only what an `Open` of the same object obtained. -/
def FreesOwn (past : List (Performed σ)) (x : Performed σ) : Prop :=
  ∀ o, x.label = .closeCursor o ∨ x.label = .deleteCursor o →
    ∀ made rs, x.after.world.calls = made ++ x.before.world.calls → .freeResult rs ∈ made →
      ∃ k p, OpenedWith past o k (p, rs)

/-- Opens are decided, and `Close` of an open cursor finds no error in the DLL-wide cell. -/
def Tidy (host : Host σ) (c : Client σ) : Operation → Prop
  | .openCursor _ y q => ∀ connection, c.objects.connections y = some connection →
      Decided host c.world (.cursorOpen connection.connectID q)
  | .closeCursor o => ∀ id, c.objects.cursorIDs o = some id →
      c.world.dll.openCursor id ≠ none → c.world.dll.cursorErrorNumber = 0
  | _ => True

instance (host : Host σ) (c : Client σ) : (operation : Operation) → Decidable (Tidy host c operation)
  | .openCursor _ y q =>
    match h : c.objects.connections y with
    | none => isTrue fun connection hconnection => by simp [h] at hconnection
    | some connection => decidable_of_iff (Decided host c.world (.cursorOpen connection.connectID q))
        (by simp [Tidy, h])
  | .closeCursor o =>
    match h : c.objects.cursorIDs o with
    | none => isTrue fun id hid => by simp [h] at hid
    | some id => decidable_of_iff
        (c.world.dll.openCursor id ≠ none → c.world.dll.cursorErrorNumber = 0) (by simp [Tidy, h])
  | .newConnection _ | .setCredentials _ _ | .connect _ | .disconnect _ | .execute _ _ => isTrue trivial
  | .rowsAffected _ | .deleteConnection _ | .newCursor _ | .rows _ | .fetch _ => isTrue trivial
  | .fieldAsString _ _ | .deleteCursor _ => isTrue trivial

/-- The cursor objects of a client hold slots of their own. -/
abbrev HoldsCursors (tr : List (Performed σ)) (c : Client σ) : Prop :=
  Holds (OpenedWith tr) c.objects.cursorIDs c.world.registry.cursors

variable {host : Host σ} {turns : ℕ} {past : List (Performed σ)} {x : Performed σ}

theorem OpenedWith.snoc {o : ℕ} {k : Fin maxCursors} {c : ℤ × Option MysqlRes}
    (h : OpenedWith past o k c) (hid : x.after.objects.cursorIDs o = some (k.val : ℤ)) :
    OpenedWith (past ++ [x]) o k c := by
  obtain ⟨res, hres, hsince⟩ := h
  exact ⟨res, hres, hsince.snoc hid⟩

/-- An operation which changes neither the ids nor the open slots. -/
theorem HoldsCursors.keep (inv : HoldsCursors past x.before)
    (cursorIDs : x.after.objects.cursorIDs = x.before.objects.cursorIDs)
    (cursors : x.after.world.registry.cursors = x.before.world.registry.cursors) :
    HoldsCursors (past ++ [x]) x.after := by
  rw [HoldsCursors, cursors, cursorIDs]
  apply inv.mono
  intro o k c h ho
  exact h.snoc (by rw [cursorIDs, ho])

/-- An object comes into being, or forgets its id, and the open slots stay. -/
theorem HoldsCursors.forget (inv : HoldsCursors past x.before) {o : ℕ} {id : Option ℤ}
    (hid : HoldsNothing id)
    (cursorIDs : x.after.objects.cursorIDs = Function.update x.before.objects.cursorIDs o id)
    (cursors : x.after.world.registry.cursors = x.before.world.registry.cursors) :
    HoldsCursors (past ++ [x]) x.after := by
  rw [HoldsCursors, cursors, cursorIDs]
  apply Holds.forget inv hid
  intro o' j c h ho'
  exact h.snoc (by rw [cursorIDs, ho'])

/-- A decided open keeps the objects apart. -/
theorem HoldsCursors.open (inv : HoldsCursors past x.before) {o y : ℕ} {q : WStr} {p r : ℤ}
    (op : x.label = .openCursor o y q) (decided : Decided host x.before.world (.cursorOpen p q))
    (cursorIDs : x.after.objects.cursorIDs = Function.update x.before.objects.cursorIDs o (some r))
    (outcome : OpenOutcome host p q x.before.world r x.after.world) :
    HoldsCursors (past ++ [x]) x.after := by
  rcases outcome.of_decided decided with
    ⟨rfl, hsame⟩ | ⟨k, res, m, made, rfl, free, hopened, hcalls, hgrown⟩
  · exact inv.forget (Or.inr rfl) cursorIDs (by rw [hsame])
  · rw [HoldsCursors, hopened, cursorIDs]
    apply Holds.take inv free
    · refine ⟨res, rfl, Since.begin ⟨⟨y, q, op⟩, m, made, hcalls, hgrown⟩ ?_⟩
      rw [cursorIDs, Function.update_self]
    · intro o' j c h ho'
      exact h.snoc (by rw [cursorIDs, ho'])

/-- Closing keeps the objects apart as long as the object forgets what it closed. -/
theorem HoldsCursors.close (inv : HoldsCursors past x.before) {o : ℕ} {p : ℤ}
    (held : x.before.objects.cursorIDs o = some p) {id : Option ℤ} (hid : HoldsNothing id)
    (cursorIDs : x.after.objects.cursorIDs = Function.update x.before.objects.cursorIDs o id)
    (outcome : CloseOutcome host p x.before.world x.after.world) :
    HoldsCursors (past ++ [x]) x.after := by
  rcases (outcome.step host).close_cases with ⟨k, rfl, -, hclosed⟩ | ⟨-, hsame⟩
  · rw [HoldsCursors, hclosed, cursorIDs]
    apply Holds.drop
    · apply Holds.forget inv hid
      intro o' j c h ho'
      exact h.snoc (by rw [cursorIDs, ho'])
    · exact Holds.forgotten inv held hid
  · exact inv.forget hid cursorIDs (by rw [hsame])

/-- A tidy operation keeps the objects apart. -/
theorem HoldsCursors.step (inv : HoldsCursors past x.before) (tidy : Tidy host x.before x.label)
    (h : clientStep host turns x.label x.before = .ok (x.reply, x.after)) :
    HoldsCursors (past ++ [x]) x.after := by
  cases clientStep_objectStep h with
  | kept op connectIDs cursorIDs registry => exact inv.keep cursorIDs (by rw [registry])
  | newConnection o op absent connectIDs cursorIDs registry =>
    exact inv.keep cursorIDs (by rw [registry])
  | newCursor o op absent connectIDs cursorIDs registry =>
    exact inv.forget (Or.inr rfl) cursorIDs (by rw [registry])
  | connected o op held negative i m free connectIDs cursorIDs registry calls =>
    exact inv.keep cursorIDs (by rw [registry]; rfl)
  | disconnected o held op connectIDs cursorIDs registry =>
    exact inv.keep cursorIDs (registry.cursors trivial)
  | opened o y q op connection onto connectIDs cursorIDs outcome =>
    rw [op] at tidy
    exact inv.open op (tidy connection onto) cursorIDs outcome
  | @closed o p held id op connectIDs cursorIDs outcome =>
    have hid : HoldsNothing id := by
      rcases op with ⟨op, rfl⟩ | ⟨-, rfl⟩
      · rw [op] at tidy
        apply Or.inr
        rcases inv.held o p held with rfl | ⟨k, c, rfl, hc, -⟩
        · rw [ite_self]
        · have isOpen : x.before.world.dll.openCursor k.val ≠ none := by
            rw [openCursor_of_registry]
            · exact Option.some_ne_none k
            · rw [World.dll_registry, hc]
              exact Option.some_ne_none c
          rw [if_pos ((outcome.number isOpen).trans (tidy _ held isOpen))]
      · exact Or.inl rfl
    exact inv.close held hid cursorIDs outcome
  | discarded o op held negative connectIDs cursorIDs world =>
    exact inv.forget (Or.inl rfl) cursorIDs (by rw [world])

/-- Closing a registered cursor frees its record set. -/
theorem CloseOutcome.freed {k : Fin maxCursors} {c : ℤ × Option MysqlRes} {w w' : World σ}
    (h : CloseOutcome host k.val w w') (hc : w.registry.cursors k = some c) :
    w'.calls = .freeResult c.2 :: w.calls := by
  cases h with
  | wrong shut =>
    rw [openCursor_of_registry] at shut
    · cases shut
    · rw [World.dll_registry, hc]
      exact Option.some_ne_none c
  | closed l hl isOpen =>
    obtain rfl : k = l := Fin.ext (by omega)
    rw [World.cursor_of_registry isOpen, Option.some.injEq] at hc
    rw [World.onDll_calls, World.commanded_calls, World.onDll_calls, ← hc]

/-- Closing no cursor makes no library call. -/
theorem CloseOutcome.freed_nothing {p : ℤ} {w w' : World σ} (h : CloseOutcome host p w w')
    (shut : w.dll.openCursor p = none) : w'.calls = w.calls := by
  cases h with
  | wrong => rfl
  | closed k hp isOpen =>
    rw [hp, openCursor_val, if_neg isOpen] at shut
    cases shut

/-- What is freed when an object closes its cursor was opened by that object. -/
theorem HoldsCursors.freesOwn (inv : HoldsCursors past x.before)
    (h : clientStep host turns x.label x.before = .ok (x.reply, x.after)) : FreesOwn past x := by
  intro o hop made rs hmade hmem
  have hclosing : ¬ x.label.Keeps := by
    rcases hop with hop | hop <;> rw [hop] <;> exact id
  cases clientStep_objectStep h with
  | kept op => exact absurd op hclosing
  | newConnection _ op | newCursor _ op | connected _ op | opened _ _ _ op =>
    rw [op] at hop
    simp at hop
  | disconnected _ held op =>
    rcases op with ⟨op, -⟩ | ⟨op, -⟩ <;> rw [op] at hop <;> simp at hop
  | discarded _ _ _ _ _ _ world =>
    rw [world] at hmade
    obtain rfl := List.self_eq_append_left.mp hmade
    cases hmem
  | @closed o' p held id op connectIDs cursorIDs outcome =>
    obtain rfl : o' = o := by
      rcases op with ⟨op, -⟩ | ⟨op, -⟩ <;> rw [op] at hop <;> simpa using hop
    rcases inv.held o' p held with rfl | ⟨k, c, rfl, hc, hopened⟩
    · rw [outcome.freed_nothing openCursor_neg_one] at hmade
      obtain rfl := List.self_eq_append_left.mp hmade
      cases hmem
    · rw [outcome.freed hc] at hmade
      obtain rfl := List.append_cancel_right (List.singleton_append.trans hmade)
      obtain rfl : rs = c.2 := by simpa using hmem
      exact ⟨k, c.1, hopened⟩

/-- No object remembers an id at the start. -/
theorem HoldsCursors.start (library : σ) : HoldsCursors [] (Client.start library) := by
  constructor
  · intro o p ho
    cases ho
  · intro o o' p ho
    cases ho

/-- In every run whose operations are tidy, the cursor objects remember different ids and free only what
they opened themselves. -/
theorem cursorObjects_exclusive {library : σ} {tr : List (Performed σ)} {c : Client σ}
    (h : ClientRun host turns library tr c) (tidy : ∀ x ∈ tr, Tidy host x.before x.label) :
    ExclusiveIDs c.objects ∧ ∀ past x future, tr = past ++ x :: future → FreesOwn past x := by
  have inv : ∀ past c, ClientRun host turns library past c →
      (∀ x ∈ past, Tidy host x.before x.label) → HoldsCursors past c := by
    intro past c hpast hall
    exact Run.preserves_history (fun past x inv htidy hx => HoldsCursors.step inv htidy hx) hpast
      (HoldsCursors.start library) hall
  constructor
  · intro o o' id hid ho ho'
    exact (inv tr c h tidy).exclusive o o' id ho ho' (by omega)
  · intro past x future htr
    subst htr
    obtain ⟨hpast, hx, -⟩ := h.split_at
    exact HoldsCursors.freesOwn (inv past x.before hpast fun y hy => tidy y (by simp [hy])) hx

/-- The first operations of the runs below: an object connects, and two cursor objects are created. -/
def twoCursors : List Operation :=
  [.newConnection 0, .setCredentials 0 .sample, .connect 0, .newCursor 0, .newCursor 1]

/-- A run in which the slot of a closed cursor is reused by another object. -/
theorem cursorObjects_exclusive_sample :
    ∃ (tr : List (Performed Server)) (c : Client Server),
      ClientRun scriptedHost 8 (Server.fresh [.ofDone, .ofResultSet, .ofResultSet]) tr c ∧
        tr.length = 9 ∧ ExclusiveIDs c.objects ∧
          ∀ past x future, tr = past ++ x :: future → FreesOwn past x := by
  have hcheck : passes (fun run => decide (run.1.length = 9) &&
        run.1.all fun x => decide (Tidy scriptedHost x.before x.label))
      (replay (clientStep scriptedHost 8)
        (twoCursors ++ [.openCursor 0 0 [83], .closeCursor 0, .openCursor 1 0 [83], .closeCursor 1])
        (Client.start (Server.fresh [.ofDone, .ofResultSet, .ofResultSet]))) = true := by
    decide +kernel
  obtain ⟨tr, c, hrun, hcheck⟩ := Run.of_passes hcheck
  rw [Bool.and_eq_true, List.all_eq_true] at hcheck
  refine ⟨tr, c, hrun, of_decide_eq_true hcheck.1, cursorObjects_exclusive hrun ?_⟩
  intro x hx
  exact of_decide_eq_true (hcheck.2 x hx)

/-- Neither kind of untidy operation keeps the objects apart: two opens without a record set return the
same id, and an object which closed its cursor while the DLL-wide cell held an error still remembers the id
when another object is given it. -/
theorem cursorObjects_not_exclusive :
    (∃ (tr : List (Performed Server)) (c : Client Server),
      ClientRun scriptedHost 8 (Server.fresh []) tr c ∧ ¬ ExclusiveIDs c.objects) ∧
    ∃ (tr : List (Performed Server)) (c : Client Server),
      ClientRun scriptedHost 8 (Server.fresh [.ofDone, .ofResultSet, .ofResultSet]) tr c ∧
        ¬ ExclusiveIDs c.objects := by
  have hshared : ∀ objects : Objects, objects.cursorIDs 0 = some 0 ∧ objects.cursorIDs 1 = some 0 →
      ¬ ExclusiveIDs objects := by
    intro objects hids hexclusive
    exact absurd (hexclusive 0 1 0 le_rfl hids.1 hids.2) (by decide)
  constructor
  · have hcheck : passes (fun run => decide (run.2.objects.cursorIDs 0 = some 0 ∧
          run.2.objects.cursorIDs 1 = some 0))
        (replay (clientStep scriptedHost 8)
          (twoCursors ++ [.openCursor 0 0 [83], .openCursor 1 0 [83]])
          (Client.start (Server.fresh []))) = true := by
      decide +kernel
    obtain ⟨tr, c, hrun, hcheck⟩ := Run.of_passes hcheck
    exact ⟨tr, c, hrun, hshared _ (of_decide_eq_true hcheck)⟩
  · have hcheck : passes (fun run => decide (run.2.objects.cursorIDs 0 = some 0 ∧
          run.2.objects.cursorIDs 1 = some 0))
        (replay (clientStep scriptedHost 8)
          (twoCursors ++ [.openCursor 0 0 [83], .rows 1, .closeCursor 0, .openCursor 1 0 [83]])
          (Client.start (Server.fresh [.ofDone, .ofResultSet, .ofResultSet]))) = true := by
      decide +kernel
    obtain ⟨tr, c, hrun, hcheck⟩ := Run.of_passes hcheck
    exact ⟨tr, c, hrun, hshared _ (of_decide_eq_true hcheck)⟩

end MqlMySql
