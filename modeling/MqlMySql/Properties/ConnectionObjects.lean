import MqlMySql.Spec.ObjectSteps
import MqlMySql.Spec.Server

/-!
# Connection objects own their slots

Whatever a client does with its objects, each `CMySQL` object remembers `-1` or the number of a live
slot, no two remember the same, every live slot is remembered by an object, and it stores the handle
which the `Connect` of that object got from `mysql_init`.
-/

namespace MqlMySql

open Library

variable {σ : Type}

/-- `Connect` of the object took the slot with the handle, which the library allocated in its first call,
and the object has remembered the slot since. -/
def ConnectedWith (tr : List (Performed σ)) (o : ℕ) (i : Fin maxConnections) (handle : Option Mysql) :
    Prop :=
  ∃ m, handle = some m ∧
    Since (fun x => x.label = .connect o ∧ x.before.objects.connectIDs o = some (-1) ∧
        (.init (some m) :: x.before.world.calls) <:+ x.after.world.calls)
      (fun c => c.objects.connectIDs o = some (i.val : ℤ)) tr

/-- The connection objects of a client hold the live slots one to one. -/
structure OwnsSlots (tr : List (Performed σ)) (c : Client σ) : Prop where
  holds : Holds (ConnectedWith tr) c.objects.connectIDs c.world.registry.connections
  allHeld : AllHeld c.objects.connectIDs c.world.registry.connections

variable {host : Host σ} {turns : ℕ} {past : List (Performed σ)} {x : Performed σ}

theorem ConnectedWith.snoc {o : ℕ} {i : Fin maxConnections} {handle : Option Mysql}
    (h : ConnectedWith past o i handle) (hid : x.after.objects.connectIDs o = some (i.val : ℤ)) :
    ConnectedWith (past ++ [x]) o i handle := by
  obtain ⟨m, rfl, hsince⟩ := h
  exact ⟨m, rfl, hsince.snoc hid⟩

/-- An operation which changes neither the ids nor the live slots. -/
theorem OwnsSlots.keep (inv : OwnsSlots past x.before)
    (connectIDs : x.after.objects.connectIDs = x.before.objects.connectIDs)
    (connections : x.after.world.registry.connections = x.before.world.registry.connections) :
    OwnsSlots (past ++ [x]) x.after := by
  constructor
  · rw [connections, connectIDs]
    apply inv.holds.mono
    intro o i handle h ho
    exact h.snoc (by rw [connectIDs, ho])
  · rw [connections, connectIDs]
    exact inv.allHeld

/-- An object which holds nothing comes into being, or forgets that. -/
theorem OwnsSlots.forget (inv : OwnsSlots past x.before) {o : ℕ} {id : Option ℤ}
    (ho : HoldsNothing (x.before.objects.connectIDs o)) (hid : HoldsNothing id)
    (connectIDs : x.after.objects.connectIDs = Function.update x.before.objects.connectIDs o id)
    (connections : x.after.world.registry.connections = x.before.world.registry.connections) :
    OwnsSlots (past ++ [x]) x.after := by
  constructor
  · rw [connections, connectIDs]
    apply inv.holds.forget hid
    intro o' j handle h ho'
    exact h.snoc (by rw [connectIDs, ho'])
  · rw [connections, connectIDs]
    exact inv.allHeld.rename ho.spare

/-- An object disconnects from the slot which it holds. -/
theorem OwnsSlots.drop (inv : OwnsSlots past x.before) {o : ℕ} {i : Fin maxConnections}
    (held : x.before.objects.connectIDs o = some (i.val : ℤ)) {id : Option ℤ} (hid : HoldsNothing id)
    (connectIDs : x.after.objects.connectIDs = Function.update x.before.objects.connectIDs o id)
    (connections : x.after.world.registry.connections =
      Function.update x.before.world.registry.connections i none) :
    OwnsSlots (past ++ [x]) x.after := by
  constructor
  · rw [connections, connectIDs]
    apply Holds.drop
    · apply inv.holds.forget hid
      intro o' j handle h ho'
      exact h.snoc (by rw [connectIDs, ho'])
    · exact inv.holds.forgotten held hid
  · rw [connections, connectIDs]
    exact inv.allHeld.drop held

/-- An object which holds nothing connects. -/
theorem OwnsSlots.take (inv : OwnsSlots past x.before) {o : ℕ} (op : x.label = .connect o)
    (held : x.before.objects.connectIDs o = some (-1)) {i : Fin maxConnections} {m : Mysql}
    (free : x.before.world.registry.connections i = none)
    (connectIDs : x.after.objects.connectIDs =
      Function.update x.before.objects.connectIDs o (some (i.val : ℤ)))
    (connections : x.after.world.registry.connections =
      Function.update x.before.world.registry.connections i (some (some m)))
    (calls : (.init (some m) :: x.before.world.calls) <:+ x.after.world.calls) :
    OwnsSlots (past ++ [x]) x.after := by
  constructor
  · rw [connections, connectIDs]
    apply inv.holds.take free
    · refine ⟨m, rfl, Since.begin ⟨op, held, calls⟩ ?_⟩
      rw [connectIDs, Function.update_self]
    · intro o' j handle h ho'
      exact h.snoc (by rw [connectIDs, ho'])
  · rw [connections, connectIDs]
    exact inv.allHeld.take (HoldsNothing.spare (Or.inr held))

/-- Every operation keeps the slots owned. -/
theorem OwnsSlots.step (inv : OwnsSlots past x.before)
    (h : clientStep host turns x.label x.before = .ok (x.reply, x.after)) :
    OwnsSlots (past ++ [x]) x.after := by
  cases clientStep_objectStep h with
  | kept op connectIDs cursorIDs registry => exact inv.keep connectIDs (by rw [registry])
  | newConnection o op absent connectIDs cursorIDs registry =>
    exact inv.forget (Or.inl absent) (Or.inr rfl) connectIDs (by rw [registry])
  | newCursor o op absent connectIDs cursorIDs registry => exact inv.keep connectIDs (by rw [registry])
  | connected o op held negative i m free connectIDs cursorIDs registry calls =>
    obtain rfl := inv.holds.eq_neg_one held negative
    exact inv.take op held free connectIDs (by rw [registry]; rfl) calls
  | @disconnected o p held id op connectIDs cursorIDs registry =>
    have hid : HoldsNothing id := by
      rcases op with ⟨-, rfl⟩ | ⟨-, rfl⟩
      · exact Or.inr rfl
      · exact Or.inl rfl
    rcases registry.disconnect_cases with ⟨i, rfl, -, hregistry⟩ | ⟨hdead, hregistry⟩
    · exact inv.drop held hid connectIDs (by rw [hregistry]; rfl)
    · have hp : p = -1 := by
        rcases inv.holds.held o p held with hp | ⟨i, handle, hp, hlive, -⟩
        · exact hp
        · rw [hdead i hp] at hlive
          cases hlive
      exact inv.forget (Or.inr (held.trans (by rw [hp]))) hid connectIDs (by rw [hregistry])
  | opened o y q op connection onto connectIDs cursorIDs outcome =>
    exact inv.keep connectIDs ((outcome.step host).connections trivial)
  | closed o held op connectIDs cursorIDs outcome =>
    exact inv.keep connectIDs ((outcome.step host).connections trivial)
  | discarded o op held negative connectIDs cursorIDs world =>
    exact inv.keep connectIDs (by rw [world])

/-- Without objects no slot is live. -/
theorem OwnsSlots.start (library : σ) : OwnsSlots [] (Client.start library) := by
  have hnone : ∀ i, (Client.start library).world.registry.connections i = none := by
    intro i
    simp [Client.start, Registry.empty]
  constructor
  · constructor
    · intro o p ho
      cases ho
    · intro o o' p ho
      cases ho
  · intro i hi
    exact absurd (hnone i) hi

/-- Once all connection objects are deleted, no slot is live. -/
theorem OwnsSlots.none_live {tr : List (Performed σ)} {c : Client σ} (inv : OwnsSlots tr c)
    (deleted : ∀ o, c.objects.connections o = none) (i : Fin maxConnections) :
    (c.world.dll.connections i).id = -1 := by
  apply (Dll.registry_connections_eq_none _).mp
  by_contra hlive
  obtain ⟨o, ho⟩ := inv.allHeld i hlive
  simp [Objects.connectIDs, deleted o] at ho

/-- In every run of a client the connection objects own the live slots, and without them none is live. -/
theorem connectionObjects_own_slots {library : σ} {tr : List (Performed σ)} {c : Client σ}
    (h : ClientRun host turns library tr c) :
    OwnsSlots tr c ∧
      ((∀ o, c.objects.connections o = none) → ∀ i, (c.world.dll.connections i).id = -1) := by
  have inv : OwnsSlots tr c := by
    apply Run.reverse_induction (OwnsSlots.start library) _ h
    intro past x _ inv hx
    exact inv.step hx
  exact ⟨inv, inv.none_live⟩

/-- Two objects connect and one of them disconnects, so that the slot of the other is live. -/
theorem connectionObjects_own_slots_sample :
    ∃ (tr : List (Performed Server)) (c : Client Server),
      ClientRun scriptedHost 8 (Server.fresh []) tr c ∧ tr.length = 7 ∧
        c.objects.connectIDs 1 = some 1 ∧ (∃ i, (c.world.dll.connections i).id ≠ -1) ∧ OwnsSlots tr c ∧
          ((∀ o, c.objects.connections o = none) → ∀ i, (c.world.dll.connections i).id = -1) := by
  have hcheck : passes (fun run => decide (run.1.length = 7 ∧ run.2.objects.connectIDs 1 = some 1 ∧
        (∃ i, (run.2.world.dll.connections i).id ≠ -1)))
      (replay (clientStep scriptedHost 8)
        [.newConnection 0, .setCredentials 0 .sample, .connect 0, .newConnection 1,
          .setCredentials 1 .sample, .connect 1, .disconnect 0]
        (Client.start (Server.fresh []))) = true := by
    decide +kernel
  obtain ⟨tr, c, hrun, hcheck⟩ := Run.of_passes hcheck
  obtain ⟨hlength, hid, hlive⟩ := of_decide_eq_true hcheck
  exact ⟨tr, c, hrun, hlength, hid, hlive, connectionObjects_own_slots hrun⟩

end MqlMySql
