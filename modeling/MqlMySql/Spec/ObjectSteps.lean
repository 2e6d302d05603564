import MqlMySql.Spec.Objects

/-!
# What an operation does to the ids of the objects

`ObjectStep` lists what one performed operation may do to the ids which the objects of a client
remember, together with what the DLL does at the same time. `clientStep_objectStep` shows that every
operation which comes to its end is one of these.
-/

namespace MqlMySql

open Library

/-- The `ConnectID` of each connection object. -/
def Objects.connectIDs (objects : Objects) (o : ℕ) : Option ℤ :=
  (objects.connections o).map CMySQL.connectID

/-- The `CursorID` of each cursor object. -/
def Objects.cursorIDs (objects : Objects) (o : ℕ) : Option ℤ :=
  (objects.cursors o).map CMySQLCursor.cursorID

section Ids

variable (objects : Objects) (o : ℕ) (connection : Option CMySQL) (cursor : Option CMySQLCursor)

/-- Storing a connection object updates one remembered id. -/
@[simp] theorem Objects.setConnection_connectIDs : (objects.setConnection o connection).connectIDs =
    Function.update objects.connectIDs o (connection.map CMySQL.connectID) := by
  funext o'
  by_cases hoo : o' = o
  · subst hoo
    simp [connectIDs, setConnection]
  · simp [connectIDs, setConnection, hoo]

/-- Storing a cursor object updates one remembered id. -/
@[simp] theorem Objects.setCursor_cursorIDs : (objects.setCursor o cursor).cursorIDs =
    Function.update objects.cursorIDs o (cursor.map CMySQLCursor.cursorID) := by
  funext o'
  by_cases hoo : o' = o
  · subst hoo
    simp [cursorIDs, setCursor]
  · simp [cursorIDs, setCursor, hoo]

/-- Storing a connection object keeps the ids of the cursor objects. -/
@[simp] theorem Objects.setConnection_cursorIDs :
    (objects.setConnection o connection).cursorIDs = objects.cursorIDs := rfl

/-- Storing a cursor object keeps the ids of the connection objects. -/
@[simp] theorem Objects.setCursor_connectIDs :
    (objects.setCursor o cursor).connectIDs = objects.connectIDs := rfl

variable {objects o}

/-- The id which a connection object remembers. -/
theorem Objects.connectIDs_of {this : CMySQL} (h : objects.connections o = some this) :
    objects.connectIDs o = some this.connectID := by
  simp [connectIDs, h]

/-- The id which a cursor object remembers. -/
theorem Objects.cursorIDs_of {this : CMySQLCursor} (h : objects.cursors o = some this) :
    objects.cursorIDs o = some this.cursorID := by
  simp [cursorIDs, h]

/-- Keeping the id of an object keeps all ids. -/
theorem Objects.keep_connectIDs {this this' : CMySQL} (h : objects.connections o = some this)
    (hid : this'.connectID = this.connectID) :
    (objects.setConnection o (some this')).connectIDs = objects.connectIDs := by
  rw [setConnection_connectIDs, Function.update_eq_self_iff]
  simp [connectIDs, h, hid]

/-- Storing an object which remembers the same cursor changes no remembered id. -/
theorem Objects.keep_cursorIDs {this this' : CMySQLCursor} (h : objects.cursors o = some this)
    (hid : this'.cursorID = this.cursorID) :
    (objects.setCursor o (some this')).cursorIDs = objects.cursorIDs := by
  rw [setCursor_cursorIDs, Function.update_eq_self_iff]
  simp [cursorIDs, h, hid]

end Ids

variable {σ : Type} {host : Host σ} {turns : ℕ}

/-- The operations which may leave all ids and the registry as they are. -/
def Operation.Keeps : Operation → Prop
  | .setCredentials _ _ | .connect _ | .execute _ _ | .rowsAffected _ => True
  | .rows _ | .fetch _ | .fieldAsString _ _ => True
  | _ => False

/-- What an operation may do to the ids of the objects, and the DLL with it. -/
inductive ObjectStep (host : Host σ) (operation : Operation) (c c' : Client σ) : Prop
  | kept (op : operation.Keeps) (connectIDs : c'.objects.connectIDs = c.objects.connectIDs)
      (cursorIDs : c'.objects.cursorIDs = c.objects.cursorIDs)
      (registry : c'.world.registry = c.world.registry)
  | newConnection (o : ℕ) (op : operation = .newConnection o)
      (absent : c.objects.connectIDs o = none)
      (connectIDs : c'.objects.connectIDs = Function.update c.objects.connectIDs o (some (-1)))
      (cursorIDs : c'.objects.cursorIDs = c.objects.cursorIDs)
      (registry : c'.world.registry = c.world.registry)
  | newCursor (o : ℕ) (op : operation = .newCursor o) (absent : c.objects.cursorIDs o = none)
      (connectIDs : c'.objects.connectIDs = c.objects.connectIDs)
      (cursorIDs : c'.objects.cursorIDs = Function.update c.objects.cursorIDs o (some (-1)))
      (registry : c'.world.registry = c.world.registry)
  | connected (o : ℕ) (op : operation = .connect o) {p : ℤ} (held : c.objects.connectIDs o = some p)
      (negative : p < 0) (i : Fin maxConnections) (m : Mysql)
      (free : c.world.registry.connections i = none)
      (connectIDs : c'.objects.connectIDs = Function.update c.objects.connectIDs o (some (i.val : ℤ)))
      (cursorIDs : c'.objects.cursorIDs = c.objects.cursorIDs)
      (registry : c'.world.registry = c.world.registry.connect i m)
      (calls : (.init (some m) :: c.world.calls) <:+ c'.world.calls)
  | disconnected (o : ℕ) {p : ℤ} (held : c.objects.connectIDs o = some p) {id : Option ℤ}
      (op : operation = .disconnect o ∧ id = some (-1) ∨ operation = .deleteConnection o ∧ id = none)
      (connectIDs : c'.objects.connectIDs = Function.update c.objects.connectIDs o id)
      (cursorIDs : c'.objects.cursorIDs = c.objects.cursorIDs)
      (registry : Registry.Step (.disconnect p) () c.world.registry c'.world.registry)
  | opened (o x : ℕ) (q : WStr) (op : operation = .openCursor o x q) (connection : CMySQL)
      (onto : c.objects.connections x = some connection) {r : ℤ}
      (connectIDs : c'.objects.connectIDs = c.objects.connectIDs)
      (cursorIDs : c'.objects.cursorIDs = Function.update c.objects.cursorIDs o (some r))
      (outcome : OpenOutcome host connection.connectID q c.world r c'.world)
  | closed (o : ℕ) {p : ℤ} (held : c.objects.cursorIDs o = some p) {id : Option ℤ}
      (op : operation = .closeCursor o ∧
          id = some (if cGetCursorErrorNumber p c'.world.dll = 0 then -1 else p) ∨
        operation = .deleteCursor o ∧ id = none)
      (connectIDs : c'.objects.connectIDs = c.objects.connectIDs)
      (cursorIDs : c'.objects.cursorIDs = Function.update c.objects.cursorIDs o id)
      (outcome : CloseOutcome host p c.world c'.world)
  | discarded (o : ℕ) (op : operation = .deleteCursor o) {p : ℤ}
      (held : c.objects.cursorIDs o = some p) (negative : p < 0)
      (connectIDs : c'.objects.connectIDs = c.objects.connectIDs)
      (cursorIDs : c'.objects.cursorIDs = Function.update c.objects.cursorIDs o none)
      (world : c'.world = c.world)

/-- An operation which comes to its end ran its program. -/
theorem clientStep_eq_ok_iff {operation : Operation} {c c' : Client σ} {finished : Finished} :
    clientStep host turns operation c = .ok (finished, c') ↔
      ∃ script, operation.perform c.objects = some script ∧
        script.run (dllStep host turns) c.world = .ok ((finished, c'.objects), c'.world) := by
  unfold clientStep
  cases operation.perform c.objects with
  | none => simp
  | some script =>
    dsimp only
    split
    · rename_i hrun
      simp [hrun]
    · rename_i answer objects world hrun
      obtain ⟨world', objects'⟩ := c'
      simp [hrun, and_comm, and_assoc]

/-- A method of a connection object ran on its fields. -/
theorem Objects.run_onConnection {objects objects' : Objects} {o : ℕ} {finished : Finished}
    {method : CMySQL → Script (Answer × CMySQL)} {script : Script (Finished × Objects)}
    {w w' : World σ} (hscript : objects.onConnection o method = some script)
    (h : script.run (dllStep host turns) w = .ok ((finished, objects'), w')) :
    ∃ this answer this', objects.connections o = some this ∧
      (method this).run (dllStep host turns) w = .ok ((answer, this'), w') ∧
        objects' = objects.setConnection o (some this') := by
  obtain ⟨this, hthis, rfl⟩ := Option.map_eq_some_iff.mp hscript
  obtain ⟨⟨answer, this'⟩, w₁, hmethod, h⟩ := Program.run_bind_eq_ok_iff.mp h
  cases h
  exact ⟨this, answer, this', hthis, hmethod, rfl⟩

/-- A method of a cursor object ran on its fields. -/
theorem Objects.run_onCursor {objects objects' : Objects} {o : ℕ} {finished : Finished}
    {method : CMySQLCursor → Script (Answer × CMySQLCursor)} {script : Script (Finished × Objects)}
    {w w' : World σ} (hscript : objects.onCursor o method = some script)
    (h : script.run (dllStep host turns) w = .ok ((finished, objects'), w')) :
    ∃ this answer this', objects.cursors o = some this ∧
      (method this).run (dllStep host turns) w = .ok ((answer, this'), w') ∧
        objects' = objects.setCursor o (some this') := by
  obtain ⟨this, hthis, rfl⟩ := Option.map_eq_some_iff.mp hscript
  obtain ⟨⟨answer, this'⟩, w₁, hmethod, h⟩ := Program.run_bind_eq_ok_iff.mp h
  cases h
  exact ⟨this, answer, this', hthis, hmethod, rfl⟩

/-- Every operation which comes to its end is one of the object steps. -/
theorem clientStep_objectStep {operation : Operation} {c c' : Client σ} {finished : Finished}
    (h : clientStep host turns operation c = .ok (finished, c')) :
    ObjectStep host operation c c' := by
  obtain ⟨script, hscript, hrun⟩ := clientStep_eq_ok_iff.mp h
  obtain ⟨w', objects'⟩ := c'
  dsimp only at hrun
  cases operation with
  | newConnection o =>
    simp only [Operation.perform] at hscript
    split at hscript
    · rename_i habsent
      cases hscript
      cases hrun
      exact .newConnection o rfl (by simp [Objects.connectIDs, habsent])
        (Objects.setConnection_connectIDs ..) rfl rfl
    · cases hscript
  | setCredentials o credentials =>
    obtain ⟨this, _, _, hthis, hmethod, rfl⟩ := Objects.run_onConnection hscript hrun
    cases hmethod
    exact .kept trivial (Objects.keep_connectIDs hthis rfl) rfl rfl
  | connect o =>
    obtain ⟨this, _, _, hthis, hmethod, rfl⟩ := Objects.run_onConnection hscript hrun
    obtain ⟨⟨b, this'⟩, w₁, hconnect, hmethod⟩ := Program.run_bind_eq_ok_iff.mp hmethod
    cases hmethod
    rcases CMySQL.run_connect hconnect with ⟨hid, hregistry⟩ | ⟨i, m, hneg, hid, free, hregistry, hcalls⟩
    · exact .kept trivial (Objects.keep_connectIDs hthis hid) rfl hregistry
    · exact .connected o rfl (Objects.connectIDs_of hthis) hneg i m free (by simp [hid]) rfl
        hregistry hcalls
  | disconnect o =>
    obtain ⟨this, _, _, hthis, hmethod, rfl⟩ := Objects.run_onConnection hscript hrun
    obtain ⟨this', w₁, hdisconnect, hmethod⟩ := Program.run_bind_eq_ok_iff.mp hmethod
    cases hmethod
    obtain ⟨hid, hregistry⟩ := CMySQL.run_disconnect hdisconnect
    exact .disconnected o (Objects.connectIDs_of hthis) (Or.inl ⟨rfl, rfl⟩) (by simp [hid]) rfl
      hregistry
  | execute o q =>
    obtain ⟨this, _, _, hthis, hmethod, rfl⟩ := Objects.run_onConnection hscript hrun
    obtain ⟨⟨b, this'⟩, w₁, hexecute, hmethod⟩ := Program.run_bind_eq_ok_iff.mp hmethod
    cases hmethod
    obtain ⟨hid, hregistry, -⟩ := CMySQL.run_execute hexecute
    exact .kept trivial (Objects.keep_connectIDs hthis hid) rfl hregistry
  | rowsAffected o =>
    obtain ⟨this, _, _, hthis, hmethod, rfl⟩ := Objects.run_onConnection hscript hrun
    obtain ⟨n, w₁, hrows, hmethod⟩ := Program.run_bind_eq_ok_iff.mp hmethod
    cases hmethod
    exact .kept trivial (Objects.keep_connectIDs hthis rfl) rfl (CMySQL.run_rowsAffected hrows)
  | deleteConnection o =>
    obtain ⟨this, hthis, rfl⟩ := Option.map_eq_some_iff.mp hscript
    obtain ⟨_, w₁, hdelete, hrun⟩ := Program.run_bind_eq_ok_iff.mp hrun
    cases hrun
    exact .disconnected o (Objects.connectIDs_of hthis) (Or.inr ⟨rfl, rfl⟩)
      (Objects.setConnection_connectIDs ..) rfl (CMySQL.run_delete hdelete)
  | newCursor o =>
    simp only [Operation.perform] at hscript
    split at hscript
    · rename_i habsent
      cases hscript
      cases hrun
      exact .newCursor o rfl (by simp [Objects.cursorIDs, habsent]) rfl
        (Objects.setCursor_cursorIDs ..) rfl
    · cases hscript
  | openCursor o x q =>
    obtain ⟨connection, honto, hscript⟩ := Option.bind_eq_some_iff.mp hscript
    obtain ⟨this, _, _, hthis, hmethod, rfl⟩ := Objects.run_onCursor hscript hrun
    obtain ⟨⟨b, this'⟩, w₁, hopen, hmethod⟩ := Program.run_bind_eq_ok_iff.mp hmethod
    cases hmethod
    exact .opened o x q rfl connection honto rfl (Objects.setCursor_cursorIDs ..)
      (CMySQLCursor.run_openOn hopen)
  | closeCursor o =>
    obtain ⟨this, _, _, hthis, hmethod, rfl⟩ := Objects.run_onCursor hscript hrun
    obtain ⟨this', w₁, hclose, hmethod⟩ := Program.run_bind_eq_ok_iff.mp hmethod
    cases hmethod
    obtain ⟨houtcome, hid⟩ := CMySQLCursor.run_close hclose
    exact .closed o (Objects.cursorIDs_of hthis) (Or.inl ⟨rfl, rfl⟩) rfl (by simp [hid]) houtcome
  | rows o =>
    obtain ⟨this, _, _, hthis, hmethod, rfl⟩ := Objects.run_onCursor hscript hrun
    obtain ⟨⟨n, this'⟩, w₁, hrows, hmethod⟩ := Program.run_bind_eq_ok_iff.mp hmethod
    cases hmethod
    obtain ⟨hid, hregistry⟩ := CMySQLCursor.run_rows hrows
    exact .kept trivial rfl (Objects.keep_cursorIDs hthis hid) hregistry
  | fetch o =>
    obtain ⟨this, _, _, hthis, hmethod, rfl⟩ := Objects.run_onCursor hscript hrun
    obtain ⟨⟨b, this'⟩, w₁, hfetch, hmethod⟩ := Program.run_bind_eq_ok_iff.mp hmethod
    cases hmethod
    obtain ⟨hid, hregistry⟩ := CMySQLCursor.run_fetch hfetch
    exact .kept trivial rfl (Objects.keep_cursorIDs hthis hid) hregistry
  | fieldAsString o f =>
    obtain ⟨this, _, _, hthis, hmethod, rfl⟩ := Objects.run_onCursor hscript hrun
    obtain ⟨⟨s, this'⟩, w₁, hfield, hmethod⟩ := Program.run_bind_eq_ok_iff.mp hmethod
    cases hmethod
    obtain ⟨hid, hregistry⟩ := CMySQLCursor.run_fieldAsString hfield
    exact .kept trivial rfl (Objects.keep_cursorIDs hthis hid) hregistry
  | deleteCursor o =>
    obtain ⟨this, hthis, rfl⟩ := Option.map_eq_some_iff.mp hscript
    obtain ⟨_, w₁, hdelete, hrun⟩ := Program.run_bind_eq_ok_iff.mp hrun
    cases hrun
    rcases CMySQLCursor.run_delete hdelete with ⟨hneg, rfl⟩ | houtcome
    · exact .discarded o rfl (Objects.cursorIDs_of hthis) hneg rfl
        (Objects.setCursor_cursorIDs ..) rfl
    · exact .closed o (Objects.cursorIDs_of hthis) (Or.inr ⟨rfl, rfl⟩) rfl
        (Objects.setCursor_cursorIDs ..) houtcome

end MqlMySql
