import MqlMySql.Model.Classes

/-!
# Programs which use the wrapper classes

A client owns objects of the two classes, named by numbers, and performs operations on them. An operation
on an object which does not exist, or which would create one twice, is not a step of any client.
-/

namespace MqlMySql

open Library

/-- The objects of a client, by name. -/
structure Objects where
  connections : ℕ → Option CMySQL
  cursors : ℕ → Option CMySQLCursor

namespace Objects

/-- No objects at all. -/
def none : Objects := ⟨fun _ => .none, fun _ => .none⟩

variable (objects : Objects)

/-- Change or delete one connection object. -/
def setConnection (o : ℕ) (this : Option CMySQL) : Objects :=
  { objects with connections := Function.update objects.connections o this }

/-- Change or delete one cursor object. -/
def setCursor (o : ℕ) (this : Option CMySQLCursor) : Objects :=
  { objects with cursors := Function.update objects.cursors o this }

end Objects

/-- What a client does on its objects. -/
inductive Operation
  | newConnection (o : ℕ)
  | setCredentials (o : ℕ) (c : Credentials)
  | connect (o : ℕ)
  | disconnect (o : ℕ)
  | execute (o : ℕ) (pQuery : WStr)
  | rowsAffected (o : ℕ)
  | deleteConnection (o : ℕ)
  | newCursor (o : ℕ)
  | openCursor (o : ℕ) (connection : ℕ) (pQuery : WStr)
  | closeCursor (o : ℕ)
  | rows (o : ℕ)
  | fetch (o : ℕ)
  | fieldAsString (o : ℕ) (pField : ℤ)
  | deleteCursor (o : ℕ)
deriving DecidableEq, Repr

/-- The value which a method returns. -/
inductive Answer
  | nothing
  | flag (b : Bool)
  | number (n : ℤ)
  | text (s : WStr)
deriving DecidableEq, Repr

/-- What a client sees of an operation: the returned value, and `LastError` of the object. -/
structure Finished where
  answer : Answer
  lastError : ℤ
deriving DecidableEq, Repr

/-- Call a method of a connection object. -/
def Objects.onConnection (objects : Objects) (o : ℕ) (method : CMySQL → Script (Answer × CMySQL)) :
    Option (Script (Finished × Objects)) :=
  (objects.connections o).map fun this => do
    let (answer, this) ← method this
    return (⟨answer, this.mySqlErrorNumber⟩, objects.setConnection o (some this))

/-- Call a method of a cursor object. -/
def Objects.onCursor (objects : Objects) (o : ℕ)
    (method : CMySQLCursor → Script (Answer × CMySQLCursor)) : Option (Script (Finished × Objects)) :=
  (objects.cursors o).map fun this => do
    let (answer, this) ← method this
    return (⟨answer, this.cursorErrorNumber⟩, objects.setCursor o (some this))

/-- The program of an operation. -/
def Operation.perform (objects : Objects) : Operation → Option (Script (Finished × Objects))
  | .newConnection o =>
    if objects.connections o = none then
      some (return (⟨.nothing, 0⟩, objects.setConnection o (some CMySQL.new)))
    else none
  | .setCredentials o c => objects.onConnection o fun this =>
      return (.nothing, this.setCredentials c)
  | .connect o => objects.onConnection o fun this => do
      let (b, this) ← this.connect
      return (.flag b, this)
  | .disconnect o => objects.onConnection o fun this => do
      return (.nothing, ← this.disconnect)
  | .execute o q => objects.onConnection o fun this => do
      let (b, this) ← this.execute q
      return (.flag b, this)
  | .rowsAffected o => objects.onConnection o fun this => do
      return (.number (← this.rowsAffected), this)
  | .deleteConnection o => (objects.connections o).map fun this => do
      let _ ← this.delete
      return (⟨.nothing, 0⟩, objects.setConnection o none)
  | .newCursor o =>
    if objects.cursors o = none then
      some (return (⟨.nothing, 0⟩, objects.setCursor o (some CMySQLCursor.new)))
    else none
  | .openCursor o c q => (objects.connections c).bind fun connection =>
      objects.onCursor o fun this => do
        let (b, this) ← this.openOn connection q
        return (.flag b, this)
  | .closeCursor o => objects.onCursor o fun this => do
      return (.nothing, ← this.close)
  | .rows o => objects.onCursor o fun this => do
      let (n, this) ← this.rows
      return (.number n, this)
  | .fetch o => objects.onCursor o fun this => do
      let (b, this) ← this.fetch
      return (.flag b, this)
  | .fieldAsString o f => objects.onCursor o fun this => do
      let (s, this) ← this.fieldAsString f
      return (.text s, this)
  | .deleteCursor o => (objects.cursors o).map fun this => do
      let _ ← this.delete
      return (⟨.nothing, 0⟩, objects.setCursor o none)

/-- A client and the DLL it uses. -/
structure Client (σ : Type) where
  world : World σ
  objects : Objects

/-- Why an operation does not come to its end. -/
inductive Interruption
  /-- There is no such object, or there is one already. -/
  | noSuchObject
  /-- An exported call did not return. -/
  | inCall (fault : Fault)

variable {σ : Type}

/-- Perform one operation to its end. -/
def clientStep (host : Host σ) (turns : ℕ) (operation : Operation) (c : Client σ) :
    Except Interruption (Finished × Client σ) :=
  match operation.perform c.objects with
  | none => .error .noSuchObject
  | some script =>
    match script.run (dllStep host turns) c.world with
    | .error fault => .error (.inCall fault)
    | .ok ((finished, objects), world) => .ok (finished, ⟨world, objects⟩)

/-- A client without objects, at process attach. -/
def Client.start (library : σ) : Client σ := ⟨attach library, Objects.none⟩

/-- One performed operation. -/
abbrev Performed (σ : Type) := Recorded (Client σ) Operation fun _ => Finished

/-- A run of operations from process attach. -/
abbrev ClientRun (host : Host σ) (turns : ℕ) (library : σ) (tr : List (Performed σ)) (c : Client σ) :
    Prop :=
  Run (clientStep host turns) (Client.start library) tr c

end MqlMySql
