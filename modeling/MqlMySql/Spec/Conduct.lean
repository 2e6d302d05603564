import MqlMySql.Model.Threads

/-!
# What a thread may do inside a call

Four of the modelled functions run inside `SCOPE_LOCK_MUTEX`, the others without it. The rules below say what each of
them may do with the ids and the record sets of the tables, and in which order: an id is written only after the slot
was found free, a record set is released only after the slot was found open. That the programs obey the rules is read
off them one by one; what follows for any interleaving is left to `MqlMySql.Spec.Order`.
-/

namespace MqlMySql

open Library

/-- How far a thread has come inside the mutex. -/
inductive Stage
  | begun
  /-- Slot `i` was free when its id was loaded. -/
  | foundConnection (i : Fin maxConnections)
  | gaveConnection (i : Fin maxConnections)
  | foundCursor (k : Fin maxCursors)
  | gaveCursor (k : Fin maxCursors)
  /-- Slot `k` was open when its id was loaded. -/
  | foundOpen (k : Fin maxCursors)
  | tookResult (k : Fin maxCursors) (res : Option MysqlRes)
  | freedResult (k : Fin maxCursors)
  | closedCursor (k : Fin maxCursors)

/-- Where a thread is with respect to the mutex. -/
inductive Phase
  /-- The call has made no access yet. -/
  | fresh
  /-- The function does without the mutex. -/
  | apart
  | inside (stage : Stage)
  | left (stage : Stage)

/-- The functions with `SCOPE_LOCK_MUTEX`. -/
def Exported.Locks : Exported → Prop
  | .connect _ | .cursorOpen _ _ | .cursorClose _ | .getRowField _ _ => True
  | _ => False

/-- Accesses which give no slot, open or close no cursor and release no stored result; `cMySqlDisconnect` gives
connection slots back, and `cMySqlExecute` releases the results of its own query. -/
def Access.Plain (e : Exported) : Access → Prop
  | .lock | .unlock => False
  | .store (.connectionId _) id => id = -1 ∧ ∃ p, e = .disconnect p
  | .store (.cursorId _) _ | .store (.recordSet _) _ => False
  | .library (.freeResult _) => ∃ p q, e = .execute p q
  | _ => True

/-- The mutex may be released, unless a record set was freed of which the slot still is open. -/
def Stage.Settled : Stage → Prop
  | .freedResult _ => False
  | _ => True

/-- What an access with its reply leads to. -/
inductive Leads (e : Exported) : Phase → (a : Access) → a.Reply → Phase → Prop
  | first {a : Access} (r : a.Reply) (locks : ¬ e.Locks) (plain : a.Plain e) : Leads e .fresh a r .apart
  | apart {a : Access} (r : a.Reply) (locks : ¬ e.Locks) (plain : a.Plain e) : Leads e .apart a r .apart
  | lock (locks : e.Locks) : Leads e .fresh .lock () (.inside .begun)
  | plain (stage : Stage) {a : Access} (r : a.Reply) (locks : e.Locks) (plain : a.Plain e) :
      Leads e (.inside stage) a r (.inside stage)
  | unlock (stage : Stage) (settled : stage.Settled) : Leads e (.inside stage) .unlock () (.left stage)
  | read (stage : Stage) (k : Fin maxCursors) (v : WStr) (reads : ∃ p f, e = .getRowField p f) :
      Leads e (.left stage) (.load (.value k)) v (.left stage)
  | findConnection (i : Fin maxConnections) (connects : ∃ c, e = .connect c) :
      Leads e (.inside .begun) (.load (.connectionId i)) (-1 : ℤ) (.inside (.foundConnection i))
  | giveConnection (i : Fin maxConnections) (connects : ∃ c, e = .connect c) :
      Leads e (.inside (.foundConnection i)) (.store (.connectionId i) (i.val : ℤ)) () (.inside (.gaveConnection i))
  | findCursor (k : Fin maxCursors) (opens : ∃ p q, e = .cursorOpen p q) :
      Leads e (.inside .begun) (.load (.cursorId k)) (-1 : ℤ) (.inside (.foundCursor k))
  | storeResult (k : Fin maxCursors) (res : Option MysqlRes) (opens : ∃ p q, e = .cursorOpen p q) :
      Leads e (.inside (.foundCursor k)) (.store (.recordSet k) res) () (.inside (.foundCursor k))
  | giveCursor (k : Fin maxCursors) (opens : ∃ p q, e = .cursorOpen p q) :
      Leads e (.inside (.foundCursor k)) (.store (.cursorId k) (k.val : ℤ)) () (.inside (.gaveCursor k))
  | keepCursor (k : Fin maxCursors) (opens : ∃ p q, e = .cursorOpen p q) :
      Leads e (.inside (.foundCursor k)) (.store (.cursorId k) (-1 : ℤ)) () (.inside (.foundCursor k))
  | findOpen (k : Fin maxCursors) (id : ℤ) (used : id ≠ -1) (closes : e = .cursorClose k.val) :
      Leads e (.inside .begun) (.load (.cursorId k)) id (.inside (.foundOpen k))
  | takeResult (k : Fin maxCursors) (res : Option MysqlRes) (closes : e = .cursorClose k.val) :
      Leads e (.inside (.foundOpen k)) (.load (.recordSet k)) res (.inside (.tookResult k res))
  | freeResult (k : Fin maxCursors) (res : Option MysqlRes) (closes : e = .cursorClose k.val) :
      Leads e (.inside (.tookResult k res)) (.library (.freeResult res)) () (.inside (.freedResult k))
  | closeCursor (k : Fin maxCursors) (closes : e = .cursorClose k.val) :
      Leads e (.inside (.freedResult k)) (.store (.cursorId k) (-1 : ℤ)) () (.inside (.closedCursor k))

/-- The rules of an exported function. Nothing fails when the mutex has been released. -/
def conduct (e : Exported) : Rules Phase Access.Reply where
  may
    | .fresh, _ => True
    | .apart, _ => ¬ e.Locks
    | .inside _, _ => e.Locks
    | .left _, a => ∀ fault, a ≠ .fail fault
  leads := Leads e

/-- How a call ends: not inside the mutex, and with a number only if its slot was given. -/
def Ends : (e : Exported) → Phase → e.Reply → Prop
  | .connect _, phase, id => ∃ stage, phase = .left stage ∧
      (id = -1 ∨ ∃ i : Fin maxConnections, id = i.val ∧ stage = .gaveConnection i)
  | .cursorOpen _ _, phase, _ | .cursorClose _, phase, _ | .getRowField _ _, phase, _ => ∃ stage, phase = .left stage
  | _, phase, _ => phase = .fresh ∨ phase = .apart

section Makes

variable {e : Exported}

/-- The DLL-wide connection error may be stored by any function, inside the mutex or not. -/
theorem makes_setMySqlError (number : ℤ) (description : String) :
    (Code.setMySqlError number description).Makes (Access.Plain e) := by
  simp [Code.setMySqlError, Access.Plain]

/-- The DLL-wide cursor error may be stored by any function, inside the mutex or not. -/
theorem makes_setCursorError (number : ℤ) (description : String) :
    (Code.setCursorError number description).Makes (Access.Plain e) := by
  simp [Code.setCursorError, Access.Plain]

/-- A connection slot's error may be stored by any function, inside the mutex or not. -/
theorem makes_setConnectionError (i : Fin maxConnections) (number : ℤ) (description : String) :
    (Code.setConnectionError i number description).Makes (Access.Plain e) := by
  simp [Code.setConnectionError, Access.Plain]

/-- A cursor slot's error may be stored by any function, inside the mutex or not. -/
theorem makes_setSlotError (k : Fin maxCursors) (number : ℤ) (description : String) :
    (Code.setSlotError k number description).Makes (Access.Plain e) := by
  simp [Code.setSlotError, Access.Plain]

/-- Clearing the errors of a connection touches neither an id nor a record set. -/
theorem makes_clearErrors (p : ℤ) : (Code.clearErrors p).Makes (Access.Plain e) := by
  unfold Code.clearErrors
  split
  · exact makes_setMySqlError 0 _
  · cases slotIndex maxConnections p with
    | none => trivial
    | some i => exact makes_setConnectionError i 0 _

/-- Clearing the errors of a cursor touches neither an id nor a record set. -/
theorem makes_clearCursorErrors (p : ℤ) : (Code.clearCursorErrors p).Makes (Access.Plain e) := by
  unfold Code.clearCursorErrors
  split
  · exact makes_setCursorError 0 _
  · cases slotIndex maxCursors p with
    | none => trivial
    | some k => exact makes_setSlotError k 0 _

/-- Any function may load the id of a connection. -/
theorem makes_liveConnection (p : ℤ) : (Code.liveConnection p).Makes (Access.Plain e) := by
  unfold Code.liveConnection
  cases slotIndex maxConnections p with
  | none => trivial
  | some i =>
    simp [Access.Plain]

/-- Any function may load the id of a cursor, so that `cMySqlCursorRows` needs no mutex by the rules. -/
theorem makes_openCursor (p : ℤ) : (Code.openCursor p).Makes (Access.Plain e) := by
  unfold Code.openCursor
  cases slotIndex maxCursors p with
  | none => trivial
  | some k =>
    simp [Access.Plain]

/-- Addressing a slot makes no access but the failure beyond the table. -/
theorem makes_connectionAt (p : ℤ) : (Code.connectionAt p).Makes (Access.Plain e) := by
  unfold Code.connectionAt
  cases slotIndex maxConnections p with
  | none => exact ⟨trivial, nofun⟩
  | some i => trivial

/-- A bounded copy makes no access but the failure of a text which does not fit. -/
theorem makes_sprintfS (capacity size : ℕ) (text : List UInt8) :
    (Code.sprintfS capacity size text).Makes (Access.Plain e) := by
  unfold Code.sprintfS
  split
  · exact ⟨trivial, nofun⟩
  · split
    · exact ⟨trivial, nofun⟩
    · trivial

/-- The copies of `cMySqlConnect` make no access but a failure, while the slot is known to be free. -/
theorem makes_copyCredentials {σ : Type} (host : Host σ) (c : Credentials) :
    (Code.copyCredentials host c).Makes (Access.Plain e) := by
  unfold Code.copyCredentials
  exact (makes_sprintfS _ _ _).bind fun _ => (makes_sprintfS _ _ _).bind fun _ =>
    (makes_sprintfS _ _ _).bind fun _ => (makes_sprintfS _ _ _).bind fun _ =>
      (makes_sprintfS _ _ _).bind fun _ => trivial

/-- `MySqlExecute` makes plain accesses, so that both its callers may use it. -/
theorem makes_mySqlExecute (p : ℤ) (q : WStr) : (Code.mySqlExecute p q).Makes (Access.Plain e) := by
  unfold Code.mySqlExecute
  refine (makes_clearErrors p).bind fun _ => ?_
  split
  · exact (makes_setMySqlError (-2) _).bind fun _ => trivial
  · split
    · exact (makes_connectionAt p).bind fun i => by simp [Access.Plain]
    · exact (makes_setMySqlError (-6) _).bind fun _ => trivial

/-- The result loop releases what it takes, as `cMySqlExecute` may. -/
theorem makes_drainResults (executes : ∃ p q, e = .execute p q) (i : Fin maxConnections) (turns : ℕ) :
    (Code.drainResults i turns).Makes (Access.Plain e) := by
  induction turns with
  | zero => exact ⟨trivial, nofun⟩
  | succ turns ih => simp [Code.drainResults, Access.Plain, executes, ih]

end Makes

section Unlocked

variable {σ : Type} {host : Host σ}

/-- `cMySqlDisconnect` gives the id back without the mutex, as its rules allow it alone. -/
theorem makes_cMySqlDisconnect (p : ℤ) : (Code.cMySqlDisconnect p).Makes (Access.Plain (.disconnect p)) := by
  unfold Code.cMySqlDisconnect
  refine (makes_clearErrors p).bind fun _ => (makes_liveConnection p).bind fun slot => ?_
  cases slot with
  | none => exact makes_setMySqlError (-2) _
  | some i =>
    refine ⟨trivial, fun _ => ⟨trivial, fun _ => ?_⟩⟩
    show (Code.deleteConnection p).Makes _
    unfold Code.deleteConnection
    cases slotIndex maxConnections p with
    | none => trivial
    | some j => exact ⟨⟨rfl, p, rfl⟩, fun _ => trivial⟩

/-- `cMySqlExecute` releases the results of its own query and touches no cursor. -/
theorem makes_cMySqlExecute (turns : ℕ) (p : ℤ) (q : WStr) :
    (Code.cMySqlExecute turns p q).Makes (Access.Plain (.execute p q)) := by
  unfold Code.cMySqlExecute
  refine (makes_clearErrors p).bind fun _ => ?_
  split
  · exact (makes_setMySqlError (-2) _).bind fun _ => trivial
  · refine (makes_mySqlExecute p q).bind fun accepted => ?_
    split
    · refine (makes_connectionAt p).bind fun i => ?_
      refine ⟨trivial, fun _ => ⟨trivial, fun _ => (makes_drainResults ⟨p, q, rfl⟩ i turns).bind fun rSet => ?_⟩⟩
      simp [Access.Plain]
    · trivial

/-- `cMySqlCursorRows` only reads the record set. -/
theorem makes_cMySqlCursorRows (p : ℤ) : (Code.cMySqlCursorRows p).Makes (Access.Plain (.cursorRows p)) := by
  unfold Code.cMySqlCursorRows
  refine (makes_clearCursorErrors p).bind fun _ => (makes_openCursor p).bind fun slot => ?_
  cases slot with
  | none => exact (makes_setCursorError (-5) _).bind fun _ => trivial
  | some k => simp [Access.Plain]

/-- `cMySqlCursorFetchRow` stores the row, but neither the id nor the record set. -/
theorem makes_cMySqlCursorFetchRow (p : ℤ) :
    (Code.cMySqlCursorFetchRow p).Makes (Access.Plain (.cursorFetchRow p)) := by
  unfold Code.cMySqlCursorFetchRow
  refine (makes_clearCursorErrors p).bind fun _ => (makes_openCursor p).bind fun slot => ?_
  cases slot with
  | none => exact (makes_setCursorError (-5) _).bind fun _ => trivial
  | some k =>
    simp [Access.Plain, Program.Makes.bind (makes_connectionAt _)]

/-- `cMySqlRowsAffected` only reads the handle. -/
theorem makes_cMySqlRowsAffected (p : ℤ) : (Code.cMySqlRowsAffected p).Makes (Access.Plain (.rowsAffected p)) := by
  unfold Code.cMySqlRowsAffected
  split
  · exact (makes_setMySqlError (-2) _).bind fun _ => trivial
  · exact (makes_connectionAt p).bind fun i => by simp [Access.Plain]

/-- A getter loads the id and then the cell of the slot or the DLL-wide one. -/
theorem makes_cGetMySqlErrorNumber (p : ℤ) :
    (Code.cGetMySqlErrorNumber p).Makes (Access.Plain (.getMySqlErrorNumber p)) := by
  refine (makes_liveConnection p).bind fun slot => ?_
  cases slot with
  | none => exact ⟨trivial, fun _ => trivial⟩
  | some _ => exact ⟨trivial, fun _ => trivial⟩

/-- The text of the connection error is loaded as its number is. -/
theorem makes_cGetMySqlErrorDescription (p : ℤ) :
    (Code.cGetMySqlErrorDescription p).Makes (Access.Plain (.getMySqlErrorDescription p)) := by
  refine (makes_liveConnection p).bind fun slot => ?_
  cases slot with
  | none => exact ⟨trivial, fun _ => trivial⟩
  | some _ => exact ⟨trivial, fun _ => trivial⟩

/-- The number of the cursor error, from the slot when the cursor is open. -/
theorem makes_cGetCursorErrorNumber (p : ℤ) :
    (Code.cGetCursorErrorNumber p).Makes (Access.Plain (.getCursorErrorNumber p)) := by
  refine (makes_openCursor p).bind fun slot => ?_
  cases slot with
  | none => exact ⟨trivial, fun _ => trivial⟩
  | some _ => exact ⟨trivial, fun _ => trivial⟩

/-- The text of the cursor error is loaded as its number is. -/
theorem makes_cGetCursorErrorDescription (p : ℤ) :
    (Code.cGetCursorErrorDescription p).Makes (Access.Plain (.getCursorErrorDescription p)) := by
  refine (makes_openCursor p).bind fun slot => ?_
  cases slot with
  | none => exact ⟨trivial, fun _ => trivial⟩
  | some _ => exact ⟨trivial, fun _ => trivial⟩

end Unlocked

section Obeys

variable {α : Type} {e : Exported} {p : Code α}

/-- Plain accesses leave a thread where it is with respect to the mutex. -/
theorem obeys_inside (locks : e.Locks) (stage : Stage) (h : p.Makes (Access.Plain e)) :
    Obeys (conduct e) (fun last _ => last = .inside stage) p (.inside stage) :=
  Obeys.of_makes h (fun _ _ => locks) fun _ r hl => .plain stage r locks hl

/-- A function without the mutex which makes plain accesses obeys its rules from the first access on. -/
theorem obeys_apart (locks : ¬ e.Locks) (h : p.Makes (Access.Plain e)) :
    Obeys (conduct e) (fun last _ => last = .fresh ∨ last = .apart) p .fresh := by
  cases p with
  | done a => exact .inl rfl
  | call a rest =>
    refine ⟨trivial, fun r => ⟨.apart, .first r locks h.1, ?_⟩⟩
    have stays : Obeys (conduct e) (fun last _ => last = .apart) (rest r) .apart :=
      Obeys.of_makes (h.2 r) (fun _ _ => locks) fun _ r hl => .apart r locks hl
    exact stays.mono fun _ _ => .inr

/-- `SCOPE_LOCK_MUTEX` around a block which may be left. -/
theorem obeys_scopeLockMutex (Post : Stage → α → Prop) (locks : e.Locks)
    (h : Obeys (conduct e) (fun last a => ∃ stage, last = .inside stage ∧ stage.Settled ∧ Post stage a) p
      (.inside .begun)) :
    Obeys (conduct e) (fun last a => ∃ stage, last = .left stage ∧ Post stage a) (Code.scopeLockMutex p) .fresh := by
  refine ⟨trivial, fun _ => ⟨.inside .begun, .lock locks, h.bind ?_⟩⟩
  rintro a _ ⟨stage, rfl, settled, hpost⟩
  exact ⟨locks, fun _ => ⟨.left stage, .unlock stage settled, stage, rfl, hpost⟩⟩

/-- Loading the ids one by one, a thread finds the first free slot. -/
theorem obeys_searchFree {n : ℕ} {loadId : Fin n → Code ℤ} {found : Fin n → Stage}
    (h : ∀ i, Obeys (conduct e) (fun last (id : ℤ) => (id = -1 ∧ last = .inside (found i)) ∨
      (id ≠ -1 ∧ last = .inside .begun)) (loadId i) (.inside .begun)) (start count : ℕ) :
    Obeys (conduct e) (fun last (id : ℤ) => (id = -1 ∧ last = .inside .begun) ∨
      ∃ i : Fin n, id = i.val ∧ last = .inside (found i)) (Code.searchFree loadId start count) (.inside .begun) := by
  induction count generalizing start with
  | zero => exact .inl ⟨rfl, rfl⟩
  | succ count ih =>
    unfold Code.searchFree
    split
    · rename_i hstart
      refine (h ⟨start, hstart⟩).bind ?_
      rintro id _ (⟨rfl, rfl⟩ | ⟨hne, rfl⟩)
      · exact .inr ⟨⟨start, hstart⟩, rfl, rfl⟩
      · rw [if_neg hne]
        exact ih (start + 1)
    · exact .inl ⟨rfl, rfl⟩

/-- The search either finds every connection in use, or knows of a slot that it is free. -/
theorem obeys_getNewConnectionId (connects : ∃ c, e = .connect c) :
    Obeys (conduct e) (fun last (id : ℤ) => (id = -1 ∧ last = .inside .begun) ∨
      ∃ i : Fin maxConnections, id = i.val ∧ last = .inside (.foundConnection i))
      Code.getNewConnectionId (.inside .begun) := by
  have locks : e.Locks := by
    obtain ⟨c, rfl⟩ := connects
    trivial
  refine obeys_searchFree (fun i => ?_) 0 maxConnections
  refine ⟨locks, fun id => ?_⟩
  by_cases hid : id = -1
  · subst hid
    exact ⟨_, .findConnection i connects, .inl ⟨rfl, rfl⟩⟩
  · exact ⟨_, .plain .begun id locks trivial, .inr ⟨hid, rfl⟩⟩

/-- The search either finds every cursor in use, or knows of a slot that it is free. -/
theorem obeys_getNewCursorId (opens : ∃ p q, e = .cursorOpen p q) :
    Obeys (conduct e) (fun last (id : ℤ) => (id = -1 ∧ last = .inside .begun) ∨
      ∃ k : Fin maxCursors, id = k.val ∧ last = .inside (.foundCursor k))
      Code.getNewCursorId (.inside .begun) := by
  have locks : e.Locks := by
    obtain ⟨p, q, rfl⟩ := opens
    trivial
  refine obeys_searchFree (fun k => ?_) 0 maxCursors
  refine ⟨locks, fun id => ?_⟩
  by_cases hid : id = -1
  · subst hid
    exact ⟨_, .findCursor k opens, .inl ⟨rfl, rfl⟩⟩
  · exact ⟨_, .plain .begun id locks trivial, .inr ⟨hid, rfl⟩⟩

end Obeys

section Locked

variable {σ : Type} (host : Host σ)

/-- `cMySqlConnect` stores an id only into the slot which it found free, and returns the number of that slot. -/
theorem obeys_cMySqlConnect (c : Credentials) :
    Obeys (conduct (.connect c)) (Ends (.connect c)) (Code.cMySqlConnect host c) .fresh := by
  have locks : (Exported.connect c).Locks := trivial
  refine obeys_scopeLockMutex _ locks ?_
  refine (obeys_inside locks .begun (makes_clearErrors (-1))).bind ?_
  rintro _ _ rfl
  refine (obeys_getNewConnectionId ⟨c, rfl⟩).bind ?_
  rintro cnn _ (⟨rfl, rfl⟩ | ⟨i, rfl, rfl⟩)
  · rw [slotIndex_neg_one]
    refine (obeys_inside locks .begun (makes_setMySqlError (-3) _)).bind ?_
    rintro _ _ rfl
    exact ⟨.begun, rfl, trivial, .inl rfl⟩
  · rw [slotIndex_val]
    refine (obeys_inside locks (.foundConnection i) (makes_copyCredentials host c)).bind ?_
    rintro request _ rfl
    refine ⟨locks, fun initialised => ⟨_, .plain _ _ locks trivial, ?_⟩⟩
    cases initialised with
    | none =>
      refine (obeys_inside locks (.foundConnection i) (makes_setMySqlError (-1) _)).bind ?_
      rintro _ _ rfl
      exact ⟨_, rfl, trivial, .inl rfl⟩
    | some mysql =>
      refine ⟨locks, fun connected => ⟨_, .plain _ _ locks trivial, ?_⟩⟩
      refine ⟨locks, fun _ => ⟨_, .plain _ _ locks trivial, ?_⟩⟩
      refine ⟨locks, fun handle => ⟨_, .plain _ _ locks trivial, ?_⟩⟩
      show Obeys _ _ (if handle ≠ some mysql then _ else _) _
      split
      · refine ⟨locks, fun errno => ⟨_, .plain _ _ locks trivial, ?_⟩⟩
        refine ⟨locks, fun _ => ⟨_, .plain _ _ locks trivial, ?_⟩⟩
        refine ⟨locks, fun text => ⟨_, .plain _ _ locks trivial, ?_⟩⟩
        refine ⟨locks, fun _ => ⟨_, .plain _ _ locks trivial, ?_⟩⟩
        exact ⟨_, rfl, trivial, .inl rfl⟩
      · refine ⟨locks, fun _ => ⟨_, .giveConnection i ⟨c, rfl⟩, ?_⟩⟩
        exact ⟨_, rfl, trivial, .inr ⟨i, rfl, rfl⟩⟩

/-- The query is run and its result is stored while the slot is known to be free. -/
theorem obeys_storeRecordSet (k : Fin maxCursors) (p : ℤ) (q : WStr) :
    Obeys (conduct (.cursorOpen p q)) (fun last _ => last = .inside (.foundCursor k)) (Code.storeRecordSet k p q)
      (.inside (.foundCursor k)) := by
  have locks : (Exported.cursorOpen p q).Locks := trivial
  refine ⟨locks, fun _ => ⟨_, .storeResult k none ⟨p, q, rfl⟩, ?_⟩⟩
  refine (obeys_inside locks (.foundCursor k) (makes_mySqlExecute p q)).bind ?_
  rintro accepted _ rfl
  split
  · refine (obeys_inside locks (.foundCursor k) (makes_connectionAt p)).bind ?_
    rintro i _ rfl
    refine ⟨locks, fun handle => ⟨_, .plain _ _ locks trivial, ?_⟩⟩
    refine ⟨locks, fun stored => ⟨_, .plain _ _ locks trivial, ?_⟩⟩
    exact ⟨locks, fun _ => ⟨_, .storeResult k stored ⟨p, q, rfl⟩, rfl⟩⟩
  · rfl

/-- An opening gives the slot which it found free, or leaves it unopened when there is no record set. -/
theorem obeys_concludeOpen (k : Fin maxCursors) (p : ℤ) (q : WStr) :
    Obeys (conduct (.cursorOpen p q)) (fun last _ => ∃ stage, last = .inside stage ∧ stage.Settled ∧ True)
      (Code.concludeOpen k p) (.inside (.foundCursor k)) := by
  have locks : (Exported.cursorOpen p q).Locks := trivial
  refine ⟨locks, fun (stored : Option MysqlRes) => ⟨_, .plain _ _ locks trivial, ?_⟩⟩
  show Obeys _ _ (if stored.isSome then _ else _) _
  split
  · refine ⟨locks, fun _ => ⟨_, .giveCursor k ⟨p, q, rfl⟩, ?_⟩⟩
    exact ⟨locks, fun _ => ⟨_, .plain _ _ locks trivial, _, rfl, trivial, trivial⟩⟩
  · refine (obeys_inside locks (.foundCursor k) (makes_connectionAt p)).bind ?_
    rintro i _ rfl
    refine ⟨locks, fun handle => ⟨_, .plain _ _ locks trivial, ?_⟩⟩
    refine ⟨locks, fun errno => ⟨_, .plain _ _ locks trivial, ?_⟩⟩
    refine ⟨locks, fun _ => ⟨_, .plain _ _ locks trivial, ?_⟩⟩
    refine ⟨locks, fun (number : ℤ) => ⟨_, .plain _ _ locks trivial, ?_⟩⟩
    show Obeys _ _ (if 0 < number then _ else _) _
    split
    · unfold Code.deleteCursor
      rw [slotIndex_val]
      refine ⟨locks, fun _ => ⟨_, .keepCursor k ⟨p, q, rfl⟩, ?_⟩⟩
      refine ⟨locks, fun handle => ⟨_, .plain _ _ locks trivial, ?_⟩⟩
      refine ⟨locks, fun text => ⟨_, .plain _ _ locks trivial, ?_⟩⟩
      exact ⟨locks, fun _ => ⟨_, .plain _ _ locks trivial, _, rfl, trivial, trivial⟩⟩
    · exact ⟨_, rfl, trivial, trivial⟩

/-- `cMySqlCursorOpen` searches, stores the record set and gives the slot, all inside the mutex. -/
theorem obeys_cMySqlCursorOpen (p : ℤ) (q : WStr) :
    Obeys (conduct (.cursorOpen p q)) (Ends (.cursorOpen p q)) (Code.cMySqlCursorOpen p q) .fresh := by
  have locks : (Exported.cursorOpen p q).Locks := trivial
  refine Obeys.mono (obeys_scopeLockMutex (fun _ _ => True) locks ?_) ?_
  · refine (obeys_inside locks .begun (makes_clearErrors p)).bind ?_
    rintro _ _ rfl
    refine (obeys_inside locks .begun (makes_clearCursorErrors (-1))).bind ?_
    rintro _ _ rfl
    split
    · refine (obeys_inside locks .begun (makes_setMySqlError (-2) _)).bind ?_
      rintro _ _ rfl
      exact ⟨_, rfl, trivial, trivial⟩
    · refine (obeys_getNewCursorId ⟨p, q, rfl⟩).bind ?_
      rintro cur _ (⟨rfl, rfl⟩ | ⟨k, rfl, rfl⟩)
      · rw [slotIndex_neg_one]
        refine (obeys_inside locks .begun (makes_connectionAt p)).bind ?_
        rintro i _ rfl
        refine (obeys_inside locks .begun (makes_setConnectionError i (-3) _)).bind ?_
        rintro _ _ rfl
        exact ⟨_, rfl, trivial, trivial⟩
      · rw [slotIndex_val]
        refine (obeys_storeRecordSet k p q).bind ?_
        rintro _ _ rfl
        exact obeys_concludeOpen k p q
  · rintro last id ⟨stage, rfl, -⟩
    exact ⟨stage, rfl⟩

/-- `cMySqlCursorClose` releases the record set only of a cursor which it found open, and then gives the slot back. -/
theorem obeys_cMySqlCursorClose (p : ℤ) :
    Obeys (conduct (.cursorClose p)) (Ends (.cursorClose p)) (Code.cMySqlCursorClose p) .fresh := by
  have locks : (Exported.cursorClose p).Locks := trivial
  refine Obeys.mono (obeys_scopeLockMutex (fun _ _ => True) locks ?_) ?_
  · refine (obeys_inside locks .begun (makes_clearCursorErrors p)).bind ?_
    rintro _ _ rfl
    have wrong : Obeys (conduct (.cursorClose p)) (fun last _ => ∃ stage, last = .inside stage ∧ stage.Settled ∧ True)
        Code.wrongCursor (.inside .begun) :=
      (obeys_inside locks .begun (makes_setCursorError (-5) _)).mono fun _ _ h => ⟨_, h, trivial, trivial⟩
    unfold Code.openCursor Code.deleteCursor
    cases hk : slotIndex maxCursors p with
    | none => exact wrong
    | some k =>
      obtain rfl := slotIndex_eq_some_iff.mp hk
      refine ⟨locks, fun (id : ℤ) => ?_⟩
      by_cases hid : id = -1
      · refine ⟨_, .plain _ _ locks trivial, ?_⟩
        show Obeys _ _ ((if id = -1 then _ else _) >>= _) _
        rw [if_pos hid]
        exact wrong
      · refine ⟨_, .findOpen k id hid rfl, ?_⟩
        show Obeys _ _ ((if id = -1 then _ else _) >>= _) _
        rw [if_neg hid]
        refine ⟨locks, fun res => ⟨_, .takeResult k res rfl, ?_⟩⟩
        refine ⟨locks, fun _ => ⟨_, .freeResult k res rfl, ?_⟩⟩
        exact ⟨locks, fun _ => ⟨_, .closeCursor k rfl, _, rfl, trivial, trivial⟩⟩
  · rintro last _ ⟨stage, rfl, -⟩
    exact ⟨stage, rfl⟩

/-- Reading a column makes no access to an id or a record set; without a current row it fails. -/
theorem makes_currentField (k : Fin maxCursors) (pField : ℕ) {e : Exported} :
    (Code.currentField k pField).Makes (Access.Plain e) := by
  refine ⟨trivial, fun (row : Option MysqlRow) => ?_⟩
  cases row with
  | none => exact ⟨trivial, nofun⟩
  | some row => exact ⟨trivial, fun _ => trivial⟩

/-- `cMySqlGetRowField` may change the buffer of the slot and its error, and nothing else. -/
theorem makes_measuredField (p : ℤ) (pField : ℕ) :
    (Code.measuredField p pField).Makes (Access.Plain (.getRowField p pField)) := by
  unfold Code.measuredField
  refine (makes_openCursor p).bind fun slot => ?_
  cases slot with
  | none => exact (makes_setCursorError (-5) _).bind fun _ => trivial
  | some k =>
    refine (makes_clearCursorErrors p).bind fun _ => ⟨trivial, fun res => ⟨trivial, fun (columns : ℕ) => ?_⟩⟩
    show Program.Makes _ (if pField < columns then _ else _)
    split
    · refine ⟨trivial, fun _ => (makes_currentField k pField).bind fun text => ?_⟩
      dsimp only
      split
      · refine (makes_currentField k pField).bind fun again => ?_
        simp [Access.Plain]
      · exact (makes_setSlotError k (-6) _).bind fun _ => trivial
    · exact (makes_setSlotError k (-4) _).bind fun _ => trivial

/-- The text is loaded when the mutex is free again. -/
theorem obeys_cMySqlGetRowField (p : ℤ) (pField : ℕ) :
    Obeys (conduct (.getRowField p pField)) (Ends (.getRowField p pField)) (Code.cMySqlGetRowField p pField)
      .fresh := by
  have locks : (Exported.getRowField p pField).Locks := trivial
  have measured : Obeys (conduct (.getRowField p pField))
      (fun last _ => ∃ stage, last = .inside stage ∧ stage.Settled ∧ True) (Code.measuredField p pField)
      (.inside .begun) :=
    (obeys_inside locks .begun (makes_measuredField p pField)).mono fun _ _ h => ⟨.begun, h, trivial, trivial⟩
  refine (obeys_scopeLockMutex (fun _ _ => True) locks measured).bind ?_
  rintro slot _ ⟨stage, rfl, -⟩
  cases slot with
  | none => exact ⟨stage, rfl⟩
  | some k =>
    exact ⟨nofun, fun v => ⟨.left stage, .read stage k v ⟨p, pField, rfl⟩, stage, rfl⟩⟩

end Locked

/-- Every exported function obeys its rules. -/
theorem obeys_code {σ : Type} (host : Host σ) (turns : ℕ) (e : Exported) :
    Obeys (conduct e) (Ends e) (code host turns e) .fresh := by
  cases e with
  | connect c => exact obeys_cMySqlConnect host c
  | disconnect p => exact obeys_apart nofun (makes_cMySqlDisconnect p)
  | execute p q => exact obeys_apart nofun (makes_cMySqlExecute turns p q)
  | cursorOpen p q => exact obeys_cMySqlCursorOpen p q
  | cursorClose p => exact obeys_cMySqlCursorClose p
  | cursorRows p => exact obeys_apart nofun (makes_cMySqlCursorRows p)
  | cursorFetchRow p => exact obeys_apart nofun (makes_cMySqlCursorFetchRow p)
  | getRowField p pField => exact obeys_cMySqlGetRowField p pField
  | rowsAffected p => exact obeys_apart nofun (makes_cMySqlRowsAffected p)
  | getMySqlErrorNumber p => exact obeys_apart nofun (makes_cGetMySqlErrorNumber p)
  | getMySqlErrorDescription p => exact obeys_apart nofun (makes_cGetMySqlErrorDescription p)
  | getCursorErrorNumber p => exact obeys_apart nofun (makes_cGetCursorErrorNumber p)
  | getCursorErrorDescription p => exact obeys_apart nofun (makes_cGetCursorErrorDescription p)

end MqlMySql
