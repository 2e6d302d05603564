import MqlMySql.Library.Conduct
import MqlMySql.Library.Lending
import MqlMySql.Model.Scripts
import MqlMySql.Spec.Registry

/-!
# What a script has to give back

A script is told the id of a connection by `cMySqlConnect` and the id of a cursor by `cMySqlCursorOpen`, and gives them
back with `cMySqlDisconnect` and `cMySqlCursorClose`. What the methods and procedures of the wrappers do to its debts,
whatever the DLL replies, is read off them here, and from that, that every example script has settled them at its end.
-/

namespace MqlMySql

open Library

/-- The debts of a script. -/
@[ext] structure Held where
  connections : Debts
  cursors : Debts

namespace Held

/-- Before the first call. -/
def nothing : Held := ⟨.nothing, .nothing⟩

variable (h : Held)

/-- After a call with its reply. -/
def after : (e : Exported) → e.Reply → Held
  | .connect _, r => { h with connections := h.connections.tell r }
  | .disconnect p, _ => { h with connections := h.connections.give p }
  | .cursorOpen _ _, r => { h with cursors := h.cursors.tell r }
  | .cursorClose p, _ => { h with cursors := h.cursors.give p }
  | _, _ => h

/-- The ids passed on are such as the script was told. -/
def May : Exported → Prop
  | .disconnect p => h.connections.May p
  | .cursorClose p => h.cursors.May p
  | _ => True

/-- Everything was given back. -/
def Settled : Prop := h.connections.Settled ∧ h.cursors.Settled

end Held

/-- The debts of a program which may be outside any script. -/
def held (phase : Option Held) : Held := phase.getD .nothing

/-- Outside any script there are no debts. -/
@[simp] theorem held_none : held none = .nothing := rfl

/-- Inside a script there are the debts of the script. -/
@[simp] theorem held_some (h : Held) : held (some h) = h := rfl

/-- Scripts may give back what they were told. -/
def lending : Rules (Option Held) Exported.Reply where
  may phase e := (held phase).May e
  leads phase e r next := next = some ((held phase).after e r)

variable {α β : Type} {h : Held}

/-- From some debts on a program gives back only what it was told, whatever the replies, and ends with debts of which
`Post` holds. -/
def Owes (h : Held) (p : Script α) (Post : Held → α → Prop) : Prop :=
  ∀ phase, held phase = h → Obeys lending (fun last a => Post (held last) a) p phase

namespace Owes

variable {Post : Held → α → Prop} {Mid : Held → β → Prop}

/-- A program which makes no call ends with the debts which it began with. -/
theorem done {a : α} (post : Post h a) : Owes h (.done a) Post := by
  rintro phase rfl
  exact post

/-- A call which gives back only what was told, and then a program for each of its replies. -/
theorem call {e : Exported} {rest : e.Reply → Script α} (may : h.May e)
    (next : ∀ r, Owes (h.after e r) (rest r) Post) : Owes h (.call e rest) Post := by
  rintro phase rfl
  exact ⟨may, fun r => ⟨_, rfl, next r _ rfl⟩⟩

/-- One program after the other, the second from the debts at the end of the first. -/
theorem bind {p : Script β} {f : β → Script α} (first : Owes h p Mid)
    (next : ∀ b h', Mid h' b → Owes h' (f b) Post) : Owes h (p >>= f) Post := by
  intro phase hphase
  exact (first phase hphase).bind fun b middle hmiddle => next b (held middle) hmiddle middle rfl

/-- A weaker statement about the debts at the end. -/
theorem mono {Post' : Held → α → Prop} {p : Script α} (first : Owes h p Post)
    (looser : ∀ h' a, Post h' a → Post' h' a) : Owes h p Post' :=
  fun phase hphase => (first phase hphase).mono fun last a => looser (held last) a

/-- Each branch from the same debts, knowing how the condition was decided. -/
theorem ite {c : Prop} [Decidable c] {p q : Script α} (yes : c → Owes h p Post) (no : ¬c → Owes h q Post) :
    Owes h (if c then p else q) Post := by
  split
  · exact yes ‹_›
  · exact no ‹_›

end Owes

/-! ## The methods and the procedures -/

namespace CMySQL

variable {this : CMySQL}

/-- Reading the error opens and closes nothing, and keeps the id of the object. -/
theorem owes_readError (p : ℤ) :
    Owes h (this.readError p) fun h' this' => h' = h ∧ this'.connectID = this.connectID :=
  .call trivial fun _ => .call trivial fun _ => .done ⟨rfl, rfl⟩

/-- An execute opens and closes nothing, and keeps the id of the object. -/
theorem owes_execute (q : WStr) :
    Owes h (this.execute q) fun h' r => h' = h ∧ r.2.connectID = this.connectID := by
  unfold execute
  refine .ite (fun _ => .done ⟨rfl, rfl⟩) fun _ => .call trivial fun accepted => ?_
  refine .ite (fun _ => .done ⟨rfl, rfl⟩) fun _ => ?_
  refine (owes_readError _).bind fun this' h' hread => .done ?_
  exact hread

/-- `Connect` owes the id which the object has afterwards. -/
theorem owes_connect (without : this.connectID < 0) :
    Owes h this.connect fun h' r =>
      h' = { h with connections := h.connections.tell r.2.connectID } := by
  have unchanged (this' : CMySQL) (same : this'.connectID = this.connectID) :
      h = { h with connections := h.connections.tell this'.connectID } := by
    rw [same, Debts.tell_of_neg without]
  unfold connect
  dsimp only
  split
  · exact .done (unchanged _ rfl)
  · rename_i c hc
    refine .ite (fun _ => .done (unchanged _ rfl)) fun _ => .call trivial fun (connection : ℤ) => ?_
    refine .ite (fun hfailed => ?_) fun _ => ?_
    · subst hfailed
      refine (owes_readError _).bind fun this' h' ⟨hh, hid⟩ => .done ?_
      rw [hh]
      dsimp only [Held.after]
      rw [Debts.tell_of_neg (by omega)]
      exact unchanged _ hid
    · refine (owes_execute _).bind fun ⟨accepted, this'⟩ h' ⟨hh, hid⟩ => ?_
      dsimp only at hid ⊢
      refine .ite (fun _ => .done ?_) fun _ => ?_
      · rw [hh, hid]
        rfl
      · refine (owes_readError _).bind fun this'' h'' ⟨hh', hid'⟩ => .done ?_
        rw [hh', hh, hid', hid]
        rfl

/-- `Disconnect` gives it back. -/
theorem owes_disconnect (may : h.connections.May this.connectID) :
    Owes h this.disconnect fun h' this' =>
      h' = { h with connections := h.connections.give this.connectID } ∧ this'.connectID = -1 := by
  unfold disconnect
  refine .ite (fun (hid : this.connectID = -1) => .done ⟨?_, hid⟩) fun _ => .call may fun _ => .done ⟨rfl, rfl⟩
  rw [hid, Debts.give_of_neg (by decide)]

/-- So does the destructor. -/
theorem owes_delete (may : h.connections.May this.connectID) :
    Owes h this.delete fun h' _ =>
      h' = { h with connections := h.connections.give this.connectID } := by
  unfold delete
  refine .ite (fun _ => ?_) fun hid => .done ?_
  · exact (owes_disconnect may).bind fun _ _ hdisconnect => .done hdisconnect.1
  · rw [Debts.give_of_neg (not_le.mp hid)]

end CMySQL

namespace CMySQLCursor

variable {this : CMySQLCursor}

/-- Reading the error opens and closes nothing, and keeps the id of the object. -/
theorem owes_readError : Owes h this.readError fun h' this' => h' = h ∧ this'.cursorID = this.cursorID :=
  .call trivial fun _ => .call trivial fun _ => .done ⟨rfl, rfl⟩

/-- `Open` owes the id which the object has afterwards. -/
theorem owes_openOn (connection : CMySQL) (q : WStr) :
    Owes h (this.openOn connection q) fun h' r => h' = { h with cursors := h.cursors.tell r.2.cursorID } := by
  unfold openOn
  refine .call trivial fun (cursor : ℤ) => .ite (fun _ => ?_) fun _ => .done rfl
  exact .call trivial fun _ => .call trivial fun _ => .done rfl

/-- An id after a method which may have set it to `-1`. -/
def Forgotten (after before : ℤ) : Prop := after = -1 ∨ after = before

/-- An object which has forgotten its id may still be closed, since `-1` gives nothing back. -/
theorem Forgotten.may {d : Debts} {p q : ℤ} (h : Forgotten q p) (may : d.May p) : d.May q := by
  rcases h with rfl | rfl
  · exact .inl (by decide)
  · exact may

/-- `Close` gives it back, whether the object forgets it or not. -/
theorem owes_close (may : h.cursors.May this.cursorID) :
    Owes h this.close fun h' this' => h' = { h with cursors := h.cursors.give this.cursorID } ∧
      Forgotten this'.cursorID this.cursorID := by
  unfold close
  refine .call may fun _ => owes_readError.bind fun this' h' ⟨hh, hid⟩ => ?_
  subst hh
  refine .ite (fun _ => .done ⟨rfl, .inl rfl⟩) fun _ => .done ⟨rfl, .inr hid⟩

/-- `delete` gives the id of the object back, unless the object was told none. -/
theorem owes_delete (may : h.cursors.May this.cursorID) :
    Owes h this.delete fun h' _ => h' = { h with cursors := h.cursors.give this.cursorID } := by
  unfold delete
  refine .ite (fun _ => ?_) fun hid => .done ?_
  · exact (owes_close may).bind fun _ _ hclose => .done hclose.1
  · rw [Debts.give_of_neg (not_le.mp hid)]

/-- Reading opens and closes nothing, and keeps the id of the object. -/
theorem owes_rows : Owes h this.rows fun h' r => h' = h ∧ r.2.cursorID = this.cursorID :=
  .call trivial fun _ => owes_readError.bind fun _ _ hread => .done hread

/-- A fetch opens and closes nothing, and keeps the id of the object. -/
theorem owes_fetch : Owes h this.fetch fun h' r => h' = h ∧ r.2.cursorID = this.cursorID :=
  .call trivial fun _ => owes_readError.bind fun _ _ hread => .done hread

/-- Reading a field opens and closes nothing, and keeps the id of the object. -/
theorem owes_fieldAsString (f : ℤ) :
    Owes h (this.fieldAsString f) fun h' r => h' = h ∧ r.2.cursorID = this.cursorID :=
  .call trivial fun _ => owes_readError.bind fun _ _ hread => .done hread

end CMySQLCursor

namespace Globals

/-- The procedures read the error of a connection without debts. -/
theorem owes_readMySqlError (p : ℤ) : Owes h (readMySqlError p) fun h' _ => h' = h :=
  .call trivial fun _ => .call trivial fun _ => .done rfl

/-- The procedures read the error of a cursor without debts. -/
theorem owes_readCursorError (p : ℤ) : Owes h (readCursorError p) fun h' _ => h' = h :=
  .call trivial fun _ => .call trivial fun _ => .done rfl

/-- `MySqlExecute` opens and closes nothing. -/
theorem owes_mySqlExecute (p : ℤ) (q : WStr) : Owes h (mySqlExecute p q) fun h' _ => h' = h := by
  unfold mySqlExecute
  refine .ite (fun _ => .done rfl) fun _ => .call trivial fun accepted => .ite (fun _ => .done rfl) fun _ => ?_
  exact (owes_readMySqlError p).bind fun _ _ hread => .done hread

/-- `MySqlConnect` owes the id which it returns. -/
theorem owes_mySqlConnect (c : Credentials) :
    Owes h (mySqlConnect c) fun h' r => h' = { h with connections := h.connections.tell r.1 } := by
  unfold mySqlConnect
  refine .call trivial fun (connection : ℤ) => ?_
  have names (h' : Held) : Owes h' (mySqlExecute connection (wide "SET NAMES UTF8") >>= fun answer =>
      if answer.1 then return (connection, answer.2) else return (connection, ← readMySqlError (-1)))
      fun h'' r => h'' = h' ∧ r.1 = connection := by
    refine (owes_mySqlExecute connection _).bind fun answer h'' hh => ?_
    subst hh
    refine .ite (fun _ => .done ⟨rfl, rfl⟩) fun _ => ?_
    exact (owes_readMySqlError _).bind fun _ _ hread => .done ⟨hread, rfl⟩
  have owed (h' : Held) (r : ℤ × Globals) (hnames : h' = h.after (.connect c) connection ∧ r.1 = connection) :
      h' = { h with connections := h.connections.tell r.1 } := by
    rw [hnames.1, hnames.2]
    rfl
  refine .ite (fun _ => (owes_readMySqlError _).bind fun _ h' hread => ?_) fun _ => (names _).mono owed
  subst hread
  exact (names _).mono owed

/-- `MySqlDisconnect` gives it back. -/
theorem owes_mySqlDisconnect {p : ℤ} (may : h.connections.May p) :
    Owes h (mySqlDisconnect p) fun h' _ => h' = { h with connections := h.connections.give p } := by
  unfold mySqlDisconnect
  refine .ite (fun hp => .done ?_) fun _ => .call may fun _ => .done rfl
  rw [hp, Debts.give_of_neg (by decide)]

/-- `MySqlCursorOpen` owes the id which it returns. -/
theorem owes_mySqlCursorOpen (p : ℤ) (q : WStr) :
    Owes h (mySqlCursorOpen p q) fun h' r => h' = { h with cursors := h.cursors.tell r.1 } := by
  unfold mySqlCursorOpen
  refine .call trivial fun (result : ℤ) => .ite (fun _ => ?_) fun _ => .done rfl
  exact (owes_readMySqlError p).bind fun _ _ hread => .done hread

/-- `MySqlCursorClose` gives it back. -/
theorem owes_mySqlCursorClose {p : ℤ} (may : h.cursors.May p) :
    Owes h (mySqlCursorClose p) fun h' _ => h' = { h with cursors := h.cursors.give p } :=
  .call may fun _ => owes_readCursorError p

/-- `MySqlCursorRows` opens and closes nothing. -/
theorem owes_mySqlCursorRows (p : ℤ) : Owes h (mySqlCursorRows p) fun h' _ => h' = h :=
  .call trivial fun _ => (owes_readCursorError p).bind fun _ _ hread => .done hread

/-- `MySqlCursorFetchRow` opens and closes nothing. -/
theorem owes_mySqlCursorFetchRow (p : ℤ) : Owes h (mySqlCursorFetchRow p) fun h' _ => h' = h :=
  .call trivial fun _ => (owes_readCursorError p).bind fun _ _ hread => .done hread

/-- Reading a field by the procedures opens and closes nothing. -/
theorem owes_mySqlGetRowField (p f : ℤ) : Owes h (mySqlGetRowField p f) fun h' _ => h' = h :=
  .call trivial fun _ => (owes_readCursorError p).bind fun _ _ hread => .done hread

end Globals

/-! ## The scripts -/

section Parts

variable {C : Type} {mql : Mql} {I : C → Prop} {c : C}

/-- What an operation of a wrapper does which opens and closes nothing. -/
def Passes (I : C → Prop) (p : C → Script (α × C)) : Prop :=
  ∀ h c, I c → Owes h (p c) fun h' r => h' = h ∧ I r.2

/-- A reader which opens and closes nothing. -/
structure Reader.Passes (reader : Reader C) (I : C → Prop) : Prop where
  rows : MqlMySql.Passes I reader.rows
  fetch : MqlMySql.Passes I reader.fetch
  fieldAsInt : ∀ f, MqlMySql.Passes I fun c => reader.fieldAsInt c f
  fieldAsString : ∀ f, MqlMySql.Passes I fun c => reader.fieldAsString c f
  fieldAsDatetime : ∀ f, MqlMySql.Passes I fun c => reader.fieldAsDatetime c f

/-- The reader of the classes passes, and its object remembers the same cursor. -/
theorem Reader.object_passes (p : ℤ) : (Reader.object mql).Passes fun cursor => cursor.cursorID = p where
  rows _ _ hc := CMySQLCursor.owes_rows.mono fun _ _ hr => ⟨hr.1, hr.2.trans hc⟩
  fetch _ _ hc := CMySQLCursor.owes_fetch.mono fun _ _ hr => ⟨hr.1, hr.2.trans hc⟩
  fieldAsInt f _ _ hc := (CMySQLCursor.owes_fieldAsString f).bind fun _ _ hr => .done ⟨hr.1, hr.2.trans hc⟩
  fieldAsString f _ _ hc := (CMySQLCursor.owes_fieldAsString f).mono fun _ _ hr => ⟨hr.1, hr.2.trans hc⟩
  fieldAsDatetime f _ _ hc := (CMySQLCursor.owes_fieldAsString f).bind fun _ _ hr => .done ⟨hr.1, hr.2.trans hc⟩

/-- The reader of the procedures passes; the cursor is an argument of it. -/
theorem Reader.procedures_passes (cursor : ℤ) : (Reader.procedures mql cursor).Passes fun _ => True where
  rows _ _ _ := (Globals.owes_mySqlCursorRows cursor).mono fun _ _ hh => ⟨hh, trivial⟩
  fetch _ _ _ := (Globals.owes_mySqlCursorFetchRow cursor).mono fun _ _ hh => ⟨hh, trivial⟩
  fieldAsInt f _ _ _ := (Globals.owes_mySqlGetRowField cursor f).bind fun _ _ hh => .done ⟨hh, trivial⟩
  fieldAsString f _ _ _ := (Globals.owes_mySqlGetRowField cursor f).mono fun _ _ hh => ⟨hh, trivial⟩
  fieldAsDatetime f _ _ _ := (Globals.owes_mySqlGetRowField cursor f).bind fun _ _ hh => .done ⟨hh, trivial⟩

/-- However many rows there are, reading them opens and closes nothing. -/
theorem owes_fetchLoop {reader : Reader C} (passes : reader.Passes I) (i count : ℕ) (hc : I c) :
    Owes h (fetchLoop mql reader i count c) fun h' r => h' = h ∧ I r.2 := by
  induction count generalizing h i c with
  | zero => exact .done ⟨rfl, hc⟩
  | succ count ih =>
    refine (passes.fetch h c hc).bind fun ⟨fetched, c₁⟩ h₁ ⟨hh, hc₁⟩ => ?_
    subst hh
    refine .ite (fun _ => ?_) fun _ => ih (i + 1) hc₁
    refine (passes.fieldAsInt 0 _ c₁ hc₁).bind fun ⟨vId, c₂⟩ h₂ ⟨hh, hc₂⟩ => ?_
    subst hh
    refine (passes.fieldAsString 1 _ c₂ hc₂).bind fun ⟨vCode, c₃⟩ h₃ ⟨hh, hc₃⟩ => ?_
    subst hh
    refine (passes.fieldAsDatetime 2 _ c₃ hc₃).bind fun ⟨vStartTime, c₄⟩ h₄ ⟨hh, hc₄⟩ => ?_
    subst hh
    exact (ih (i + 1) hc₄).bind fun _ _ hrest => .done hrest

/-- Showing the rows opens and closes nothing, on whatever reader passes. -/
theorem owes_showRows {reader : Reader C} (passes : reader.Passes I) (hc : I c) :
    Owes h (showRows mql reader c) fun h' r => h' = h ∧ I r.2 := by
  refine (passes.rows h c hc).bind fun ⟨count, c₁⟩ h₁ ⟨hh, hc₁⟩ => ?_
  subst hh
  exact (owes_fetchLoop passes 0 count.toNat hc₁).bind fun _ _ hrest => .done hrest

variable {execute : WStr → C → Script (Bool × C)} {description : C → String}

/-- Creating the table opens and closes nothing, whichever wrapper executes the statements. -/
theorem owes_createTables (passes : ∀ q, Passes I (execute q)) (hc : I c) :
    Owes h (createTables execute description c) fun h' r => h' = h ∧ I r.2 := by
  refine (passes dropTable h c hc).bind fun ⟨_, c₁⟩ h₁ ⟨hh, hc₁⟩ => ?_
  subst hh
  refine (passes createTable _ c₁ hc₁).bind fun ⟨created, c₂⟩ h₂ ⟨hh, hc₂⟩ => ?_
  subst hh
  exact .ite (fun _ => .done ⟨rfl, hc₂⟩) fun _ => .done ⟨rfl, hc₂⟩

/-- The inserts open and close nothing, whichever wrapper executes them. -/
theorem owes_fillTable (passes : ∀ q, Passes I (execute q)) (hc : I c) :
    Owes h (fillTable mql execute description c) fun h' r => h' = h ∧ I r.2 := by
  refine (passes (insertAccount mql) h c hc).bind fun ⟨_, c₁⟩ h₁ ⟨hh, hc₁⟩ => ?_
  subst hh
  exact (passes insertRows _ c₁ hc₁).bind fun _ _ hrest => .done hrest

/-- Creating the table and filling it opens and closes nothing. -/
theorem owes_fillTables (passes : ∀ q, Passes I (execute q)) (hc : I c) :
    Owes h (fillTables mql execute description c) fun h' r => h' = h ∧ I r.2 := by
  refine (passes dropTable h c hc).bind fun ⟨_, c₁⟩ h₁ ⟨hh, hc₁⟩ => ?_
  subst hh
  refine (passes createTable _ c₁ hc₁).bind fun ⟨created, c₂⟩ h₂ ⟨hh, hc₂⟩ => ?_
  subst hh
  refine .ite (fun _ => ?_) fun _ => .done ⟨rfl, hc₂⟩
  exact (owes_fillTable passes hc₂).bind fun _ _ hrest => .done hrest

end Parts

section Scripts

variable {mql : Mql} {lines : List Line}

/-- `Execute` passes, and its object remembers the same connection. -/
theorem CMySQL.execute_passes (p : ℤ) (q : WStr) :
    Passes (fun db : CMySQL => db.connectID = p) fun db => db.execute q :=
  fun _ _ hdb => (owes_execute q).mono fun _ _ hr => ⟨hr.1, hr.2.trans hdb⟩

/-- `MySqlExecute` passes; the connection is an argument of it. -/
theorem Globals.execute_passes (p : ℤ) (q : WStr) : Passes (fun _ => True) fun _ : Globals => mySqlExecute p q :=
  fun _ _ _ => (owes_mySqlExecute p q).mono fun _ _ hh => ⟨hh, trivial⟩

/-- An object which was not connected yet. -/
theorem CMySQL.unconnected (c : Credentials) : (CMySQL.new.setCredentials c).connectID < 0 := Int.negSucc_lt_zero 0

/-- The scripts of the classes begin with the debt of one connection, or with none when it is refused. -/
theorem owes_openDatabase : Owes .nothing (openDatabase mql) fun h' r =>
    h' = ⟨Debts.nothing.tell r.2.connectID, .nothing⟩ :=
  (CMySQL.owes_connect (CMySQL.unconnected _)).bind fun _ _ hconnect => .done hconnect

/-- With all cursors closed, nothing is owed after the database is closed. -/
theorem owes_closeDatabase {db : CMySQL} {p : ℤ} {cursors : Debts} (hdb : db.connectID = p)
    (settled : cursors.Settled) :
    Owes ⟨Debts.nothing.tell p, cursors⟩ (closeDatabase db lines) fun h' _ => h'.Settled := by
  subst hdb
  refine (CMySQL.owes_disconnect (by simp)).bind fun db' h₁ ⟨hh, hid⟩ => ?_
  subst hh
  refine (CMySQL.owes_delete (.inl (by omega))).bind fun _ h₂ hh => .done ?_
  subst hh
  refine ⟨Debts.settled_iff.mpr fun q => ?_, settled⟩
  simp only [Debts.mem_give_owed, Debts.mem_tell_owed, Debts.mem_nothing_owed]
  tauto

/-- Three objects connect and disconnect, and deleting them gives nothing back twice. -/
theorem owes_onStart001c : Owes .nothing (onStart001c mql) fun h' _ => h'.Settled := by
  refine (CMySQL.owes_connect (CMySQL.unconnected _)).bind fun ⟨b1, db1⟩ _ hh => ?_
  subst hh
  refine (CMySQL.owes_connect (CMySQL.unconnected _)).bind fun ⟨b2, db2⟩ _ hh => ?_
  subst hh
  refine (CMySQL.owes_connect (CMySQL.unconnected _)).bind fun ⟨b3, db3⟩ _ hh => ?_
  subst hh
  refine (CMySQL.owes_disconnect (by simp)).bind fun db1' _ ⟨hh, hid1⟩ => ?_
  subst hh
  refine (CMySQL.owes_disconnect (by simp)).bind fun db2' _ ⟨hh, hid2⟩ => ?_
  subst hh
  refine (CMySQL.owes_disconnect (by simp)).bind fun db3' _ ⟨hh, hid3⟩ => ?_
  subst hh
  refine (CMySQL.owes_delete (.inl (by omega))).bind fun _ _ hh => ?_
  subst hh
  refine (CMySQL.owes_delete (.inl (by omega))).bind fun _ _ hh => ?_
  subst hh
  refine (CMySQL.owes_delete (.inl (by omega))).bind fun _ _ hh => .done ?_
  subst hh
  refine ⟨Debts.settled_iff.mpr fun q => ?_, Debts.nothing_settled⟩
  simp only [Held.nothing, Debts.mem_give_owed, Debts.mem_tell_owed, Debts.mem_nothing_owed]
  tauto

/-- The script which creates the table owes its connection only, and gives it back. -/
theorem owes_onStart002c : Owes .nothing (onStart002c mql) fun h' _ => h'.Settled := by
  refine owes_openDatabase.bind fun ⟨head, db⟩ _ hh => ?_
  subst hh
  refine (owes_createTables (CMySQL.execute_passes db.connectID) rfl).bind fun ⟨lines, db'⟩ _ ⟨hh, hdb⟩ => ?_
  subst hh
  exact owes_closeDatabase hdb Debts.nothing_settled

/-- The script which fills the table owes its connection only, and gives it back. -/
theorem owes_onStart003c : Owes .nothing (onStart003c mql) fun h' _ => h'.Settled := by
  refine owes_openDatabase.bind fun ⟨head, db⟩ _ hh => ?_
  subst hh
  refine (owes_fillTables (CMySQL.execute_passes db.connectID) rfl).bind fun ⟨lines, db'⟩ _ ⟨hh, hdb⟩ => ?_
  subst hh
  exact owes_closeDatabase hdb Debts.nothing_settled

/-- Deleting a cursor object settles what it still owes. -/
theorem owes_deleteCursor {db : CMySQL} {cursor : CMySQLCursor} {cursors : Debts}
    (may : cursors.May cursor.cursorID) (settled : (cursors.give cursor.cursorID).Settled) :
    Owes ⟨Debts.nothing.tell db.connectID, cursors⟩
      (do
        cursor.delete
        closeDatabase db lines) fun h' _ => h'.Settled := by
  refine (CMySQLCursor.owes_delete may).bind fun _ _ hh => ?_
  subst hh
  exact owes_closeDatabase rfl settled

/-- The cursor is closed if it was opened, and the connection is given back in either case. -/
theorem owes_onStart004c : Owes .nothing (onStart004c mql) fun h' _ => h'.Settled := by
  refine owes_openDatabase.bind fun ⟨head, db⟩ _ hh => ?_
  subst hh
  refine (CMySQLCursor.owes_openOn db _).bind fun ⟨opened, cursor⟩ _ hh => ?_
  subst hh
  refine .ite (fun _ => ?_) fun _ => ?_
  · refine (owes_showRows (Reader.object_passes cursor.cursorID) rfl).bind fun ⟨lines, cursor'⟩ _ ⟨hh, hid⟩ => ?_
    subst hh
    dsimp only at hid ⊢
    refine (CMySQLCursor.owes_close (by simp [hid])).bind fun cursor'' _ ⟨hh, hid'⟩ => ?_
    subst hh
    rw [hid] at hid' ⊢
    refine owes_deleteCursor (hid'.may (by simp)) (Debts.settled_iff.mpr fun q => ?_)
    simp only [Debts.mem_give_owed, Debts.mem_tell_owed, Debts.mem_nothing_owed]
    tauto
  · refine owes_deleteCursor (by simp) (Debts.settled_iff.mpr fun q => ?_)
    simp only [Debts.mem_give_owed, Debts.mem_tell_owed, Debts.mem_nothing_owed]
    tauto

/-- Four cursors on one connection are closed and deleted, and then the connection is given back. -/
theorem owes_onStart005c : Owes .nothing (onStart005c mql) fun h' _ => h'.Settled := by
  refine owes_openDatabase.bind fun ⟨head, db⟩ _ hh => ?_
  subst hh
  refine (CMySQLCursor.owes_openOn db _).bind fun ⟨b1, cursor1⟩ _ hh => ?_
  subst hh
  refine (CMySQLCursor.owes_openOn db _).bind fun ⟨b2, cursor2⟩ _ hh => ?_
  subst hh
  refine (CMySQLCursor.owes_openOn db _).bind fun ⟨b3, cursor3⟩ _ hh => ?_
  subst hh
  refine (CMySQLCursor.owes_openOn db _).bind fun ⟨b4, cursor4⟩ _ hh => ?_
  subst hh
  refine (CMySQLCursor.owes_close (by simp)).bind fun cursor1' _ ⟨hh, hid1⟩ => ?_
  subst hh
  refine (CMySQLCursor.owes_close (by simp)).bind fun cursor2' _ ⟨hh, hid2⟩ => ?_
  subst hh
  refine (CMySQLCursor.owes_close (by simp)).bind fun cursor3' _ ⟨hh, hid3⟩ => ?_
  subst hh
  refine (CMySQLCursor.owes_close (by simp)).bind fun cursor4' _ ⟨hh, hid4⟩ => ?_
  subst hh
  refine (CMySQL.owes_disconnect (by simp)).bind fun db' _ ⟨hh, hdb⟩ => ?_
  subst hh
  refine (CMySQLCursor.owes_delete (hid1.may (by simp))).bind fun _ _ hh => ?_
  subst hh
  refine (CMySQLCursor.owes_delete (hid2.may (by simp))).bind fun _ _ hh => ?_
  subst hh
  refine (CMySQLCursor.owes_delete (hid3.may (by simp))).bind fun _ _ hh => ?_
  subst hh
  refine (CMySQLCursor.owes_delete (hid4.may (by simp))).bind fun _ _ hh => ?_
  subst hh
  refine (CMySQL.owes_delete (.inl (by omega))).bind fun _ _ hh => .done ?_
  subst hh
  refine ⟨Debts.settled_iff.mpr fun q => ?_, Debts.settled_iff.mpr fun q => ?_⟩
  · simp only [Debts.mem_give_owed, Debts.mem_tell_owed, Debts.mem_nothing_owed]
    tauto
  · simp only [Debts.mem_give_owed, Debts.mem_tell_owed, Debts.mem_nothing_owed]
    grind

/-- Three connections are given back in the reverse order. -/
theorem owes_onStart001 : Owes .nothing (onStart001 mql) fun h' _ => h'.Settled := by
  refine (Globals.owes_mySqlConnect _).bind fun ⟨db1, _⟩ _ hh => ?_
  subst hh
  refine (Globals.owes_mySqlConnect _).bind fun ⟨db2, _⟩ _ hh => ?_
  subst hh
  refine (Globals.owes_mySqlConnect _).bind fun ⟨db3, _⟩ _ hh => ?_
  subst hh
  refine (Globals.owes_mySqlDisconnect (by simp)).bind fun _ _ hh => ?_
  subst hh
  refine (Globals.owes_mySqlDisconnect (by simp)).bind fun _ _ hh => ?_
  subst hh
  refine (Globals.owes_mySqlDisconnect (by simp)).bind fun _ _ hh => .done ?_
  subst hh
  refine ⟨Debts.settled_iff.mpr fun q => ?_, Debts.nothing_settled⟩
  simp only [Held.nothing, Debts.mem_give_owed, Debts.mem_tell_owed, Debts.mem_nothing_owed]
  tauto

/-- The scripts of the procedures begin with the debt of one connection, or with none when it is refused. -/
theorem owes_openConnection (c : Credentials) : Owes .nothing (openConnection mql c) fun h' r =>
    h' = ⟨Debts.nothing.tell r.2.1, .nothing⟩ :=
  (Globals.owes_mySqlConnect c).bind fun _ _ hconnect => .done hconnect

/-- A script which owes only its connection settles by giving it back. -/
theorem owes_closeConnection {db : ℤ} {cursors : Debts} (settled : cursors.Settled) :
    Owes ⟨Debts.nothing.tell db, cursors⟩ (closeConnection db lines) fun h' _ => h'.Settled := by
  refine (Globals.owes_mySqlDisconnect (by simp)).bind fun _ _ hh => .done ?_
  subst hh
  refine ⟨Debts.settled_iff.mpr fun q => ?_, settled⟩
  simp only [Debts.mem_give_owed, Debts.mem_tell_owed, Debts.mem_nothing_owed]
  tauto

/-- The script of the procedures which creates the table owes its connection only. -/
theorem owes_onStart002 : Owes .nothing (onStart002 mql) fun h' _ => h'.Settled := by
  refine (owes_openConnection _).bind fun ⟨head, db, _⟩ _ hh => ?_
  subst hh
  refine (owes_createTables (Globals.execute_passes db) trivial).bind fun _ _ ⟨hh, _⟩ => ?_
  subst hh
  exact owes_closeConnection Debts.nothing_settled

/-- The script of the procedures which fills the table owes its connection only. -/
theorem owes_onStart003 : Owes .nothing (onStart003 mql) fun h' _ => h'.Settled := by
  refine (owes_openConnection _).bind fun ⟨head, db, _⟩ _ hh => ?_
  subst hh
  refine (owes_fillTables (Globals.execute_passes db) trivial).bind fun _ _ ⟨hh, _⟩ => ?_
  subst hh
  exact owes_closeConnection Debts.nothing_settled

/-- Without a connection there is nothing to give back, and without a cursor there is no cursor. -/
theorem owes_onStart004 : Owes .nothing (onStart004 mql) fun h' _ => h'.Settled := by
  refine (owes_openConnection _).bind fun ⟨head, db, _⟩ _ hh => ?_
  subst hh
  dsimp only
  refine .ite (fun hdb => .done ?_) fun _ => ?_
  · rw [hdb, Debts.tell_of_neg (by decide)]
    exact ⟨Debts.nothing_settled, Debts.nothing_settled⟩
  · refine (Globals.owes_mySqlCursorOpen db _).bind fun ⟨cursor, globals⟩ _ hh => ?_
    subst hh
    dsimp only
    refine .ite (fun _ => ?_) fun hnone => ?_
    · refine (owes_showRows (Reader.procedures_passes cursor) trivial).bind fun _ _ ⟨hh, _⟩ => ?_
      subst hh
      refine (Globals.owes_mySqlCursorClose (by simp)).bind fun _ _ hh => ?_
      subst hh
      refine owes_closeConnection (Debts.settled_iff.mpr fun q => ?_)
      simp only [Debts.mem_give_owed, Debts.mem_tell_owed, Debts.mem_nothing_owed]
      tauto
    · rw [Debts.tell_of_neg (not_le.mp hnone)]
      exact owes_closeConnection Debts.nothing_settled

/-- Four cursors on one connection are closed, and then the connection is given back. -/
theorem owes_onStart005 : Owes .nothing (onStart005 mql) fun h' _ => h'.Settled := by
  refine (owes_openConnection _).bind fun ⟨head, db, _⟩ _ hh => ?_
  subst hh
  refine (Globals.owes_mySqlCursorOpen db _).bind fun ⟨cursor1, _⟩ _ hh => ?_
  subst hh
  refine (Globals.owes_mySqlCursorOpen db _).bind fun ⟨cursor2, _⟩ _ hh => ?_
  subst hh
  refine (Globals.owes_mySqlCursorOpen db _).bind fun ⟨cursor3, _⟩ _ hh => ?_
  subst hh
  refine (Globals.owes_mySqlCursorOpen db _).bind fun ⟨cursor4, _⟩ _ hh => ?_
  subst hh
  refine (Globals.owes_mySqlCursorClose (by simp)).bind fun _ _ hh => ?_
  subst hh
  refine (Globals.owes_mySqlCursorClose (by simp)).bind fun _ _ hh => ?_
  subst hh
  refine (Globals.owes_mySqlCursorClose (by simp)).bind fun _ _ hh => ?_
  subst hh
  refine (Globals.owes_mySqlCursorClose (by simp)).bind fun _ _ hh => ?_
  subst hh
  refine owes_closeConnection (Debts.settled_iff.mpr fun q => ?_)
  simp only [Debts.mem_give_owed, Debts.mem_tell_owed, Debts.mem_nothing_owed]
  tauto

/-- Every script settles its debts. -/
theorem owes_onStart (demo : Demo) : Owes .nothing (onStart mql demo) fun h' _ => h'.Settled := by
  cases demo with
  | mySQL001c => exact owes_onStart001c
  | mySQL002c => exact owes_onStart002c
  | mySQL003c => exact owes_onStart003c
  | mySQL004c => exact owes_onStart004c
  | mySQL005c => exact owes_onStart005c
  | mySQL001 => exact owes_onStart001
  | mySQL002 => exact owes_onStart002
  | mySQL003 => exact owes_onStart003
  | mySQL004 => exact owes_onStart004
  | mySQL005 => exact owes_onStart005

end Scripts

/-- A terminal for the concrete runs. -/
def Mql.sample : Mql where
  version := wide "v"
  terminalPath := wide "C:"
  privateProfile _ _ key := key
  stringToInteger text := text.length
  stringToTime text := text.length
  timeToString n := wide (toString n)
  accountLogin := wide "1"
  timeLocal := 0

end MqlMySql
