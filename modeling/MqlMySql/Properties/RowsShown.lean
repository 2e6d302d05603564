import MqlMySql.Spec.Readers

/-!
# The rows which a script shows

`MySQL-004` and `MySQL-004c` print the rows of a table. Whatever other programs call in between, as long as they leave
its cursor alone, what such a script prints are the rows of the result which its cursor was opened on, in order, each
with its number and its columns as the conversions give them.

The number of rows passes through an `int`. Up to 2^31 - 1 rows all are shown; from 2^31 on it wraps around, and the
loop shows as many rows as the wrapped number says, or none when that is negative.
-/

namespace MqlMySql

open Library

variable {σ : Type} (mql : Mql)

/-- The line for a row of a result. -/
def shownLine (x : StoredResult) (i : ℕ) (row : StoredRow) : Line :=
  rowLine mql i (mql.asInt (x.shown row 0)) (x.shown row 1) (mql.asDatetime (x.shown row 2))

/-- The lines for some of the rows, from `i` on. -/
def shownLines (x : StoredResult) (i count : ℕ) : List Line :=
  ((x.rows.drop i).take count).mapIdx fun j row => shownLine mql x (i + j) row

/-- The lines for a result. -/
def showLines (x : StoredResult) : List Line :=
  [.int (intOfUInt64 x.rows.length), .literal " row(s) selected."] ::
    (x.rows.take (intOfUInt64 x.rows.length).toNat).mapIdx fun i row => shownLine mql x i row

/-- The lines for all rows of a result. -/
def allLines (x : StoredResult) : List Line :=
  [.int x.rows.length, .literal " row(s) selected."] :: x.rows.mapIdx fun i row => shownLine mql x i row

/-- When their number is an `int`, all rows are shown. -/
theorem showLines_eq (x : StoredResult) (h : x.rows.length < 2 ^ 31) : showLines mql x = allLines mql x := by
  have hcount : intOfUInt64 x.rows.length = x.rows.length := by
    apply Int.bmod_eq_of_le
    · omega
    · omega
  simp [showLines, allLines, hcount]

variable {mql}

/-- While there is a row, its line is shown, and then those of the rows after it. -/
theorem shownLines_of_row {x : StoredResult} {i : ℕ} {row : StoredRow} (h : x.rows[i]? = some row) (count : ℕ) :
    shownLines mql x i (count + 1) = shownLine mql x i row :: shownLines mql x (i + 1) count := by
  obtain ⟨hi, rfl⟩ := List.getElem?_eq_some_iff.mp h
  rw [shownLines, List.drop_eq_getElem_cons hi, List.take_succ_cons, List.mapIdx_cons, shownLines]
  simp only [Nat.add_zero, List.cons.injEq, true_and]
  congr 1
  funext j row
  rw [Nat.add_right_comm, Nat.add_assoc]

/-- Past the last row no line is shown. -/
theorem shownLines_of_end {x : StoredResult} {i : ℕ} (h : x.rows.length ≤ i) (count : ℕ) :
    shownLines mql x i count = [] := by
  rw [shownLines, List.drop_eq_nil_of_le h, List.take_nil, List.mapIdx_nil]

variable {host : Host σ} {turns : ℕ} {own : Own (World σ) Exported Exported.Reply} {w : World σ}

section Loop

variable {β : Type} {I : β → Prop} {x : StoredResult} {A : ℕ → Own (World σ) Exported Exported.Reply → World σ → Prop}
  {reader : Reader β} {c : β}

/-- The loop shows the next rows. -/
theorem ensures_fetchLoop (reads : ReadsCursor host turns mql I x A reader) {i : ℕ} (count : ℕ) (hc : I c)
    (h : A i own w) :
    (fetchLoop mql reader i count c).Ensures (LeavesAlone host turns) (dllStep host turns) (fun _ => False)
      (fun r _ _ => r.1 = shownLines mql x i count ∧ I r.2) own w := by
  induction count generalizing i c own w with
  | zero => exact ⟨by simp [shownLines], hc⟩
  | succ count ih =>
    refine (reads.fetch i own w c hc h).bind fun ⟨fetched, c₁⟩ own₁ w₁ ⟨h₁, hfetched, hc₁⟩ => ?_
    dsimp only at hfetched hc₁ ⊢
    by_cases hi : i < x.rows.length
    · have hrow : x.rows[i]? = some x.rows[i] := List.getElem?_eq_getElem hi
      have hmore : decide (i + 1 ≤ x.rows.length) = true := decide_eq_true hi
      rw [hfetched, if_pos hmore]
      refine (reads.fieldAsInt i _ 0 hrow (by decide) own₁ w₁ c₁ hc₁ h₁).bind
        fun ⟨vId, c₂⟩ own₂ w₂ ⟨h₂, hid, hc₂⟩ => ?_
      refine (reads.fieldAsString i _ 1 hrow (by decide) own₂ w₂ c₂ hc₂ h₂).bind
        fun ⟨vCode, c₃⟩ own₃ w₃ ⟨h₃, hcode, hc₃⟩ => ?_
      refine (reads.fieldAsDatetime i _ 2 hrow (by decide) own₃ w₃ c₃ hc₃ h₃).bind
        fun ⟨vStartTime, c₄⟩ own₄ w₄ ⟨h₄, htime, hc₄⟩ => ?_
      refine (ih hc₄ h₄).bind fun ⟨lines, c₅⟩ own₅ w₅ ⟨hlines, hc₅⟩ => ⟨?_, hc₅⟩
      dsimp only at hid hcode htime hlines ⊢
      rw [hid, hcode, htime, hlines, shownLines_of_row hrow, shownLine]
    · have hnone : ¬ decide (i + 1 ≤ x.rows.length) = true := fun hmore => hi (of_decide_eq_true hmore)
      rw [hfetched, if_neg hnone]
      refine (ih hc₁ h₁).mono (fun _ hfault => hfault) fun r own' w' ⟨hlines, hr⟩ => ⟨?_, hr⟩
      rw [hlines, shownLines_of_end (by omega), shownLines_of_end (by omega)]

/-- What a script shows of an open cursor. -/
theorem ensures_showRows (reads : ReadsCursor host turns mql I x A reader) (hc : I c) (h : A 0 own w) :
    (showRows mql reader c).Ensures (LeavesAlone host turns) (dllStep host turns) (fun _ => False)
      (fun r _ _ => r.1 = showLines mql x ∧ I r.2) own w := by
  refine (reads.rows own w c hc h).bind fun ⟨count, c₁⟩ own₁ w₁ ⟨h₁, hcount, hc₁⟩ => ?_
  dsimp only at hcount hc₁ ⊢
  refine (ensures_fetchLoop reads count.toNat hc₁ h₁).bind fun ⟨lines, c₂⟩ own₂ w₂ ⟨hlines, hc₂⟩ => ⟨?_, hc₂⟩
  dsimp only at hlines ⊢
  rw [hlines, showLines, ← hcount, shownLines, List.drop_zero]
  simp only [Nat.zero_add]

end Loop

/-! ## The scripts as a whole -/

/-- The calls which open no cursor. -/
def Exported.OpensNone : Exported → Prop
  | .cursorOpen _ _ => False
  | _ => True

section Makes

/-- Reading an error opens no cursor. -/
theorem CMySQL.makes_readError (this : CMySQL) (p : ℤ) : (this.readError p).Makes Exported.OpensNone := by
  simp [readError, Exported.OpensNone]

/-- `Execute` opens no cursor. -/
theorem CMySQL.makes_execute (this : CMySQL) (q : WStr) : (this.execute q).Makes Exported.OpensNone := by
  refine Program.makes_ite.mpr ⟨fun _ => trivial, fun _ => ⟨trivial, fun (accepted : Bool) => ?_⟩⟩
  exact Program.makes_ite.mpr ⟨fun _ => trivial, fun _ => (makes_readError _ _).bind fun _ => trivial⟩

/-- `Connect` opens no cursor. -/
theorem CMySQL.makes_connect (this : CMySQL) : this.connect.Makes Exported.OpensNone := by
  unfold connect
  dsimp only
  split
  · trivial
  · simp only [Program.makes_ite, Program.ask_bind, Program.makes_call]
    refine ⟨fun _ => trivial, fun _ => ⟨trivial, fun r => ⟨fun _ => ?_, fun _ => ?_⟩⟩⟩
    · exact (makes_readError _ _).bind fun _ => trivial
    · refine (makes_execute _ _).bind fun _ => ?_
      rw [Program.makes_ite]
      exact ⟨fun _ => trivial, fun _ => (makes_readError _ _).bind fun _ => trivial⟩

/-- `Disconnect` opens no cursor. -/
theorem CMySQL.makes_disconnect (this : CMySQL) : this.disconnect.Makes Exported.OpensNone :=
  Program.makes_ite.mpr ⟨fun _ => trivial, fun _ => ⟨trivial, fun _ => trivial⟩⟩

/-- Deleting a connection object opens no cursor. -/
theorem CMySQL.makes_delete (this : CMySQL) : this.delete.Makes Exported.OpensNone := by
  simp only [delete, Program.makes_ite]
  exact ⟨fun _ => this.makes_disconnect.bind fun _ => trivial, fun _ => trivial⟩

/-- `Close` opens no cursor. -/
theorem CMySQLCursor.makes_close (this : CMySQLCursor) : this.close.Makes Exported.OpensNone := by
  simp [close, readError, Exported.OpensNone]

/-- Deleting a cursor object opens no cursor. -/
theorem CMySQLCursor.makes_delete (this : CMySQLCursor) : this.delete.Makes Exported.OpensNone := by
  simp only [delete, Program.makes_ite]
  exact ⟨fun _ => this.makes_close.bind fun _ => trivial, fun _ => trivial⟩

/-- `MySqlExecute` opens no cursor. -/
theorem Globals.makes_mySqlExecute (p : ℤ) (q : WStr) : (mySqlExecute p q).Makes Exported.OpensNone := by
  simp [mySqlExecute, readMySqlError, Exported.OpensNone]

/-- `MySqlConnect` opens no cursor. -/
theorem Globals.makes_mySqlConnect (c : Credentials) : (mySqlConnect c).Makes Exported.OpensNone := by
  have names (r : ℤ) : Program.Makes Exported.OpensNone (mySqlExecute r (wide "SET NAMES UTF8") >>= fun answer =>
      if answer.1 then return (r, answer.2) else return (r, ← readMySqlError (-1))) := by
    refine (makes_mySqlExecute _ _).bind fun _ => ?_
    simp [readMySqlError, Exported.OpensNone]
  refine ⟨trivial, fun (r : ℤ) => Program.makes_ite.mpr ⟨fun _ => ?_, fun _ => names r⟩⟩
  exact ⟨trivial, fun _ => ⟨trivial, fun _ => names r⟩⟩

/-- `MySqlDisconnect` opens no cursor. -/
theorem Globals.makes_mySqlDisconnect (p : ℤ) : (mySqlDisconnect p).Makes Exported.OpensNone := by
  simp [mySqlDisconnect, Exported.OpensNone]

/-- Reading the error of a connection opens no cursor. -/
theorem Globals.makes_readMySqlError (p : ℤ) : (readMySqlError p).Makes Exported.OpensNone := by
  simp [readMySqlError, Exported.OpensNone]

/-- `MySqlCursorClose` opens no cursor. -/
theorem Globals.makes_mySqlCursorClose (p : ℤ) : (mySqlCursorClose p).Makes Exported.OpensNone := by
  simp [mySqlCursorClose, readCursorError, Exported.OpensNone]

variable (mql : Mql)

/-- What the scripts of the classes do before they open a cursor. -/
theorem makes_openDatabase : (openDatabase mql).Makes Exported.OpensNone :=
  (CMySQL.makes_connect _).bind fun _ => trivial

/-- What the scripts of the classes do after their cursor. -/
theorem makes_closeDatabase (db : CMySQL) (lines : List Line) : (closeDatabase db lines).Makes Exported.OpensNone :=
  db.makes_disconnect.bind fun db => db.makes_delete.bind fun _ => trivial

/-- What the scripts of the procedures do before they open a cursor. -/
theorem makes_openConnection (c : Credentials) : (openConnection mql c).Makes Exported.OpensNone :=
  (Globals.makes_mySqlConnect c).bind fun _ => trivial

/-- What the scripts of the procedures do after their cursor. -/
theorem makes_closeConnection (db : ℤ) (lines : List Line) : (closeConnection db lines).Makes Exported.OpensNone :=
  (Globals.makes_mySqlDisconnect db).bind fun _ => trivial

variable {C : Type} {reader : Reader C}

/-- Reading the rows opens no cursor. -/
theorem makes_showRows (rows : ∀ c, (reader.rows c).Makes Exported.OpensNone)
    (fetch : ∀ c, (reader.fetch c).Makes Exported.OpensNone)
    (fieldAsInt : ∀ c f, (reader.fieldAsInt c f).Makes Exported.OpensNone)
    (fieldAsString : ∀ c f, (reader.fieldAsString c f).Makes Exported.OpensNone)
    (fieldAsDatetime : ∀ c f, (reader.fieldAsDatetime c f).Makes Exported.OpensNone) (c : C) :
    (showRows mql reader c).Makes Exported.OpensNone := by
  have loop (count i : ℕ) (c : C) : (fetchLoop mql reader i count c).Makes Exported.OpensNone := by
    induction count generalizing i c with
    | zero => trivial
    | succ count ih =>
      refine (fetch c).bind fun r => Program.makes_ite.mpr ⟨fun _ => ?_, fun _ => ih _ _⟩
      refine (fieldAsInt _ _).bind fun _ => (fieldAsString _ _).bind fun _ => (fieldAsDatetime _ _).bind fun _ => ?_
      exact (ih _ _).bind fun _ => trivial
  exact (rows c).bind fun r => (loop _ _ _).bind fun _ => trivial

/-- Nor do the methods of a cursor object, when they read it. -/
theorem makes_showRows_object (this : CMySQLCursor) : (showRows mql (.object mql) this).Makes Exported.OpensNone := by
  have field (this : CMySQLCursor) (f : ℤ) : (this.fieldAsString f).Makes Exported.OpensNone := by
    simp [CMySQLCursor.fieldAsString, CMySQLCursor.readError, Exported.OpensNone]
  apply makes_showRows
  · simp [Reader.object, CMySQLCursor.rows, CMySQLCursor.readError, Exported.OpensNone]
  · simp [Reader.object, CMySQLCursor.fetch, CMySQLCursor.readError, Exported.OpensNone]
  · exact fun this f => (field this f).bind fun _ => trivial
  · exact field
  · exact fun this f => (field this f).bind fun _ => trivial

/-- Nor do the procedures. -/
theorem makes_showRows_procedures (cursor : ℤ) (globals : Globals) :
    (showRows mql (.procedures mql cursor) globals).Makes Exported.OpensNone := by
  have field (f : ℤ) : (Globals.mySqlGetRowField cursor f).Makes Exported.OpensNone := by
    simp [Globals.mySqlGetRowField, Globals.readCursorError, Exported.OpensNone]
  apply makes_showRows
  · simp [Reader.procedures, Globals.mySqlCursorRows, Globals.readCursorError, Exported.OpensNone]
  · simp [Reader.procedures, Globals.mySqlCursorFetchRow, Globals.readCursorError, Exported.OpensNone]
  · exact fun _ f => (field f).bind fun _ => trivial
  · exact fun _ => field
  · exact fun _ f => (field f).bind fun _ => trivial

end Makes

variable {stored : σ → MysqlRes → Option StoredResult} {res : MysqlRes} {x : StoredResult} {k : Fin maxCursors}

/-- A call which opens a cursor on a stored result. -/
def OpensOn (stored : σ → MysqlRes → Option StoredResult) (z : Called σ) (x : StoredResult) : Prop :=
  ∃ w₀ p q w₁, ∃ k : Fin maxCursors, ∃ res,
    z = ⟨w₀, .cursorOpen p q, (k.val : ℤ), w₁⟩ ∧ OpenedOn stored w₁ k res x

/-- The lines show the rows of every result on which an own cursor was opened. -/
def Shows (mql : Mql) (stored : σ → MysqlRes → Option StoredResult) (lines : List Line)
    (own : Own (World σ) Exported Exported.Reply) : Prop :=
  ∀ z ∈ own, ∀ x, OpensOn stored z x → ∃ head, lines = head ++ (showLines mql x ++ doneLines)

/-- A call which opens no cursor is not the opening on a result. -/
theorem not_opensOn {z : Called σ} (opens : z.label.OpensNone) : ¬ OpensOn stored z x := by
  rintro ⟨w₀, p, q, w₁, k, res, rfl, -⟩
  exact opens

variable (laws : StoresResults host stored)

include laws

/-- Calls which open no cursor, whatever they are. -/
theorem ensures_of_makes {α : Type} {p : Script α} (makes : p.Makes Exported.OpensNone) (h : Shelved stored w) :
    p.Ensures (LeavesAlone host turns) (dllStep host turns) (fun _ => True)
      (fun _ own' w' => Shelved stored w' ∧ ∃ new, own' = own ++ new ∧ ∀ y ∈ new, y.label.OpensNone) own w := by
  induction p generalizing own w with
  | done a => exact ⟨h, [], by simp, by simp⟩
  | call e rest ih =>
    refine .call (Shelved stored) h (fun _ _ ⟨_, _, hcall, _⟩ hs => hs.step laws hcall) (fun _ _ _ _ => trivial) ?_
    intro w₁ r w₂ hs hok
    refine (ih r (makes.2 r) (hs.step laws hok)).mono (fun _ hfault => hfault)
      fun _ own' w' ⟨hs', new, hown, hnew⟩ => ?_
    refine ⟨hs', ⟨w₁, e, r, w₂⟩ :: new, by simp [hown], fun y hy => ?_⟩
    rcases List.mem_cons.mp hy with rfl | hy
    · exact makes.1
    · exact hnew y hy

omit laws in
/-- Among calls of which only one opens a cursor, it is that one. -/
theorem OpensOn.eq_of_mem {y z : Called σ} {new : Own (World σ) Exported Exported.Reply} (h : OpensOn stored z x)
    (before : ∀ y ∈ own, y.label.OpensNone) (after : ∀ y ∈ new, y.label.OpensNone) (hz : z ∈ own ++ [y] ++ new) :
    z = y := by
  rw [List.append_assoc, List.mem_append, List.singleton_append, List.mem_cons] at hz
  rcases hz with hz | rfl | hz
  · exact absurd h (not_opensOn (before z hz))
  · rfl
  · exact absurd h (not_opensOn (after z hz))

omit laws in
/-- What is known of an opening on a stored result. -/
theorem OpensOn.opened {w₁ w₂ : World σ} {p r : ℤ} {q : WStr} (h : OpensOn stored ⟨w₁, .cursorOpen p q, r, w₂⟩ x) :
    ∃ (k : Fin maxCursors) (res : MysqlRes), r = k.val ∧ OpenedOn stored w₂ k res x := by
  obtain ⟨w₀, p', q', w₁', k, res, heq, hopened⟩ := h
  cases heq
  exact ⟨k, res, rfl, hopened⟩

/-- A program which opens one cursor, and then shows the rows of it. -/
theorem ensures_cursorOpen {p : ℤ} {q : WStr} {rest : ℤ → Script (List Line)} (before : ∀ y ∈ own, y.label.OpensNone)
    (h : Shelved stored w) (after : ∀ r, (rest r).Makes Exported.OpensNone)
    (shows : ∀ own₀ (k : Fin maxCursors) res x w', Sits stored own₀ k res x 0 own₀ w' →
      (rest k.val).Ensures (LeavesAlone host turns) (dllStep host turns) (fun _ => True)
        (fun lines _ _ => ∃ head, lines = head ++ (showLines mql x ++ doneLines)) own₀ w') :
    (Program.call (.cursorOpen p q) rest).Ensures (LeavesAlone host turns) (dllStep host turns) (fun _ => True)
      (fun lines own _ => Shows mql stored lines own) own w := by
  refine .call (Shelved stored) h (fun _ _ ⟨_, _, hcall, _⟩ hs => hs.step laws hcall) (fun _ _ _ _ => trivial) ?_
  intro w₁ (r : ℤ) w₂ hs hok
  have hrest : (rest r).Ensures (LeavesAlone host turns) (dllStep host turns) (fun _ => True) _
      (own ++ [⟨w₁, .cursorOpen p q, r, w₂⟩]) w₂ := ensures_of_makes laws (after r) (hs.step laws hok)
  by_cases isOpen : ∃ k : Fin maxCursors, r = k.val ∧ w₂.dll.openCursor k.val = some k
  · obtain ⟨k, rfl, isOpen⟩ := isOpen
    obtain ⟨res, x, hopened, hat⟩ := opened_at laws hok isOpen
    have hholds : Holds (own ++ [⟨w₁, .cursorOpen p q, (k.val : ℤ), w₂⟩]) k :=
      ⟨own, w₁, p, q, w₂, [], rfl, by simp⟩
    have hshows := shows _ k res x w₂ ⟨hholds, Later.refl _, hs.step laws hok, hat⟩
    refine (hshows.and hrest).mono (fun _ _ => trivial) ?_
    rintro lines own' w' ⟨hlines, -, new, rfl, hnew⟩ z hz x' hx'
    obtain rfl := hx'.eq_of_mem before hnew hz
    obtain ⟨k', res', hk, hopened'⟩ := hx'.opened
    obtain rfl : k = k' := Fin.ext (by omega)
    have hx : x' = x := by
      have hres := hopened'.recordSet.symm.trans hopened.recordSet
      cases hres
      exact Option.some_injective _ (hopened'.stored.symm.trans hopened.stored)
    rw [hx]
    exact hlines
  · refine hrest.mono (fun _ _ => trivial) ?_
    rintro lines own' w' ⟨-, new, rfl, hnew⟩ z hz x' hx'
    obtain rfl := hx'.eq_of_mem before hnew hz
    obtain ⟨k, res, hk, hopened⟩ := hx'.opened
    exact absurd ⟨k, hk, hopened.isOpen⟩ isOpen

omit laws in
/-- The end of a script with classes. -/
theorem ensures_closeDatabase (db : CMySQL) (lines : List Line) :
    (closeDatabase db lines).Ensures (LeavesAlone host turns) (dllStep host turns) (fun _ => True)
      (fun r _ _ => r = lines ++ doneLines) own w := by
  refine (Program.Ensures.of_forall fun _ _ _ => trivial).bind fun db own w (_ : True) => ?_
  exact (Program.Ensures.of_forall fun _ _ _ => trivial).bind fun _ _ _ (_ : True) => rfl

omit laws in
/-- The end of a script with procedures. -/
theorem ensures_closeConnection (db : ℤ) (lines : List Line) :
    (closeConnection db lines).Ensures (LeavesAlone host turns) (dllStep host turns) (fun _ => True)
      (fun r _ _ => r = lines ++ doneLines) own w :=
  (Program.Ensures.of_forall fun _ _ _ => trivial).bind fun _ _ _ (_ : True) => rfl

/-- `MySQL-004c`. -/
theorem ensures_onStart004c (counts : CountsRows host stored) (h : Shelved stored w) :
    (onStart004c mql).Ensures (LeavesAlone host turns) (dllStep host turns) (fun _ => True)
      (fun lines own _ => Shows mql stored lines own) [] w := by
  refine (ensures_of_makes laws (makes_openDatabase mql) h).bind fun ⟨head, db⟩ own₁ w₁ ⟨h₁, new, hown, hnew⟩ => ?_
  refine ensures_cursorOpen laws (by simpa [hown] using hnew) h₁ (fun r => ?_) fun own₀ k res x w' hsits => ?_
  · refine Program.Makes.bind (Program.makes_ite.mpr ⟨fun _ => by simp [Exported.OpensNone], fun _ => trivial⟩)
      fun ⟨opened, cursor⟩ => ?_
    have ends (lines : List Line) (cursor : CMySQLCursor) : Program.Makes Exported.OpensNone
        (do cursor.delete; closeDatabase db (head ++ [[.literal "SQL> ", .string selectRows]] ++ lines)) :=
      cursor.makes_delete.bind fun _ => makes_closeDatabase _ _
    refine Program.makes_ite.mpr ⟨fun _ => ?_, fun _ => ends _ _⟩
    exact (makes_showRows_object mql cursor).bind fun r => r.2.makes_close.bind fun _ => ends _ _
  · have hk : ¬ (k.val : ℤ) = -1 := by omega
    dsimp only [Program.bind]
    rw [if_neg hk]
    refine ((ensures_showRows (Reader.object_reads laws mql counts) rfl hsits).mono (fun _ _ => trivial)
      fun _ _ _ hshown => hshown).bind fun ⟨lines, cursor⟩ own₂ w₂ ⟨hlines, _⟩ => ?_
    refine (Program.Ensures.of_forall fun _ _ _ => trivial).bind fun cursor own₃ w₃ (_ : True) => ?_
    have ends : Program.Ensures (LeavesAlone host turns) (dllStep host turns) (fun _ => True)
        (fun r _ _ => ∃ head, r = head ++ (showLines mql x ++ doneLines))
        (do cursor.delete; closeDatabase db (head ++ [[.literal "SQL> ", .string selectRows]] ++ lines)) own₃ w₃ := by
      refine (Program.Ensures.of_forall fun _ _ _ => trivial).bind fun _ own₄ w₄ (_ : True) => ?_
      refine (ensures_closeDatabase _ _).mono (fun _ hfault => hfault) ?_
      rintro r - - rfl
      exact ⟨_, by rw [← hlines, List.append_assoc]⟩
    exact ends

/-- `MySQL-004`. -/
theorem ensures_onStart004 (counts : CountsRows host stored) (h : Shelved stored w) :
    (onStart004 mql).Ensures (LeavesAlone host turns) (dllStep host turns) (fun _ => True)
      (fun lines own _ => Shows mql stored lines own) [] w := by
  refine (ensures_of_makes laws (makes_openConnection mql _) h).bind
    fun ⟨head, db, globals⟩ own₁ w₁ ⟨h₁, new, hown, hnew⟩ => ?_
  have hbefore : ∀ y ∈ own₁, y.label.OpensNone := by simpa [hown] using hnew
  dsimp only
  split
  · intro z hz x' hx'
    exact absurd hx' (not_opensOn (hbefore z hz))
  refine ensures_cursorOpen laws hbefore h₁ (fun r => ?_) fun own₀ k res x w' hsits => ?_
  · refine Program.Makes.bind (Program.makes_ite.mpr ⟨fun _ => ?_, fun _ => trivial⟩) fun ⟨cursor, globals⟩ => ?_
    · exact (Globals.makes_readMySqlError db).bind fun _ => trivial
    · refine Program.makes_ite.mpr ⟨fun _ => ?_, fun _ => makes_closeConnection _ _⟩
      refine (makes_showRows_procedures mql cursor globals).bind fun r => ?_
      exact (Globals.makes_mySqlCursorClose cursor).bind fun _ => makes_closeConnection _ _
  · have hk : ¬ (k.val : ℤ) = -1 := by omega
    have hopen : 0 ≤ (k.val : ℤ) := by omega
    dsimp only [Program.bind]
    rw [if_neg hk]
    dsimp only [Program.pure_eq, Program.bind]
    rw [if_pos hopen]
    refine ((ensures_showRows (Reader.procedures_reads laws mql counts) trivial hsits).mono (fun _ _ => trivial)
      fun _ _ _ hshown => hshown).bind fun ⟨lines, globals⟩ own₂ w₂ ⟨hlines, _⟩ => ?_
    refine (Program.Ensures.of_forall fun _ _ _ => trivial).bind fun _ own₃ w₃ (_ : True) => ?_
    refine Program.Ensures.mono (ensures_closeConnection db (head ++ [[.literal "SQL> ", .string selectRows]] ++ lines))
      (fun _ hfault => hfault) ?_
    rintro r - - rfl
    exact ⟨_, by rw [← hlines, List.append_assoc]⟩

/-! ## The scripts among other programs -/

variable {T : Type*} [DecidableEq T] {C : Type} {programs : C → Script (List Line)} {library : σ}
  {s : Pool T (World σ) Exported.Reply fun _ : C => List Line}

/-- However the programs move on, every record set which is registered is stored. -/
theorem Shelved.of_run {tr : List (Moved T (World σ) Exported.Reply fun _ : C => List Line)}
    (h : Run (poolStep programs fun _ => dllStep host turns) ⟨attach library, fun _ => none⟩ tr s) :
    Shelved stored s.shared := by
  refine h.keeps (fun s => Shelved stored s.shared) ?_ (Shelved.attached library)
  rintro ⟨s, m, a, s'⟩ - hstep hs
  dsimp only at hstep hs ⊢
  cases poolStep_cases hstep with
  | entered idle => exact hs
  | made runs ok => exact hs.step laws ok
  | returned runs => exact hs

/-- Among programs which leave its cursor alone, `MySQL-004c` and `MySQL-004` end with the rows of the result on which
they opened the cursor, and these are all rows when their number is an `int`. -/
theorem scripts_show_rows (counts : CountsRows host stored) {t : T} {c : C} {lines : List Line}
    {tr since : List (Moved T (World σ) Exported.Reply fun _ : C => List Line)}
    {x y : Moved T (World σ) Exported.Reply fun _ : C => List Line}
    (script : programs c = onStart mql .mySQL004c ∨ programs c = onStart mql .mySQL004)
    (h : Run (poolStep programs fun _ => dllStep host turns) ⟨attach library, fun _ => none⟩
      (tr ++ x :: since ++ [y]) s)
    (enter : x.label = .enter t c) (stays : ∀ z ∈ since, ∀ d, z.label ≠ .enter t d)
    (alone : ∀ past z future u e r, since = past ++ z :: future → u ≠ t → z.label = .advance u → z.reply = .made e r →
      ∀ k, Holds (ownCalls t past) k → e ≠ .cursorClose k.val ∧ e ≠ .cursorFetchRow k.val)
    (label : y.label = .advance t) (reply : y.reply = .returned c lines) :
    Shows mql stored lines (ownCalls t since) ∧
      ∀ z ∈ ownCalls t since, ∀ x', OpensOn stored z x' → x'.rows.length < 2 ^ 31 →
        ∃ head, lines = head ++ (allLines mql x' ++ doneLines) := by
  obtain ⟨hpast, -, -⟩ := Run.split_at h
  obtain ⟨hbefore, -, hsince⟩ := hpast.split_at
  have hshelved : Shelved stored x.before.shared := Shelved.of_run laws hbefore
  have ensures : (programs c).Ensures (LeavesAlone host turns) (dllStep host turns) (fun _ => True)
      (fun lines own _ => Shows mql stored lines own) [] x.before.shared := by
    rcases script with hscript | hscript
    · rw [hscript]
      exact ensures_onStart004c laws counts hshelved
    · rw [hscript]
      exact ensures_onStart004 laws counts hshelved
  have limits : WithinLimits (LeavesAlone host turns) t since := by
    rintro past ⟨b, m, a, after⟩ future u e r heq hut hm ha
    dsimp only at hm ha
    subst hm ha
    rw [heq] at hsince
    obtain ⟨-, hz, -⟩ := hsince.split_at
    dsimp only at hz
    cases poolStep_cases hz with
    | made runs ok => exact ⟨e, r, ok, alone past _ future u e r heq hut rfl rfl⟩
  obtain ⟨-, hshows⟩ := Run.returns h enter ensures stays limits label reply
  refine ⟨hshows, fun z hz x' hopens few => ?_⟩
  rw [← showLines_eq mql x' few]
  exact hshows z hz x' hopens

/-- A step of two programs in which the first opens no slot but slot 0, and the second leaves that slot alone. -/
def KeepsApart (z : Moved Bool (World Shelf) Exported.Reply fun _ : Demo => List Line) : Bool :=
  match z.label, z.reply with
  | .enter t _, _ => !t
  | .advance true, .made (.cursorOpen _ _) r => decide (r = (0 : ℤ))
  | .advance false, .made e _ => decide (e ≠ .cursorClose 0 ∧ e ≠ .cursorFetchRow 0)
  | _, _ => true

omit laws in
/-- The first program holds slot 0 only. -/
theorem Holds.eq_zero {past : List (Moved Bool (World Shelf) Exported.Reply fun _ : Demo => List Line)}
    (h : Holds (ownCalls true past) k) (apart : ∀ z ∈ past, KeepsApart z = true) : (k.val : ℤ) = 0 := by
  obtain ⟨before, w₀, p, q, w₁, future, hown, -⟩ := h
  have hmem : (⟨w₀, .cursorOpen p q, (k.val : ℤ), w₁⟩ : Called Shelf) ∈ ownCalls true past := by simp [hown]
  obtain ⟨z, hz, hcall⟩ := List.mem_filterMap.mp hmem
  obtain ⟨hlabel, hreply⟩ := Moved.ownCall_eq_some hcall
  have hzero := apart z hz
  rw [KeepsApart, hlabel, hreply] at hzero
  exact of_decide_eq_true hzero

omit laws in
/-- While one program shows the rows of its cursor, another opens and closes four of its own. -/
theorem scripts_show_rows_sample :
    ∃ (tr since : List (Moved Bool (World Shelf) Exported.Reply fun _ : Demo => List Line))
      (x y : Moved Bool (World Shelf) Exported.Reply fun _ : Demo => List Line) (s : Charts Bool Shelf)
      (lines : List Line),
      Run (chartStep .sample shelfHost 8) ⟨attach Shelf.empty, fun _ => none⟩ (tr ++ x :: since ++ [y]) s ∧
        y.reply = .returned .mySQL004c lines ∧ lines.drop 4 = allLines .sample ⟨1, tableRows, 0⟩ ++ doneLines ∧
        Shows .sample Shelf.stored lines (ownCalls true since) := by
  have hcheck : passes (fun entered => passes (fun both => passes (fun returned =>
        match returned.1 with
        | .returned .mySQL004c lines =>
          decide (lines.drop 4 = allLines .sample ⟨1, tableRows, 0⟩ ++ doneLines) && both.1.all KeepsApart
        | _ => false)
      (chartStep (T := Bool) .sample shelfHost 8 (.advance true) both.2))
      (replay (chartStep (T := Bool) .sample shelfHost 8)
        (.enter false .mySQL005 :: (List.replicate 19 [.advance true, .advance false]).flatten ++
          List.replicate 15 (.advance true)) entered.2))
      (chartStep (T := Bool) .sample shelfHost 8 (.enter true .mySQL004c) ⟨attach Shelf.empty, fun _ => none⟩) =
        true := by
    decide +kernel
  obtain ⟨⟨a, s₁⟩, hentering, hcheck⟩ := exists_of_passes hcheck
  obtain ⟨since, s₂, hsince, hcheck⟩ := Run.of_passes hcheck
  obtain ⟨⟨b, s₃⟩, hreturning, hcheck⟩ := exists_of_passes hcheck
  dsimp only at hcheck
  split at hcheck
  · rename_i v lines
    simp only [Bool.and_eq_true, decide_eq_true_eq, List.all_eq_true] at hcheck
    obtain ⟨hlines, hapart⟩ := hcheck
    have hrun : Run (chartStep .sample shelfHost 8) ⟨attach Shelf.empty, fun _ => none⟩
        ([] ++ ⟨_, .enter true .mySQL004c, a, s₁⟩ :: since ++
          [⟨s₂, .advance true, .returned .mySQL004c lines, s₃⟩]) s₃ :=
      (Run.cons hentering hsince).append (.cons hreturning (.nil _))
    refine ⟨[], since, _, _, s₃, lines, hrun, rfl, hlines, ?_⟩
    refine (scripts_show_rows shelf_storesResults ?_ (.inl rfl) hrun rfl ?_ ?_ rfl rfl).1
    · intro s res x hx
      obtain ⟨-, rfl⟩ := Shelf.stored_eq_some.mp hx
      rfl
    · intro z hz d hd
      have hkeeps := hapart z hz
      rw [KeepsApart, hd] at hkeeps
      cases hkeeps
    · rintro past z future u e r rfl hu hlabel hreply k hk
      have hkeeps := hapart z (by simp)
      obtain rfl : u = false := by simpa using hu
      rw [KeepsApart, hlabel, hreply] at hkeeps
      rw [hk.eq_zero fun z hz => hapart z (by simp [hz])]
      exact of_decide_eq_true hkeeps
  · cases hcheck

end MqlMySql
