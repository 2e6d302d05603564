import MqlMySql.Library.Ensures
import MqlMySql.Properties.RowOrder
import MqlMySql.Spec.Loans

/-!
# Reading a cursor while others go on

The scripts read a cursor with the methods of an object or with the procedures. Both make the call in question and then
ask for the error of the cursor, and in between other programs may make any calls, but not close the cursor or fetch
from it. What the calls return then is what the stored result has at that place.
-/

namespace MqlMySql

open Library

variable {σ : Type}

/-- `mysql_num_rows` counts the rows of a stored result. -/
def CountsRows (host : Host σ) (stored : σ → MysqlRes → Option StoredResult) : Prop :=
  ∀ s res x, stored s res = some x → host.mysqlNumRows (some res) s = x.rows.length

/-- What a script gets of a column: nothing, when there is no such column or the text is too long. -/
def StoredResult.shown (x : StoredResult) (row : StoredRow) (j : ℕ) : WStr :=
  if j < x.columns ∧ (multiByteToWideChar (row.text j)).length ≤ maxFieldValue then columnText (row.text j) else []

/-- A slot of which a program was told in an opening, and which it has not closed since. -/
def Holds (own : Own (World σ) Exported Exported.Reply) (k : Fin maxCursors) : Prop :=
  ∃ past w₀ p q w₁ future, own = past ++ ⟨w₀, .cursorOpen p q, (k.val : ℤ), w₁⟩ :: future ∧
    ∀ y ∈ future, y.label ≠ .cursorClose k.val

/-- Another program makes one call, and leaves the cursors alone which are held. -/
def LeavesAlone (host : Host σ) (turns : ℕ) (own : Own (World σ) Exported Exported.Reply) (w w' : World σ) : Prop :=
  ∃ e r, dllStep host turns e w = .ok (r, w') ∧
    ∀ k, Holds own k → e ≠ .cursorClose k.val ∧ e ≠ .cursorFetchRow k.val

/-- The own calls have gone on without opening or closing anything. -/
def Later (own own' : Own (World σ) Exported Exported.Reply) : Prop :=
  ∃ new, own' = own ++ new ∧ ∀ y ∈ new, Registry.Keeps y.label

variable {own own' : Own (World σ) Exported Exported.Reply} {k : Fin maxCursors}

/-- Between a list of calls and itself there is none. -/
theorem Later.refl (own : Own (World σ) Exported Exported.Reply) : Later own own := ⟨[], by simp, by simp⟩

/-- One more call which opens and closes nothing. -/
theorem Later.snoc (h : Later own own') {y : Called σ} (keeps : Registry.Keeps y.label) : Later own (own' ++ [y]) := by
  obtain ⟨new, rfl, hnew⟩ := h
  refine ⟨new ++ [y], by simp, fun z hz => ?_⟩
  rcases List.mem_append.mp hz with hz | hz
  · exact hnew z hz
  · obtain rfl := List.mem_singleton.mp hz
    exact keeps

/-- A call which opens and closes nothing keeps what a script holds. -/
theorem Holds.snoc (h : Holds own k) {y : Called σ} (keeps : Registry.Keeps y.label) : Holds (own ++ [y]) k := by
  obtain ⟨past, w₀, p, q, w₁, future, rfl, hfuture⟩ := h
  refine ⟨past, w₀, p, q, w₁, future ++ [y], by simp, fun z hz => ?_⟩
  rcases List.mem_append.mp hz with hz | hz
  · exact hfuture z hz
  · obtain rfl := List.mem_singleton.mp hz
    intro hclose
    rw [hclose] at keeps
    exact keeps

/-- A program holds the slot `k`, opened on the result `x`, from which it has fetched `i` times since `own₀`. -/
structure Sits (stored : σ → MysqlRes → Option StoredResult) (own₀ : Own (World σ) Exported Exported.Reply)
    (k : Fin maxCursors) (res : MysqlRes) (x : StoredResult) (i : ℕ) (own : Own (World σ) Exported Exported.Reply)
    (w : World σ) : Prop where
  holds : Holds own k
  later : Later own₀ own
  shelved : Shelved stored w
  place : At stored w k res x i

variable {host : Host σ} {turns : ℕ} {stored : σ → MysqlRes → Option StoredResult} {w w' : World σ} {res : MysqlRes}
  {x : StoredResult} {i : ℕ} {own₀ : Own (World σ) Exported Exported.Reply}

section Place

variable (laws : StoresResults host stored)

include laws

omit laws in
/-- The number of rows. -/
theorem At.rows (h : At stored w k res x i) (counts : CountsRows host stored) :
    ∃ w', (cMySqlCursorRows host k.val).run w = .ok (intOfUInt64 x.rows.length, w') := by
  obtain ⟨c, hc⟩ := h.registered
  obtain ⟨hid, -, hrecordSet⟩ := World.slot_of_registered hc
  have hopen : w.dll.openCursor k.val = some k := by rw [openCursor_val, if_neg hid]
  have hcount : host.mysqlNumRows (w.recordSet k) w.library = x.rows.length := by
    rw [hrecordSet, counts _ _ _ h.position]
  simp [cMySqlCursorRows, hopen, hcount]

/-- A column of the row which was fetched last, whether there is such a column or not. -/
theorem At.shown (h : At stored w k res x i) {row : StoredRow} (hi : 1 ≤ i) (hrow : x.rows[i - 1]? = some row) (j : ℕ) :
    ∃ w', (cMySqlGetRowField host k.val j).run w = .ok (x.shown row j, w') := by
  obtain ⟨c, hc⟩ := h.registered
  obtain ⟨hid, -, (hrecordSet : (w.dll.cursors k).recordSet = some res)⟩ := World.slot_of_registered hc
  have hopen : w.dll.openCursor k.val = some k := by rw [openCursor_val, if_neg hid]
  have hcolumns : host.mysqlNumFields (w.dll.cursors k).recordSet w.library = x.columns := by
    rw [hrecordSet, laws.num_fields _ _ _ h.position]
  by_cases hj : j < x.columns
  · have hcurrent : (w.dll.cursors k).currentRow = some row.address := by
      rw [h.row (by omega), hrow]
      rfl
    have htext : host.rowField row.address j w.library = row.text j :=
      laws.row_field _ _ _ h.position row (List.mem_of_getElem? hrow) j hj
    have hcolumnText : wideString (multiByteToWideChar (row.text j)) = columnText (row.text j) := by
      cases row.text j <;> rfl
    by_cases hfits : (multiByteToWideChar (row.text j)).length ≤ maxFieldValue
    · simp [cMySqlGetRowField, hopen, hcurrent, hcolumns, hj, htext, hfits, hcolumnText, StoredResult.shown]
    · simp [cMySqlGetRowField, hopen, hcurrent, hcolumns, hj, htext, hfits, StoredResult.shown]
  · simp [cMySqlGetRowField, hopen, hcolumns, hj, StoredResult.shown]

/-- The others change nothing of it. -/
theorem Sits.stable (h : Sits stored own₀ k res x i own w) (other : LeavesAlone host turns own w w') :
    Sits stored own₀ k res x i own w' := by
  obtain ⟨e, r, hcall, hheld⟩ := other
  obtain ⟨hclose, hfetch⟩ := hheld k h.holds
  have hplace := h.place.step laws h.shelved hcall hclose
  rw [if_neg hfetch] at hplace
  exact ⟨h.holds, h.later, h.shelved.step laws hcall, hplace⟩

/-- An own call which opens and closes nothing moves the cursor when it fetches from it. -/
theorem Sits.step (h : Sits stored own₀ k res x i own w) {e : Exported} {r : e.Reply}
    (hcall : dllStep host turns e w = .ok (r, w')) (keeps : Registry.Keeps e) :
    Sits stored own₀ k res x (if e = .cursorFetchRow k.val then i + 1 else i) (own ++ [⟨w, e, r, w'⟩]) w' := by
  have hclose : e ≠ .cursorClose k.val := by
    rintro rfl
    exact keeps
  exact ⟨h.holds.snoc keeps, h.later.snoc keeps, h.shelved.step laws hcall, h.place.step laws h.shelved hcall hclose⟩

/-- An own call which returns a known value wherever the cursor is at this place. -/
theorem Sits.call {α : Type} {e : Exported} {rest : e.Reply → Script α}
    {Post : α → Own (World σ) Exported Exported.Reply → World σ → Prop} (h : Sits stored own₀ k res x i own w)
    (Returns : e.Reply → Prop) (keeps : Registry.Keeps e)
    (returns : ∀ w, At stored w k res x i → ∃ r w', dllStep host turns e w = .ok (r, w') ∧ Returns r)
    (goes : ∀ r own' w', Returns r → Sits stored own₀ k res x (if e = .cursorFetchRow k.val then i + 1 else i) own' w' →
      (rest r).Ensures (LeavesAlone host turns) (dllStep host turns) (fun _ => False) Post own' w') :
    (Program.call e rest).Ensures (LeavesAlone host turns) (dllStep host turns) (fun _ => False) Post own w := by
  refine .call (Sits stored own₀ k res x i own) h (fun _ _ other hs => hs.stable laws other) ?_ ?_
  · intro w₁ fault hs herror
    obtain ⟨r, w', hok, -⟩ := returns w₁ hs.place
    rw [hok] at herror
    cases herror
  · intro w₁ r w₂ hs hok
    obtain ⟨r', w', hok', hr⟩ := returns w₁ hs.place
    rw [hok] at hok'
    cases hok'
    exact goes r _ w₂ hr (hs.step laws hok keeps)

end Place

/-! ## The two readers -/

section Readers

variable {α β : Type}

/-- What an operation of a reader ensures: from `A` it leads to `A'`, with a value. -/
def Reads (host : Host σ) (turns : ℕ) (I : β → Prop) (A A' : Own (World σ) Exported Exported.Reply → World σ → Prop)
    (value : α) (p : β → Script (α × β)) : Prop :=
  ∀ own w c, I c → A own w → (p c).Ensures (LeavesAlone host turns) (dllStep host turns) (fun _ => False)
    (fun r own' w' => A' own' w' ∧ r.1 = value ∧ I r.2) own w

/-- A reader of a cursor on the result `x`; `A i` says that `i` rows were fetched. -/
structure ReadsCursor (host : Host σ) (turns : ℕ) (mql : Mql) (I : β → Prop) (x : StoredResult)
    (A : ℕ → Own (World σ) Exported Exported.Reply → World σ → Prop) (reader : Reader β) : Prop where
  rows : Reads host turns I (A 0) (A 0) (intOfUInt64 x.rows.length) reader.rows
  fetch : ∀ i, Reads host turns I (A i) (A (i + 1)) (decide (i + 1 ≤ x.rows.length)) reader.fetch
  fieldAsInt : ∀ i row (j : ℕ), x.rows[i]? = some row → j < 2 ^ 32 →
    Reads host turns I (A (i + 1)) (A (i + 1)) (mql.asInt (x.shown row j)) fun c => reader.fieldAsInt c j
  fieldAsString : ∀ i row (j : ℕ), x.rows[i]? = some row → j < 2 ^ 32 →
    Reads host turns I (A (i + 1)) (A (i + 1)) (x.shown row j) fun c => reader.fieldAsString c j
  fieldAsDatetime : ∀ i row (j : ℕ), x.rows[i]? = some row → j < 2 ^ 32 →
    Reads host turns I (A (i + 1)) (A (i + 1)) (mql.asDatetime (x.shown row j)) fun c => reader.fieldAsDatetime c j

/-- A value which is computed from what was read. -/
theorem Reads.map {γ : Type} {I : β → Prop} {A A' : Own (World σ) Exported Exported.Reply → World σ → Prop} {value : α}
    {p : β → Script (α × β)} (h : Reads host turns I A A' value p) (f : α → γ) :
    Reads host turns I A A' (f value) fun c => do
      let (a, c) ← p c
      return (f a, c) := by
  intro own w c hc hA
  refine (h own w c hc hA).bind fun r own' w' ⟨hA', hvalue, hI⟩ => ?_
  exact ⟨hA', congrArg f hvalue, hI⟩

/-- Field numbers of the scripts are not changed by the conversion to `unsigned int`. -/
theorem unsignedOfInt_natCast {j : ℕ} (hj : j < 2 ^ 32) : unsignedOfInt j = j := by
  simp only [unsignedOfInt]
  omega

variable (laws : StoresResults host stored)

include laws

/-- Asking for the error of the cursor moves nothing. -/
theorem CMySQLCursor.reads_error {this : CMySQLCursor} (h : Sits stored own₀ k res x i own w) :
    this.readError.Ensures (LeavesAlone host turns) (dllStep host turns) (fun _ => False)
      (fun this' own' w' => Sits stored own₀ k res x i own' w' ∧ this'.cursorID = this.cursorID) own w := by
  refine h.call laws (fun _ => True) trivial (fun w _ => ⟨_, w, rfl, trivial⟩) fun number own₁ w₁ _ h₁ => ?_
  refine h₁.call laws (fun _ => True) trivial (fun w _ => ⟨_, w, rfl, trivial⟩) fun description own₂ w₂ _ h₂ => ?_
  exact ⟨h₂, rfl⟩

/-- Reading the error of a cursor keeps the cursor where it sits. -/
theorem Globals.reads_error (h : Sits stored own₀ k res x i own w) (p : ℤ) :
    (readCursorError p).Ensures (LeavesAlone host turns) (dllStep host turns) (fun _ => False)
      (fun _ own' w' => Sits stored own₀ k res x i own' w') own w := by
  refine h.call laws (fun _ => True) trivial (fun w _ => ⟨_, w, rfl, trivial⟩) fun number own₁ w₁ _ h₁ => ?_
  exact h₁.call laws (fun _ => True) trivial (fun w _ => ⟨_, w, rfl, trivial⟩) fun description own₂ w₂ _ h₂ => h₂

/-- A method of a cursor object which makes a call and asks for the error. -/
theorem CMySQLCursor.reads (this : CMySQLCursor) (h : Sits stored own₀ k res x i own w) (e : Exported) (value : e.Reply)
    (keeps : Registry.Keeps e)
    (returns : ∀ w, At stored w k res x i → ∃ w', dllStep host turns e w = .ok (value, w')) :
    (dll e >>= fun r => this.readError >>= fun this => pure (r, this)).Ensures (LeavesAlone host turns)
      (dllStep host turns) (fun _ => False)
      (fun r own' w' => Sits stored own₀ k res x (if e = .cursorFetchRow k.val then i + 1 else i) own' w' ∧
        r.1 = value ∧ r.2.cursorID = this.cursorID) own w := by
  refine h.call laws (fun r => r = value) keeps (fun w hw => ?_) fun r own₁ w₁ hr h₁ => ?_
  · obtain ⟨w', hok⟩ := returns w hw
    exact ⟨value, w', hok, rfl⟩
  · exact (reads_error laws h₁).bind fun this' own₂ w₂ ⟨h₂, hid⟩ => ⟨h₂, hr, hid⟩

/-- A procedure for a cursor which does the same. -/
theorem Globals.reads (h : Sits stored own₀ k res x i own w) (p : ℤ) (e : Exported) (value : e.Reply)
    (keeps : Registry.Keeps e)
    (returns : ∀ w, At stored w k res x i → ∃ w', dllStep host turns e w = .ok (value, w')) :
    (dll e >>= fun r => readCursorError p >>= fun globals => pure (r, globals)).Ensures (LeavesAlone host turns)
      (dllStep host turns) (fun _ => False)
      (fun r own' w' => Sits stored own₀ k res x (if e = .cursorFetchRow k.val then i + 1 else i) own' w' ∧
        r.1 = value ∧ True) own w := by
  refine h.call laws (fun r => r = value) keeps (fun w hw => ?_) fun r own₁ w₁ hr h₁ => ?_
  · obtain ⟨w', hok⟩ := returns w hw
    exact ⟨value, w', hok, rfl⟩
  · exact (reads_error laws h₁ p).bind fun globals own₂ w₂ h₂ => ⟨h₂, hr, trivial⟩

/-- The methods read the cursor of their object. -/
theorem Reader.object_reads (mql : Mql) (counts : CountsRows host stored) :
    ReadsCursor host turns mql (fun this : CMySQLCursor => this.cursorID = k.val) x (Sits stored own₀ k res x)
      (.object mql) := by
  have field (i : ℕ) (row : StoredRow) (j : ℕ) (hrow : x.rows[i]? = some row) (hj : j < 2 ^ 32) :
      Reads host turns (fun this : CMySQLCursor => this.cursorID = k.val) (Sits stored own₀ k res x (i + 1))
        (Sits stored own₀ k res x (i + 1)) (x.shown row j) fun this => this.fieldAsString j := by
    rintro own w ⟨id, connectID, number, description⟩ hid h
    obtain rfl : id = k.val := hid
    refine (CMySQLCursor.reads laws _ h (.getRowField k.val (unsignedOfInt j)) (x.shown row (unsignedOfInt j)) trivial
      fun w hw => hw.shown laws (by omega) hrow _).mono (fun _ hfault => hfault) fun r own' w' ⟨hs, hvalue, hid⟩ => ?_
    rw [unsignedOfInt_natCast hj] at hs hvalue
    exact ⟨by simpa using hs, hvalue, hid⟩
  constructor
  · rintro own w ⟨id, connectID, number, description⟩ hid h
    obtain rfl : id = k.val := hid
    refine (CMySQLCursor.reads laws _ h (.cursorRows k.val) (intOfUInt64 x.rows.length) trivial
      fun w hw => hw.rows counts).mono (fun _ hfault => hfault) fun r own' w' ⟨hs, hvalue, hid⟩ => ⟨?_, hvalue, hid⟩
    simpa using hs
  · rintro i own w ⟨id, connectID, number, description⟩ hid h
    obtain rfl : id = k.val := hid
    refine (CMySQLCursor.reads laws _ h (.cursorFetchRow k.val) (decide (i + 1 ≤ x.rows.length)) trivial
      fun w hw => hw.fetch laws).mono (fun _ hfault => hfault) fun r own' w' ⟨hs, hvalue, hid⟩ => ⟨?_, hvalue, hid⟩
    simpa using hs
  · intro i row j hrow hj
    exact (field i row j hrow hj).map mql.asInt
  · exact field
  · intro i row j hrow hj
    exact (field i row j hrow hj).map mql.asDatetime

/-- The procedures read the cursor of which they are given the id. -/
theorem Reader.procedures_reads (mql : Mql) (counts : CountsRows host stored) :
    ReadsCursor host turns mql (fun _ => True) x (Sits stored own₀ k res x) (.procedures mql k.val) := by
  have field (i : ℕ) (row : StoredRow) (j : ℕ) (hrow : x.rows[i]? = some row) (hj : j < 2 ^ 32) :
      Reads host turns (fun _ => True) (Sits stored own₀ k res x (i + 1)) (Sits stored own₀ k res x (i + 1))
        (x.shown row j) fun _ : Globals => Globals.mySqlGetRowField k.val j := by
    intro own w _ _ h
    refine (Globals.reads laws h k.val (.getRowField k.val (unsignedOfInt j)) (x.shown row (unsignedOfInt j)) trivial
      fun w hw => hw.shown laws (by omega) hrow _).mono (fun _ hfault => hfault) fun r own' w' ⟨hs, hvalue⟩ => ?_
    rw [unsignedOfInt_natCast hj] at hs hvalue
    exact ⟨by simpa using hs, hvalue⟩
  constructor
  · intro own w _ _ h
    refine (Globals.reads laws h k.val (.cursorRows k.val) (intOfUInt64 x.rows.length) trivial
      fun w hw => hw.rows counts).mono (fun _ hfault => hfault) fun r own' w' ⟨hs, hvalue⟩ => ⟨?_, hvalue⟩
    simpa using hs
  · intro i own w _ _ h
    refine (Globals.reads laws h k.val (.cursorFetchRow k.val) (decide (i + 1 ≤ x.rows.length)) trivial
      fun w hw => hw.fetch laws).mono (fun _ hfault => hfault) fun r own' w' ⟨hs, hvalue⟩ => ⟨?_, hvalue⟩
    simpa using hs
  · intro i row j hrow hj
    exact (field i row j hrow hj).map mql.asInt
  · exact field
  · intro i row j hrow hj
    exact (field i row j hrow hj).map mql.asDatetime

end Readers

end MqlMySql
