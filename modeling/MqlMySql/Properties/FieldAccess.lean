import MqlMySql.Model.Exported
import MqlMySql.Spec.Rows
import MqlMySql.Properties.CursorNumbers

/-!
# Which row a field is read from

A field should only be read from the row which was last fetched from the cursor. The pointer to the current
row is written by fetching alone: opening a cursor leaves the one of the slot's former user, and fetching past
the last row leaves a null pointer. `cMySqlGetRowField` follows it without a check, so it is safe exactly on
cursors whose latest fetch gave a row.
-/

namespace MqlMySql

open Library

variable {σ : Type}

/-- The row which a fetch got, by what it returned and the record of the library calls after it. -/
def gotRow : Bool → List LibraryCall → Option MysqlRow
  | true, .fetchRow _ answer :: _ => answer
  | _, _ => none

/-- The row to read from, after one more call: the latest fetch from the slot decides, until the slot is
handed out again. -/
def rowAfter (k : Fin maxCursors) (row : Option MysqlRow) : Called σ → Option MysqlRow
  | ⟨_, .cursorOpen _ _, (r : ℤ), _⟩ => if r = k.val then none else row
  | ⟨_, .cursorFetchRow p, (b : Bool), after⟩ => if p = k.val then gotRow b after.calls else row
  | _ => row

/-- The row which the latest `cMySqlCursorFetchRow` on the slot got since the `cMySqlCursorOpen` that
handed the slot out, if it returned true. -/
def fetchedRow (past : List (Called σ)) (k : Fin maxCursors) : Option MysqlRow :=
  past.foldl (rowAfter k) none

@[simp] theorem fetchedRow_snoc (past : List (Called σ)) (x : Called σ) (k : Fin maxCursors) :
    fetchedRow (past ++ [x]) k = rowAfter k (fetchedRow past k) x := by
  simp [fetchedRow]

/-- A fetched row is the current row of its slot. -/
def RowsCurrent (past : List (Called σ)) (w : World σ) : Prop :=
  ∀ k row, fetchedRow past k = some row → (w.dll.cursors k).currentRow = some row

variable (host : Host σ)

/-- The library calls made between two worlds read no row but the given ones. -/
def ReadsOnly (allowed : MysqlRow → Prop) (w w' : World σ) : Prop :=
  ∀ made row column, w'.calls = made ++ w.calls → LibraryCall.rowField row column ∈ made → allowed row

/-- A field read either reads the row fetched last, in a column which exists, or reads no row at all, returns
the empty text and leaves an error number. -/
def AccessesFetchedRow (past : List (Called σ)) (w : World σ) (p j : ℤ) : Prop :=
  ∃ text w', (cMySqlGetRowField host p (unsignedOfInt j)).run w = .ok (text, w') ∧
    ((∃ k row, w.dll.openCursor p = some k ∧ fetchedRow past k = some row ∧
        0 ≤ j ∧ j < host.mysqlNumFields (w.recordSet k) w.library ∧ ReadsOnly (· = row) w w') ∨
      text = [] ∧ cGetCursorErrorNumber p w'.dll ≠ 0 ∧ ReadsOnly (fun _ => False) w w')

/-- When the id is open and the column number, as the DLL sees it, is below the number of columns, then the
latest fetch gave a row and the number is not negative. -/
def FieldReady (past : List (Called σ)) (w : World σ) (p j : ℤ) : Prop :=
  ∀ k, w.dll.openCursor p = some k →
    unsignedOfInt j < host.mysqlNumFields (w.recordSet k) w.library →
      fetchedRow past k ≠ none ∧ 0 ≤ j ∧ j < host.mysqlNumFields (w.recordSet k) w.library

variable {host} {turns : ℕ}

/-- The row which a fetch got is the current row of its slot. -/
theorem FetchOutcome.gotRow {k : Fin maxCursors} {b : Bool} {row : MysqlRow} {w w' : World σ}
    (h : FetchOutcome host k.val w b w') (hrow : MqlMySql.gotRow b w'.calls = some row) :
    (w'.dll.cursors k).currentRow = some row := by
  cases h with
  | wrong => cases hrow
  | ended => cases hrow
  | fetched l hl isOpen hsome =>
    obtain rfl : k = l := Fin.ext (by omega)
    rw [World.fetched_calls] at hrow
    exact (congrArg Reading.currentRow World.fetched_reading).trans hrow

/-- Every call keeps the fetched rows current. -/
theorem RowsCurrent.step {past : List (Called σ)} {x : Called σ} (inv : RowsCurrent past x.before)
    (h : dllStep host turns x.label x.before = .ok (x.reply, x.after)) :
    RowsCurrent (past ++ [x]) x.after := by
  obtain ⟨w, e, r, w'⟩ := x
  intro k row hrow
  rw [fetchedRow_snoc] at hrow
  have hother : e ≠ .cursorFetchRow k.val → fetchedRow past k = some row →
      (w'.dll.cursors k).currentRow = some row := by
    intro he hpast
    rw [call_currentRow h he]
    exact inv k row hpast
  cases e with
  | cursorOpen p q =>
    rw [rowAfter] at hrow
    split at hrow
    · cases hrow
    · exact hother (by simp) hrow
  | cursorFetchRow p =>
    rw [rowAfter] at hrow
    split at hrow
    · rename_i hp
      subst hp
      exact (cMySqlCursorFetchRow_outcome host h).gotRow hrow
    · rename_i hp
      exact hother (by simpa using hp) hrow
  | _ => exact hother (by simp) hrow

/-- Nothing was fetched at process attach. -/
theorem RowsCurrent.attached (library : σ) : RowsCurrent [] (attach library) := by
  intro k row hrow
  cases hrow

variable (host) in
/-- A field read comes back when the row it reads exists. -/
theorem getRowField_returns {p : ℤ} {f : ℕ} {w : World σ}
    (h : ∀ k, w.dll.openCursor p = some k → f < host.mysqlNumFields (w.recordSet k) w.library →
      (w.dll.cursors k).currentRow ≠ none) :
    ∃ text w', (cMySqlGetRowField host p f).run w = .ok (text, w') := by
  cases hopen : w.dll.openCursor p with
  | none => simp [cMySqlGetRowField, hopen]
  | some k =>
    obtain ⟨rfl, hid⟩ := openCursor_eq_some_iff.mp hopen
    rw [run_getRowField_open host hopen]
    split
    · rename_i hfield
      obtain ⟨row, hrow⟩ := Option.ne_none_iff_exists'.mp (h k hopen hfield)
      simp only [hrow]
      split
      · exact ⟨_, _, rfl⟩
      · exact ⟨_, _, rfl⟩
    · exact ⟨_, _, rfl⟩

/-- A field read either stops at one of its checks, or reads a column of the current row. -/
theorem FieldOutcome.row_cases {w w' : World σ} {p : ℤ} {f : ℕ} {text : WStr}
    (h : FieldOutcome host p f w text w') :
    (text = [] ∧ cGetCursorErrorNumber p w'.dll ≠ 0 ∧ ReadsOnly (fun _ => False) w w' ∧
        ∀ k, w.dll.openCursor p = some k → host.mysqlNumFields (w.recordSet k) w.library ≤ f) ∨
      ∃ k row, w.dll.openCursor p = some k ∧ f < host.mysqlNumFields (w.recordSet k) w.library ∧
        (w.dll.cursors k).currentRow = some row ∧
          w'.calls = [.rowField row f, .numFields (w.recordSet k)] ++ w.calls := by
  have htruth := h.tellsTruth
  have hopen : ∀ k : Fin maxCursors, (w.dll.cursors k).id ≠ -1 → w.dll.openCursor k.val = some k := by
    intro k hid
    rw [openCursor_val, if_neg hid]
  cases h with
  | wrong shut =>
    refine Or.inl ⟨rfl, ?_, ?_, ?_⟩
    · simp [CursorTellsTruth, World.cursorNumber, shut] at htruth
      simp [htruth]
    · intro made row column hmade hmem
      obtain rfl := List.self_eq_append_left.mp hmade
      cases hmem
    · intro k hk
      rw [shut] at hk
      cases hk
  | noField k hp isOpen outside =>
    subst hp
    refine Or.inl ⟨rfl, ?_, ?_, ?_⟩
    · simp [CursorTellsTruth, World.cursorNumber, hopen k isOpen, World.fieldNumber, outside] at htruth
      simp [htruth]
    · intro made row column hmade hmem
      simp only [World.onDll_calls, World.measured, World.inspected_calls] at hmade
      rw [← List.append_cancel_right (List.singleton_append.trans hmade)] at hmem
      simp at hmem
    · intro l hl
      rw [hopen k isOpen, Option.some.injEq] at hl
      rwa [← hl]
  | read k hp isOpen inside row current fits =>
    subst hp
    exact Or.inr ⟨k, row, hopen k isOpen, inside, current, by simp [World.measured]⟩
  | tooBig k hp isOpen inside row current long =>
    subst hp
    exact Or.inr ⟨k, row, hopen k isOpen, inside, current, by simp [World.measured]⟩

/-- A field read is safe in a run from process attach exactly when the cursor is ready for it. -/
theorem fieldAccess_safe_iff {library : σ} {tr : List (Called σ)} {w : World σ}
    (h : DllRun host turns library tr w) (p j : ℤ) :
    AccessesFetchedRow host tr w p j ↔ FieldReady host tr w p j := by
  have inv : RowsCurrent tr w := by
    apply Run.reverse_induction (RowsCurrent.attached library) _ h
    intro past x _ inv hx
    exact inv.step hx
  constructor
  · rintro ⟨text, w', hrun, hread⟩ k hopen hfield
    rcases hread with ⟨l, row, hl, hrow, hj, hcolumn, -⟩ | ⟨-, -, hnone⟩
    · obtain rfl : k = l := by rw [hopen, Option.some.injEq] at hl; exact hl
      exact ⟨by simp [hrow], hj, hcolumn⟩
    · rcases (cMySqlGetRowField_outcome host hrun).row_cases with ⟨-, -, -, hout⟩ | ⟨l, row, -, -, -, hcalls⟩
      · exact absurd hfield (not_lt.mpr (hout k hopen))
      · exact (hnone _ row (unsignedOfInt j) hcalls (by simp)).elim
  · intro ready
    obtain ⟨text, w', hrun⟩ := getRowField_returns host (w := w) (p := p)
      (f := unsignedOfInt j) fun k hopen hfield => by
        obtain ⟨row, hrow⟩ := Option.ne_none_iff_exists'.mp (ready k hopen hfield).1
        rw [inv k row hrow]
        exact Option.some_ne_none row
    refine ⟨text, w', hrun, ?_⟩
    rcases (cMySqlGetRowField_outcome host hrun).row_cases with
      ⟨htext, hnumber, hnone, -⟩ | ⟨k, row, hopen, hfield, hcurrent, hcalls⟩
    · exact Or.inr ⟨htext, hnumber, hnone⟩
    · obtain ⟨hfetched, hj, hcolumn⟩ := ready k hopen hfield
      obtain ⟨row', hrow⟩ := Option.ne_none_iff_exists'.mp hfetched
      obtain rfl : row' = row := by
        rw [inv k row' hrow, Option.some.injEq] at hcurrent
        exact hcurrent
      refine Or.inl ⟨k, row', hopen, hrow, hj, hcolumn, ?_⟩
      intro made row column hmade hmem
      rw [hcalls] at hmade
      rw [← List.append_cancel_right hmade] at hmem
      simp at hmem
      exact hmem.1

/-- The scripted library with a row to fetch. -/
def fetchingHost : Host Server :=
  { scriptedHost with
    mysqlFetchRow := fun _ s => (some ⟨0⟩, s)
    rowField := fun _ _ _ => some [65] }

/-- After fetching a row, reading its column. -/
theorem fieldAccess_safe_sample :
    ∃ (tr : List (Called Server)) (w : World Server),
      DllRun fetchingHost 8 (Server.fresh [.ofResultSet]) tr w ∧
        w.dll.openCursor 0 ≠ none ∧ (cMySqlGetRowField fetchingHost 0 0).run w ≠ .error .nullRow ∧
          (AccessesFetchedRow fetchingHost tr w 0 0 ↔ FieldReady fetchingHost tr w 0 0) := by
  have hcheck : passes (fun run => decide (run.2.dll.openCursor 0 ≠ none) &&
        passes (fun reply => decide (reply.1 = [65])) ((cMySqlGetRowField fetchingHost 0 0).run run.2))
      (replay (dllStep fetchingHost 8) [.connect .sample, .cursorOpen 0 [83], .cursorFetchRow 0]
        (attach (Server.fresh [.ofResultSet]))) = true := by
    decide +kernel
  obtain ⟨tr, w, hrun, hcheck⟩ := Run.of_passes hcheck
  obtain ⟨hopen, hcheck⟩ := Bool.and_eq_true_iff.mp hcheck
  obtain ⟨reply, hread, -⟩ := exists_of_passes hcheck
  refine ⟨tr, w, hrun, of_decide_eq_true hopen, ?_, fieldAccess_safe_iff hrun 0 0⟩
  rw [hread]
  rintro ⟨⟩

/-- Reading a field of a cursor from which no row was fetched follows a null pointer. -/
theorem fieldAccess_without_fetch :
    ∃ (tr : List (Called Server)) (w : World Server),
      DllRun scriptedHost 8 (Server.fresh [.ofResultSet]) tr w ∧
        (cMySqlGetRowField scriptedHost 0 0).run w = .error .nullRow ∧
          ¬ AccessesFetchedRow scriptedHost tr w 0 0 := by
  have hcheck : passes (fun run =>
        match (cMySqlGetRowField scriptedHost 0 0).run run.2 with
        | .error .nullRow => true
        | _ => false)
      (replay (dllStep scriptedHost 8) [.connect .sample, .cursorOpen 0 [83]]
        (attach (Server.fresh [.ofResultSet]))) = true := by
    decide +kernel
  obtain ⟨tr, w, hrun, hcheck⟩ := Run.of_passes hcheck
  have hnull : (cMySqlGetRowField scriptedHost 0 0).run w = .error .nullRow := by
    dsimp only at hcheck
    split at hcheck
    · assumption
    · cases hcheck
  refine ⟨tr, w, hrun, hnull, ?_⟩
  rintro ⟨text, w', hok, -⟩
  rw [show unsignedOfInt 0 = 0 from rfl, hnull] at hok
  cases hok

end MqlMySql
