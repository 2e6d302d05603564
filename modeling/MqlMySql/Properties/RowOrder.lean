import MqlMySql.Spec.Rows
import MqlMySql.Spec.Server
import MqlMySql.Spec.Shelf

/-!
# The rows of a cursor come in order

The fetches from an open cursor go through the rows of its stored result, one row each, whatever is called in
between; after each of them the fields are those of that row. Only closing the cursor ends this: no other call
frees its record set, moves it or writes its slot.
-/

namespace MqlMySql

open Library

variable {σ : Type}

/-- How often was fetched from the slot. -/
def fetches (k : Fin maxCursors) (past : List (Called σ)) : ℕ :=
  past.countP fun y => y.label = .cursorFetchRow k.val

/-- The slot of the first cursor. -/
def firstCursor : Fin maxCursors := ⟨0, by decide⟩

/-- The text of a column for the caller; `NULL` is the empty text. -/
def columnText : Option (List UInt8) → WStr
  | none => []
  | some bytes => wideString (multiByteToWideChar (some bytes))

variable (host : Host σ) (stored : σ → MysqlRes → Option StoredResult)

/-- The cursor was opened on the stored result. -/
structure OpenedOn (w : World σ) (k : Fin maxCursors) (res : MysqlRes) (x : StoredResult) : Prop where
  isOpen : w.dll.openCursor k.val = some k
  recordSet : w.recordSet k = some res
  stored : stored w.library res = some x
  unread : x.position = 0

/-- What the calls on a cursor return after `i` fetches since it was opened on the result `x`. -/
structure ReadsInOrder (w : World σ) (k : Fin maxCursors) (res : MysqlRes) (x : StoredResult) (i : ℕ) :
    Prop where
  fetch : ∃ w', (cMySqlCursorFetchRow host k.val).run w = .ok (decide (i + 1 ≤ x.rows.length), w')
  field : ∀ row, 1 ≤ i → x.rows[i - 1]? = some row → ∀ j < x.columns,
    ∃ text w', (cMySqlGetRowField host k.val j).run w = .ok (text, w') ∧
      ((multiByteToWideChar (row.text j)).length ≤ maxFieldValue → text = columnText (row.text j)) ∧
      stored w'.library res = stored w.library res

/-- The record sets of the open cursors are stored and different. -/
structure Shelved (w : World σ) : Prop where
  stored : ∀ k res, w.registry.results k = some res → stored w.library res ≠ none
  distinct : w.registry.results.Distinct

/-- The slot of a cursor after `i` fetches since it was opened on the result `x`. -/
structure At (w : World σ) (k : Fin maxCursors) (res : MysqlRes) (x : StoredResult) (i : ℕ) : Prop where
  registered : ∃ c : Fin maxConnections, w.registry.cursors k = some ((c.val : ℤ), some res)
  position : stored w.library res = some { x with position := min i x.rows.length }
  row : i ≠ 0 → (w.dll.cursors k).currentRow = x.rows[i - 1]?.map (·.address)

variable {host stored} {w w' : World σ} {k : Fin maxCursors} {res : MysqlRes} {x : StoredResult} {i : ℕ}
  {turns : ℕ}

/-- What a registered cursor has in its slot. -/
theorem World.slot_of_registered {c : ℤ} {rs : Option MysqlRes} (h : w.registry.cursors k = some (c, rs)) :
    (w.dll.cursors k).id ≠ -1 ∧ (w.dll.cursors k).connection = c ∧ w.recordSet k = rs := by
  have hid : (w.dll.cursors k).id ≠ -1 := by
    intro hid
    rw [World.registry, w.dll.registry_cursors_eq_none.mpr hid] at h
    cases h
  rw [World.cursor_of_registry hid, Option.some.injEq, Prod.mk.injEq] at h
  exact ⟨hid, h⟩

/-- A cursor which is at a row is open. -/
theorem At.isOpen (h : At stored w k res x i) : w.registry.IsOpen k := by
  obtain ⟨c, hc⟩ := h.registered
  rw [Registry.IsOpen, hc]
  exact Option.some_ne_none _

/-- The record set which a cursor at a row holds. -/
theorem At.results (h : At stored w k res x i) : w.registry.results k = some res := by
  obtain ⟨c, hc⟩ := h.registered
  rw [Registry.results, hc]
  rfl

variable (laws : StoresResults host stored)

include laws

/-- The next fetch gets the row after the last one, if there is one. -/
theorem At.fetched_row (h : At stored w k res x i) :
    (host.mysqlFetchRow (w.recordSet k) w.library).1 = x.rows[i]?.map (·.address) := by
  obtain ⟨c, hc⟩ := h.registered
  rw [(World.slot_of_registered hc).2.2, laws.fetch_row _ _ _ h.position]
  by_cases hi : i ≤ x.rows.length
  · rw [min_eq_left hi]
  · rw [min_eq_right (by omega), List.getElem?_eq_none (Nat.le_refl _), List.getElem?_eq_none (by omega)]

/-- The next fetch comes back and says whether there is a row. -/
theorem At.fetch (h : At stored w k res x i) :
    ∃ w', (cMySqlCursorFetchRow host k.val).run w = .ok (decide (i + 1 ≤ x.rows.length), w') := by
  obtain ⟨c, hc⟩ := h.registered
  obtain ⟨hid, howner, -⟩ := World.slot_of_registered hc
  have hopen : w.dll.openCursor k.val = some k := by rw [openCursor_val, if_neg hid]
  have hrow := h.fetched_row laws
  by_cases hi : i < x.rows.length
  · rw [List.getElem?_eq_getElem hi] at hrow
    have hmore : i + 1 ≤ x.rows.length := hi
    simp [cMySqlCursorFetchRow, hopen, hrow, hmore]
  · rw [List.getElem?_eq_none (by omega)] at hrow
    have hend : ¬ i + 1 ≤ x.rows.length := hi
    simp [cMySqlCursorFetchRow, hopen, hrow, howner, hend]

/-- A field of the row which was fetched last. -/
theorem At.field (h : At stored w k res x i) {row : StoredRow} (hi : 1 ≤ i)
    (hrow : x.rows[i - 1]? = some row) {j : ℕ} (hj : j < x.columns) :
    ∃ text w', (cMySqlGetRowField host k.val j).run w = .ok (text, w') ∧
      ((multiByteToWideChar (row.text j)).length ≤ maxFieldValue → text = columnText (row.text j)) ∧
      stored w'.library res = stored w.library res := by
  obtain ⟨c, hc⟩ := h.registered
  obtain ⟨hid, -, (hrecordSet : (w.dll.cursors k).recordSet = some res)⟩ := World.slot_of_registered hc
  have hopen : w.dll.openCursor k.val = some k := by rw [openCursor_val, if_neg hid]
  have hcurrent : (w.dll.cursors k).currentRow = some row.address := by
    rw [h.row (by omega), hrow]
    rfl
  have hcolumns : j < host.mysqlNumFields (w.dll.cursors k).recordSet w.library := by
    rw [hrecordSet, laws.num_fields _ _ _ h.position]
    exact hj
  have htext : host.rowField row.address j w.library = row.text j :=
    laws.row_field _ _ _ h.position row (List.mem_of_getElem? hrow) j hj
  have hcolumnText : wideString (multiByteToWideChar (row.text j)) = columnText (row.text j) := by
    cases row.text j <;> rfl
  have hreturns : ∃ text w', (cMySqlGetRowField host k.val j).run w = .ok (text, w') ∧
      ((multiByteToWideChar (row.text j)).length ≤ maxFieldValue → text = columnText (row.text j)) := by
    by_cases hfits : (multiByteToWideChar (row.text j)).length ≤ maxFieldValue
    · simp [cMySqlGetRowField, hopen, hcurrent, hcolumns, htext, hfits, hcolumnText]
    · simp [cMySqlGetRowField, hopen, hcurrent, hcolumns, htext, hfits]
  obtain ⟨text, w', hrun, heq⟩ := hreturns
  exact ⟨text, w', hrun, heq, by rw [(cMySqlGetRowField_outcome host hrun).library]⟩

/-- Only closing its cursor gives up a stored result. -/
theorem call_stored_ne_none {e : Exported} {r : e.Reply} (h : (call host turns e).run w = .ok (r, w'))
    (hres : stored w.library res ≠ none)
    (hclose : ∀ k, w.registry.results k = some res → e ≠ .cursorClose k.val) :
    stored w'.library res ≠ none := by
  obtain ⟨x, hx⟩ := Option.ne_none_iff_exists'.mp hres
  by_cases hfetch : ∃ k, w.registry.results k = some res ∧ e = .cursorFetchRow k.val
  · obtain ⟨k, hk, rfl⟩ := hfetch
    obtain ⟨⟨c, rs⟩, hc, hrs⟩ := Option.bind_eq_some_iff.mp hk
    obtain ⟨hid, -, hrecordSet⟩ := World.slot_of_registered hc
    have hlibrary := ((cMySqlCursorFetchRow_outcome host h).moves hid).1
    rw [hlibrary, hrecordSet.trans hrs, laws.fetch_next _ _ _ hx]
    exact Option.some_ne_none _
  · have hkept := call_keeps_stored laws h hx hclose fun k hk he => hfetch ⟨k, hk, he⟩
    rw [hkept]
    exact Option.some_ne_none _

omit laws in
/-- The result sets stay on the shelf, when the cursors hold the same ones and the library keeps those. -/
theorem Shelved.of_results (inv : Shelved stored w) (results : w'.registry.results = w.registry.results)
    (kept : ∀ k res, w.registry.results k = some res → stored w'.library res ≠ none) :
    Shelved stored w' where
  stored := by
    rw [results]
    exact kept
  distinct := by
    rw [results]
    exact inv.distinct

/-- Opening a cursor takes a record set which was not stored. -/
theorem OpenOutcome.shelved {p r : ℤ} {q : WStr} (h : OpenOutcome host p q w r w')
    (inv : Shelved stored w) : Shelved stored w' := by
  have hkept (k : Fin maxCursors) (res : MysqlRes) (hk : w.registry.results k = some res) :
      stored w'.library res ≠ none := by
    obtain ⟨x, hx⟩ := Option.ne_none_iff_exists'.mp (inv.stored k res hk)
    rw [h.keeps laws res x hx]
    exact Option.some_ne_none x
  rcases h.stores laws with ⟨k, c, res, -, hregistry, hnew, x, hx, -⟩ | hsame
  · have hresults : w'.registry.results = Function.update w.registry.results k (some res) := by
      rw [hregistry, Registry.results_openCursor]
    constructor
    · intro l res' hl
      rw [hresults] at hl
      by_cases hlk : l = k
      · rw [hlk, Function.update_self, Option.some.injEq] at hl
        rw [← hl, hx]
        exact Option.some_ne_none x
      · rw [Function.update_of_ne hlk] at hl
        exact hkept l res' hl
    · rw [hresults]
      apply inv.distinct.take k
      intro l hl
      exact inv.stored l res hl hnew
  · exact inv.of_results (congrArg Registry.results hsame) hkept

/-- Every call keeps the record sets of the open cursors stored and different. -/
theorem Shelved.step {e : Exported} {r : e.Reply} (inv : Shelved stored w)
    (h : (call host turns e).run w = .ok (r, w')) : Shelved stored w' := by
  by_cases hopen : ∃ p q, e = .cursorOpen p q
  · obtain ⟨p, q, rfl⟩ := hopen
    exact (cMySqlCursorOpen_outcome host h).shelved laws inv
  · have hne : ∀ p q, e ≠ .cursorOpen p q := by
      intro p q he
      exact hopen ⟨p, q, he⟩
    rcases (call_refines host h).results_cases hne with ⟨k, rfl, hresults⟩ | ⟨hresults, hshut⟩
    · constructor
      · intro l res hl
        have hlk : l ≠ k := by
          intro hlk
          rw [hresults, hlk, Function.update_self] at hl
          cases hl
        rw [hresults, Function.update_of_ne hlk] at hl
        apply call_stored_ne_none laws h (inv.stored l res hl)
        intro j hj hclose
        apply hlk
        rw [← inv.distinct j l res hj hl]
        exact Fin.ext (Int.ofNat_inj.mp (Exported.cursorClose.inj hclose)).symm
      · rw [hresults]
        exact inv.distinct.drop k
    · apply inv.of_results hresults
      intro l res hl
      apply call_stored_ne_none laws h (inv.stored l res hl)
      intro j hj hclose
      rw [hshut j hclose] at hj
      cases hj

/-- A call moves a cursor when it fetches from it, and not at all otherwise, unless it closes it. -/
theorem At.step {e : Exported} {r : e.Reply} (inv : Shelved stored w) (before : At stored w k res x i)
    (h : (call host turns e).run w = .ok (r, w')) (hclose : e ≠ .cursorClose k.val) :
    At stored w' k res x (if e = .cursorFetchRow k.val then i + 1 else i) := by
  obtain ⟨c, hc⟩ := before.registered
  have hregistered := ((call_refines host h).cursor_stays before.isOpen hclose).trans hc
  by_cases hfetch : e = .cursorFetchRow k.val
  · subst hfetch
    obtain ⟨hid, -, hrecordSet⟩ := World.slot_of_registered hc
    obtain ⟨hlibrary, hcurrent⟩ := (cMySqlCursorFetchRow_outcome host h).moves hid
    have hnext : StoredResult.next { x with position := min i x.rows.length } =
        { x with position := min (i + 1) x.rows.length } := by
      simp only [StoredResult.next, StoredResult.mk.injEq, true_and]
      omega
    rw [if_pos rfl]
    refine ⟨⟨c, hregistered⟩, ?_, ?_⟩
    · rw [hlibrary, hrecordSet, laws.fetch_next _ _ _ before.position, hnext]
    · intro _
      rw [hcurrent, before.fetched_row laws, Nat.add_sub_cancel]
  · have howner (l : Fin maxCursors) (hl : w.registry.results l = some res) : l = k :=
      inv.distinct l k res hl before.results
    rw [if_neg hfetch]
    refine ⟨⟨c, hregistered⟩, ?_, ?_⟩
    · apply call_keeps_stored laws h before.position
      · intro l hl
        rw [howner l hl]
        exact hclose
      · intro l hl
        rw [howner l hl]
        exact hfetch
    · intro hi
      rw [call_currentRow h hfetch]
      exact before.row hi

omit laws in
/-- No record set is open at process attach. -/
theorem Shelved.attached (library : σ) : Shelved stored (attach library) where
  stored k res hk := by simp [Registry.results, Registry.empty] at hk
  distinct k l res hk := by simp [Registry.results, Registry.empty] at hk

omit laws in
/-- Counting the fetches after one more call. -/
@[simp] theorem fetches_snoc (past : List (Called σ)) (y : Called σ) :
    fetches k (past ++ [y]) =
      if y.label = .cursorFetchRow k.val then fetches k past + 1 else fetches k past := by
  by_cases hy : y.label = .cursorFetchRow k.val
  · simp [fetches, hy]
  · simp [fetches, hy]

/-- An opening which opens the slot puts the cursor before the first row of a stored result. -/
theorem opened_at {p : ℤ} {q : WStr} (h : (call host turns (.cursorOpen p q)).run w = .ok ((k.val : ℤ), w'))
    (isOpen : w'.dll.openCursor k.val = some k) :
    ∃ res x, OpenedOn stored w' k res x ∧ At stored w' k res x 0 := by
  have hfree := (call_refines host h).open_free k rfl
  have hopen : w'.registry.cursors k ≠ none := by
    rw [openCursor_val] at isOpen
    intro hnone
    rw [if_pos (w'.dll.registry_cursors_eq_none.mp hnone)] at isOpen
    cases isOpen
  rcases (cMySqlCursorOpen_outcome host h).stores laws with ⟨l, c, res, -, hregistry, -, x, hx, hunread⟩ | hsame
  · have hcursors : w'.registry.cursors =
        Function.update w.registry.cursors l (some ((c.val : ℤ), some res)) := congrArg Registry.cursors hregistry
    have hlk : l = k := by
      by_contra hlk
      apply hopen
      rw [hcursors, Function.update_of_ne (Ne.symm hlk), hfree]
    subst hlk
    have hc : w'.registry.cursors l = some ((c.val : ℤ), some res) := by
      rw [hcursors, Function.update_self]
    have hstart : x = { x with position := min 0 x.rows.length } := by
      rw [Nat.zero_min, ← hunread]
    refine ⟨res, x, ⟨isOpen, (World.slot_of_registered hc).2.2, hx, hunread⟩, ⟨c, hc⟩, ?_, ?_⟩
    · rw [← hstart, hx]
    · intro hzero
      exact absurd rfl hzero
  · rw [hsame] at hopen
    exact absurd hfree hopen

/-- The fetches from an open cursor get the rows of its result in order, in every run in which it is not closed:
the next one after `i` returns true exactly when there are more than `i` rows, and the fields are those of the
row which was fetched last. -/
theorem rows_read_inOrder {library : σ} {past since : List (Called σ)} {w₀ w₁ : World σ} {p : ℤ} {q : WStr}
    (h : DllRun host turns library (past ++ ⟨w₀, .cursorOpen p q, (k.val : ℤ), w₁⟩ :: since) w)
    (isOpen : w₁.dll.openCursor k.val = some k) (unclosed : ∀ y ∈ since, y.label ≠ .cursorClose k.val) :
    ∃ res x, OpenedOn stored w₁ k res x ∧ ReadsInOrder host stored w k res x (fetches k since) := by
  obtain ⟨hpast, hopening, hsince⟩ := h.split_at
  have inv : Shelved stored w₀ := by
    apply hpast.keeps (Shelved stored) _ (Shelved.attached library)
    intro y _ hy inv
    exact inv.step laws hy
  obtain ⟨res, x, hopened, hstart⟩ := opened_at laws hopening isOpen
  have hkept : Shelved stored w ∧ At stored w k res x (fetches k since) := by
    revert unclosed
    apply hsince.reverse_induction
    · intro _
      exact ⟨inv.step laws hopening, hstart⟩
    · intro tr y _ ih hy unclosed
      obtain ⟨hshelved, hat⟩ := ih fun z hz => unclosed z (List.mem_append_left _ hz)
      rw [fetches_snoc]
      exact ⟨hshelved.step laws hy, hat.step laws hshelved hy (unclosed y (by simp))⟩
  refine ⟨res, x, hopened, ?_⟩
  constructor
  · exact hkept.2.fetch laws
  · intro row hi hrow j hj
    exact hkept.2.field laws hi hrow hj

omit laws in
/-- A cursor on two rows, after the first of them. -/
theorem rows_read_inOrder_sample :
    ∃ (past since : List (Called Shelf)) (w₀ w₁ w : World Shelf),
      DllRun shelfHost 8 Shelf.empty
        (past ++ ⟨w₀, .cursorOpen 0 [83], (firstCursor.val : ℤ), w₁⟩ :: since) w ∧
      fetches firstCursor since = 1 ∧ ∃ res x, OpenedOn Shelf.stored w₁ firstCursor res x ∧
        ReadsInOrder shelfHost Shelf.stored w firstCursor res x 1 := by
  have hcheck : passes (fun before => passes (fun opened => passes (fun after =>
        decide (opened.1 = 0 ∧ opened.2.dll.openCursor 0 = some firstCursor ∧
          (∀ y ∈ after.1, y.label ≠ .cursorClose firstCursor.val) ∧ fetches firstCursor after.1 = 1))
      (replay (dllStep shelfHost 8) [.cursorFetchRow 0, .getRowField 0 0] opened.2))
      (dllStep shelfHost 8 (.cursorOpen 0 [83]) before.2))
      (replay (dllStep shelfHost 8) [.connect .sample] (attach Shelf.empty)) = true := by
    decide +kernel
  obtain ⟨past, w₀, hpast, hcheck⟩ := Run.of_passes hcheck
  obtain ⟨⟨r, w₁⟩, hopening, hcheck⟩ := exists_of_passes hcheck
  obtain ⟨since, w, hsince, hcheck⟩ := Run.of_passes hcheck
  obtain ⟨hr, isOpen, unclosed, hfetches⟩ := of_decide_eq_true hcheck
  dsimp only at hr isOpen
  subst hr
  have hrun := hpast.append (Run.cons hopening hsince)
  have hrows := rows_read_inOrder (k := firstCursor) shelf_storesResults hrun isOpen unclosed
  rw [hfetches] at hrows
  exact ⟨past, since, w₀, w₁, w, hrun, hfetches, hrows⟩

end MqlMySql
