import MqlMySql.Spec.StoredRows

/-!
# A library with one table

A small library for the statements about rows: every query selects the same two rows, the second with `NULL`.
-/

namespace MqlMySql

/-- The results which were handed out, which of them were freed, and how far they were read. -/
structure Shelf where
  handed : ℕ
  freed : ℕ → Bool
  read : ℕ → ℕ

/-- The rows of the table. -/
def tableRows : List StoredRow := [⟨⟨0⟩, fun _ => some [65]⟩, ⟨⟨1⟩, fun _ => none⟩]

namespace Shelf

variable (s : Shelf)

/-- Nothing was handed out. -/
def empty : Shelf := ⟨0, fun _ => false, fun _ => 0⟩

/-- What is stored under an address. -/
def stored (res : MysqlRes) : Option StoredResult :=
  if res.address < s.handed ∧ s.freed res.address = false then
    some ⟨1, tableRows, s.read res.address⟩
  else none

/-- Hand out a copy of the table. -/
def store : Option MysqlRes × Shelf :=
  (some ⟨s.handed⟩, ⟨s.handed + 1, Function.update s.freed s.handed false,
    Function.update s.read s.handed 0⟩)

/-- Take a copy back. -/
def free (res : MysqlRes) : Shelf := { s with freed := Function.update s.freed res.address true }

/-- Read the next row of a copy. -/
def fetch (res : MysqlRes) : Option MysqlRow × Shelf :=
  (tableRows[s.read res.address]?.map (·.address), { s with
    read := Function.update s.read res.address (min (s.read res.address + 1) tableRows.length) })

variable {s} {res res' : MysqlRes} {x : StoredResult}

theorem stored_eq_some : s.stored res = some x ↔
    (res.address < s.handed ∧ s.freed res.address = false) ∧ ⟨1, tableRows, s.read res.address⟩ = x := by
  simp [stored]

end Shelf

/-- The library over `Shelf`. -/
def shelfHost : Host Shelf where
  mysqlInit s := (some ⟨0⟩, s)
  mysqlRealConnect m _ s := (some m, s)
  mysqlClose _ s := s
  mysqlRealQuery _ _ _ s := (0, s)
  mysqlErrno _ _ := 0
  mysqlError _ _ := ""
  mysqlUseResult _ s := (none, s)
  mysqlStoreResult _ s := s.store
  mysqlMoreResults _ _ := false
  mysqlNextResult _ s := (-1, s)
  mysqlAffectedRows _ _ := 0
  mysqlFreeResult res s := res.elim s s.free
  mysqlNumRows _ _ := 2
  mysqlNumFields _ _ := 1
  mysqlFetchRow res s := res.elim (none, s) s.fetch
  rowField row j _ := (tableRows.find? (·.address = row)).bind (·.text j)
  wcstombs text := text.map fun c => c.toUInt8

/-- The library over `Shelf` stores its results. -/
theorem shelf_storesResults : StoresResults shelfHost Shelf.stored where
  fetch_row s res x h := by
    obtain ⟨-, rfl⟩ := Shelf.stored_eq_some.mp h
    rfl
  fetch_next s res x h := by
    obtain ⟨hstored, rfl⟩ := Shelf.stored_eq_some.mp h
    apply Shelf.stored_eq_some.mpr
    simp [shelfHost, Shelf.fetch, StoredResult.next, hstored]
  fetch_other s res res' x hne h := by
    obtain ⟨hstored, rfl⟩ := Shelf.stored_eq_some.mp h
    cases res' with
    | none => exact h
    | some res' =>
      have haddress : res.address ≠ res'.address := by
        intro haddress
        exact hne (congrArg some (congrArg MysqlRes.mk haddress).symm)
      apply Shelf.stored_eq_some.mpr
      simp [shelfHost, Shelf.fetch, hstored, haddress]
  num_fields s res x h := by
    obtain ⟨-, rfl⟩ := Shelf.stored_eq_some.mp h
    rfl
  row_field s res x h row hrow j hj := by
    obtain ⟨-, rfl⟩ := Shelf.stored_eq_some.mp h
    simp only [tableRows, List.mem_cons, List.not_mem_nil, or_false] at hrow
    rcases hrow with rfl | rfl <;> rfl
  store_new s m res h := by
    obtain rfl := Option.some.inj h
    refine ⟨by simp [Shelf.stored], ⟨1, tableRows, 0⟩, ?_, rfl⟩
    simp [shelfHost, Shelf.store, Shelf.stored]
  store_keeps s m res x h := by
    obtain ⟨hstored, rfl⟩ := Shelf.stored_eq_some.mp h
    have haddress : res.address ≠ s.handed := Nat.ne_of_lt hstored.1
    apply Shelf.stored_eq_some.mpr
    simp [shelfHost, Shelf.store, hstored, haddress, Nat.lt_succ_of_lt hstored.1]
  free_other s res res' x hne h := by
    obtain ⟨hstored, rfl⟩ := Shelf.stored_eq_some.mp h
    cases res' with
    | none => exact h
    | some res' =>
      have haddress : res.address ≠ res'.address := by
        intro haddress
        exact hne (congrArg some (congrArg MysqlRes.mk haddress).symm)
      apply Shelf.stored_eq_some.mpr
      simp [shelfHost, Shelf.free, hstored, haddress]
  init_keeps s := Keeps.refl s
  connect_keeps s m request := Keeps.refl s
  close_keeps s m := Keeps.refl s
  query_keeps s m query n := Keeps.refl s
  use_keeps s m := Keeps.refl s
  next_keeps s m := Keeps.refl s

end MqlMySql
