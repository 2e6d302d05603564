import MqlMySql.Spec.Record
import MqlMySql.Model.Exported

/-!
# What opening a cursor amounts to

Apart from the number of the slot, the result of `cMySqlCursorOpen` is determined by whether a slot is
free, by the record set which the query gave, and by the error number of the handle after that.
-/

namespace MqlMySql

open Library

variable {σ : Type} {host : Host σ} {w w₁ w₂ : World σ}

/-- A call opens a cursor. -/
def OpensCursor (w w' : World σ) : Prop := ∃ k, ¬ w.registry.IsOpen k ∧ w'.registry.IsOpen k

/-- A call which registers nothing opens no cursor. -/
theorem not_opensCursor (h : w₁.registry = w.registry) : ¬ OpensCursor w w₁ := by
  rintro ⟨k, hshut, hopen⟩
  rw [h] at hopen
  exact hshut hopen

/-- Opening a cursor when no slot is free. -/
structure OpenRefusal (i : Fin maxConnections) (w : World σ) (r : ℤ) (w₁ : World σ) : Prop where
  reply : r = -1
  library : w₁.library = w.library
  number : (w₁.dll.connections i).mySqlErrorNumber = -3
  opens : ¬ OpensCursor w w₁

/-- Opening a cursor on a free slot, after the record set `rs` was stored in the world `w₂`. -/
structure OpenResult (host : Host σ) (i : Fin maxConnections) (rs : Option MysqlRes)
    (w w₂ : World σ) (r : ℤ) (w₁ : World σ) : Prop where
  reply : r = -1 ↔ rs = none ∧ 0 < host.mysqlErrno (w.handle i) w₂.library
  library : w₁.library = w₂.library
  number : (w₁.dll.connections i).mySqlErrorNumber =
    if rs = none then (host.mysqlErrno (w.handle i) w₂.library : ℤ)
    else (w₂.dll.connections i).mySqlErrorNumber
  opens : OpensCursor w w₁ ↔ rs ≠ none

/-- Every way of opening a cursor on a slot of the table is one of the two. -/
theorem OpenOutcome.result {i : Fin maxConnections} {q : WStr} {r : ℤ}
    (h : OpenOutcome host i.val q w r w₁) :
    getNewCursorId w.dll = -1 ∧ OpenRefusal i w r w₁ ∨
      ∃ (k : Fin maxCursors) (rs : Option MysqlRes) (w₂ : World σ), getNewCursorId w.dll = k.val ∧
        StoreOutcome host i q k w rs w₂ ∧ OpenResult host i rs w w₂ r w₁ := by
  have hstep := h.step host
  cases h with
  | noConnection hp => exact absurd hp (val_ne_neg_one i)
  | full j hp none_free =>
    obtain rfl : i = j := Fin.ext (by omega)
    have hregistry : _ = w.registry := hstep.open_cases.resolve_left ?_
    · exact Or.inl ⟨none_free, rfl, rfl, by simp, not_opensCursor hregistry⟩
    · rintro ⟨l, res, hl, -, -⟩
      exact val_ne_neg_one l hl.symm
  | opened j hp k free res store =>
    obtain rfl : i = j := Fin.ext (by omega)
    refine Or.inr ⟨k, some res, _, free, store, ?_, rfl, by simp, ?_⟩
    · simp [val_ne_neg_one]
    · refine iff_of_true ⟨k, ?_, ?_⟩ (by simp)
      · exact not_not.mpr (w.dll.registry_cursors_eq_none.mpr (getNewCursorId_free free))
      · intro hnone
        apply val_ne_neg_one k
        simpa using (Dll.registry_cursors_eq_none _).mp hnone
  | @refused j hp k free w₂ store positive =>
    obtain rfl : i = j := Fin.ext (by omega)
    refine Or.inr ⟨k, none, w₂, free, store, iff_of_true rfl ⟨rfl, positive⟩, ?_, ?_, ?_⟩
    · simp [World.blamed]
    · simp [World.blamed, store.handle host i]
    · refine iff_of_false (not_opensCursor ?_) (by simp)
      rcases hstep.open_cases with ⟨l, res, hl, -, -⟩ | hsame
      · exact absurd hl.symm (val_ne_neg_one l)
      · exact hsame
  | @undecided j hp k free w₂ store zero =>
    obtain rfl : i = j := Fin.ext (by omega)
    refine Or.inr ⟨k, none, w₂, free, store, ?_, rfl, ?_, ?_⟩
    · simp [val_ne_neg_one, zero]
    · simp [World.blamed, store.handle host i]
    · refine iff_of_false (not_opensCursor ?_) (by simp)
      exact store.blamed_registry host (getNewCursorId_free free)

/-- An open on a free slot either stores a record set or finds an error number. -/
def Decided (host : Host σ) (w : World σ) : Exported → Prop
  | .cursorOpen p q => ∀ i : Fin maxConnections, p = i.val → getNewCursorId w.dll ≠ -1 →
      QueryFits q ∧ w.dll.mySqlErrorNumber ≤ 0 ∧
        (host.mysqlStoreResult (w.handle i) (w.sent host i q).library).1 ≠ none ∨
      w.openErrno host i q ≠ 0
  | _ => True

instance (host : Host σ) (w : World σ) : (e : Exported) → Decidable (Decided host w e)
  | .cursorOpen p q => inferInstanceAs (Decidable (∀ i : Fin maxConnections, p = i.val →
      getNewCursorId w.dll ≠ -1 → QueryFits q ∧ w.dll.mySqlErrorNumber ≤ 0 ∧
        (host.mysqlStoreResult (w.handle i) (w.sent host i q).library).1 ≠ none ∨
      w.openErrno host i q ≠ 0))
  | .connect _ | .disconnect _ | .execute _ _ | .cursorClose _ | .cursorRows _ => isTrue trivial
  | .cursorFetchRow _ | .getRowField _ _ | .rowsAffected _ | .getMySqlErrorNumber _ => isTrue trivial
  | .getMySqlErrorDescription _ | .getCursorErrorNumber _ | .getCursorErrorDescription _ =>
    isTrue trivial

/-- A decided open registers nothing and returns `-1`, or registers the record set which its last
library call returned. -/
theorem OpenOutcome.of_decided {p r : ℤ} {q : WStr} (h : OpenOutcome host p q w r w₁)
    (decided : Decided host w (.cursorOpen p q)) :
    r = -1 ∧ w₁.registry = w.registry ∨
      ∃ (k : Fin maxCursors) (res : MysqlRes) (m : Option Mysql) (made : List LibraryCall),
        r = k.val ∧ w.registry.cursors k = none ∧ w₁.registry = w.registry.openCursor k p res ∧
          w₁.calls = .storeResult m (some res) :: made ∧ w.calls <:+ made := by
  have hstep := h.step host
  have hrefused : r = -1 → w₁.registry = w.registry := by
    intro hr
    rcases hstep.open_cases with ⟨l, res, hl, -, -⟩ | hsame
    · exact absurd (hl.symm.trans hr) (val_ne_neg_one l)
    · exact hsame
  cases h with
  | noConnection hp => exact Or.inl ⟨rfl, hrefused rfl⟩
  | full i hp none_free => exact Or.inl ⟨rfl, hrefused rfl⟩
  | refused i hp k free store positive => exact Or.inl ⟨rfl, hrefused rfl⟩
  | opened i hp k free res store =>
    have hfree := getNewCursorId_free free
    obtain ⟨made, hmade, hgrown⟩ := store.calls_stored
    refine Or.inr ⟨k, res, _, made, rfl, w.dll.registry_cursors_eq_none.mpr hfree, ?_, hmade, hgrown⟩
    rw [World.onDll_registry, Dll.registry_openCursor _ res store.recordSet, World.dll_registry,
      store.registry host hfree]
  | undecided i hp k free store zero =>
    rcases decided i hp (by rw [free]; exact val_ne_neg_one k) with ⟨fits, quiet, hsome⟩ | hne
    · exact absurd (store.of_none fits quiet) hsome
    · exact absurd (store.errno_of_none.symm.trans zero) hne

end MqlMySql
