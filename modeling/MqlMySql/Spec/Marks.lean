import MqlMySql.Model.Terminal
import MqlMySql.Spec.Opening

/-!
# What the clients of a terminal did

Read off the record of a run: what each client's own last write left in the two DLL-wide numbers, who opened each
cursor slot last, and whether a row was fetched from it since.
-/

namespace MqlMySql

open Library

/-- The call writes the DLL-wide `MySqlErrorNumber`. -/
def SetsNumber (d : Dll) : Exported → Prop
  | .connect _ => True
  | .disconnect p => d.liveConnection p = none
  | .execute p q => p = -1 ∨ ¬QueryFits q
  | .cursorOpen p q => p = -1 ∨ ¬QueryFits q ∧ getNewCursorId d ≠ -1
  | .rowsAffected p => p = -1
  | _ => False

/-- The call writes the DLL-wide `CursorErrorNumber`. -/
def SetsCursorNumber (d : Dll) : Exported → Prop
  | .cursorOpen _ _ => True
  | .cursorClose p | .cursorRows p | .cursorFetchRow p | .getRowField p _ => d.openCursor p = none
  | _ => False

instance (d : Dll) : (e : Exported) → Decidable (SetsNumber d e)
  | .connect _ => isTrue trivial
  | .disconnect _ => inferInstanceAs (Decidable (_ = _))
  | .execute _ _ => inferInstanceAs (Decidable (_ ∨ _))
  | .cursorOpen _ _ => inferInstanceAs (Decidable (_ ∨ _))
  | .rowsAffected _ => inferInstanceAs (Decidable (_ = _))
  | .cursorClose _ | .cursorRows _ | .cursorFetchRow _ | .getRowField _ _ | .getMySqlErrorNumber _
  | .getMySqlErrorDescription _ | .getCursorErrorNumber _ | .getCursorErrorDescription _ => isFalse not_false

instance (d : Dll) : (e : Exported) → Decidable (SetsCursorNumber d e)
  | .cursorOpen _ _ => isTrue trivial
  | .cursorClose _ | .cursorRows _ | .cursorFetchRow _ | .getRowField _ _ => inferInstanceAs (Decidable (_ = _))
  | .connect _ | .disconnect _ | .execute _ _ | .rowsAffected _ | .getMySqlErrorNumber _
  | .getMySqlErrorDescription _ | .getCursorErrorNumber _ | .getCursorErrorDescription _ => isFalse not_false

/-- What happened so far. -/
structure Marks where
  number : Party → ℤ
  cursorNumber : Party → ℤ
  opener : Fin maxCursors → Option Party
  fetched : Fin maxCursors → Bool

/-- Nothing happened. -/
def Marks.start : Marks := ⟨fun _ => 0, fun _ => 0, fun _ => none, fun _ => false⟩

/-- Note one call of a client which turned the globals `d` into `d'`. -/
def Marks.note (marks : Marks) (x : Party) (e : Exported) (d d' : Dll) : Marks where
  number := if SetsNumber d e then Function.update marks.number x d'.mySqlErrorNumber else marks.number
  cursorNumber :=
    if SetsCursorNumber d e then Function.update marks.cursorNumber x d'.cursorErrorNumber
    else marks.cursorNumber
  opener k := if (d.cursors k).id = -1 ∧ (d'.cursors k).id ≠ -1 then some x else marks.opener k
  fetched k :=
    if (d.cursors k).id = -1 then false
    else if e = .cursorFetchRow k.val then true else marks.fetched k

variable {σ : Type}

/-- Note one step. -/
def Marks.after (marks : Marks) (x : Stepped σ) : Marks :=
  match (x.before.session x.label).nextCall with
  | some e => marks.note x.label e x.before.dll x.after.dll
  | none => marks

/-- The marks of a recorded run. -/
def marksOf (tr : List (Stepped σ)) : Marks := tr.foldl Marks.after Marks.start

theorem marksOf_snoc (tr : List (Stepped σ)) (x : Stepped σ) :
    marksOf (tr ++ [x]) = (marksOf tr).after x := by
  rw [marksOf, List.foldl_append]
  rfl

/-- A free slot is left for what the call may take. -/
def HasRoom (d : Dll) : Exported → Prop
  | .connect _ => getNewConnectionId d ≠ -1
  | .cursorOpen _ _ => getNewCursorId d ≠ -1
  | _ => True

/-- Where the call reads or tests the DLL-wide `MySqlErrorNumber`, it finds what the client left there. -/
def FindsOwnNumber (n : ℤ) (d : Dll) : Exported → Prop
  | .execute p q | .cursorOpen p q => p ≠ -1 → QueryFits q → (0 < d.mySqlErrorNumber ↔ 0 < n)
  | .getMySqlErrorNumber p => d.liveConnection p = none → d.mySqlErrorNumber = n
  | _ => True

/-- Where the call reads the DLL-wide `CursorErrorNumber`, it finds what the client left there. -/
def FindsOwnCursorNumber (n : ℤ) (d : Dll) : Exported → Prop
  | .getCursorErrorNumber p => d.openCursor p = none → d.cursorErrorNumber = n
  | _ => True

/-- What is read for a slot which was given back is `0`, so that the client forgets the slot; and no number of a
cursor of somebody else is read. -/
def ForgetsClosed (n : ℤ) (x : Party) (opener : Fin maxCursors → Option Party) (d : Dll) : Exported → Prop
  | .getCursorErrorNumber p =>
    (d.openCursor p = none → p ≠ -1 → n = 0) ∧ ∀ k ∈ d.openCursor p, opener k = some x
  | _ => True

/-- No cursor is open on a connection which is given back. -/
def LeavesNoCursor (d : Dll) : Exported → Prop
  | .disconnect p => ∀ k, (d.cursors k).id ≠ -1 → (d.cursors k).connection ≠ p
  | _ => True

/-- A field is read after a row was fetched. -/
def ReadsFetched (fetched : Fin maxCursors → Bool) (d : Dll) : Exported → Prop
  | .getRowField p _ => ∀ k ∈ d.openCursor p, fetched k = true
  | _ => True

/-- A call which may share the table of cursors with others. -/
structure SharesCursors (host : Host σ) (w : World σ) (marks : Marks) (x : Party) (e : Exported) : Prop where
  forgets : ForgetsClosed (marks.cursorNumber x) x marks.opener w.dll e
  decided : Decided host w e
  fetched : ReadsFetched marks.fetched w.dll e

/-- What the other client does somewhere in a run. -/
structure Rival where
  connects : Prop
  opens : Prop

/-- A call which the other client does not interfere with, in a world with a record of what happened. More is
asked of the call when the other client takes slots of the tables as well. -/
structure Proper (host : Host σ) (w : World σ) (marks : Marks) (rival : Rival) (x : Party) (e : Exported) :
    Prop where
  number : FindsOwnNumber (marks.number x) w.dll e
  cursorNumber : FindsOwnCursorNumber (marks.cursorNumber x) w.dll e
  cursors : rival.opens → SharesCursors host w marks x e
  idle : rival.connects → LeavesNoCursor w.dll e

section Decidable

variable (d : Dll) (n : ℤ) (x : Party) (opener : Fin maxCursors → Option Party) (fetched : Fin maxCursors → Bool)
  (marks : Marks) (host : Host σ) (w : World σ) (rival : Rival)

instance : (e : Exported) → Decidable (HasRoom d e)
  | .connect _ | .cursorOpen _ _ => inferInstanceAs (Decidable (_ ≠ _))
  | .disconnect _ | .execute _ _ | .cursorClose _ | .cursorRows _ | .cursorFetchRow _ => isTrue trivial
  | .getRowField _ _ | .rowsAffected _ | .getMySqlErrorNumber _ | .getMySqlErrorDescription _ => isTrue trivial
  | .getCursorErrorNumber _ | .getCursorErrorDescription _ => isTrue trivial

instance : (e : Exported) → Decidable (FindsOwnNumber n d e)
  | .execute p q | .cursorOpen p q =>
    inferInstanceAs (Decidable (p ≠ -1 → QueryFits q → (0 < d.mySqlErrorNumber ↔ 0 < n)))
  | .getMySqlErrorNumber p => inferInstanceAs (Decidable (d.liveConnection p = none → d.mySqlErrorNumber = n))
  | .connect _ | .disconnect _ | .cursorClose _ | .cursorRows _ | .cursorFetchRow _ => isTrue trivial
  | .getRowField _ _ | .rowsAffected _ | .getMySqlErrorDescription _ => isTrue trivial
  | .getCursorErrorNumber _ | .getCursorErrorDescription _ => isTrue trivial

instance : (e : Exported) → Decidable (FindsOwnCursorNumber n d e)
  | .getCursorErrorNumber p => inferInstanceAs (Decidable (d.openCursor p = none → d.cursorErrorNumber = n))
  | .connect _ | .disconnect _ | .execute _ _ | .cursorOpen _ _ | .cursorClose _ => isTrue trivial
  | .cursorRows _ | .cursorFetchRow _ | .getRowField _ _ | .rowsAffected _ => isTrue trivial
  | .getMySqlErrorNumber _ | .getMySqlErrorDescription _ | .getCursorErrorDescription _ => isTrue trivial

instance : (e : Exported) → Decidable (ForgetsClosed n x opener d e)
  | .getCursorErrorNumber p =>
    inferInstanceAs (Decidable ((d.openCursor p = none → p ≠ -1 → n = 0) ∧
      ∀ k ∈ d.openCursor p, opener k = some x))
  | .connect _ | .disconnect _ | .execute _ _ | .cursorOpen _ _ | .cursorClose _ => isTrue trivial
  | .cursorRows _ | .cursorFetchRow _ | .getRowField _ _ | .rowsAffected _ => isTrue trivial
  | .getMySqlErrorNumber _ | .getMySqlErrorDescription _ | .getCursorErrorDescription _ => isTrue trivial

instance : (e : Exported) → Decidable (LeavesNoCursor d e)
  | .disconnect p => inferInstanceAs (Decidable (∀ k, (d.cursors k).id ≠ -1 → (d.cursors k).connection ≠ p))
  | .connect _ | .execute _ _ | .cursorOpen _ _ | .cursorClose _ | .cursorRows _ => isTrue trivial
  | .cursorFetchRow _ | .getRowField _ _ | .rowsAffected _ | .getMySqlErrorNumber _ => isTrue trivial
  | .getMySqlErrorDescription _ | .getCursorErrorNumber _ | .getCursorErrorDescription _ => isTrue trivial

instance : (e : Exported) → Decidable (ReadsFetched fetched d e)
  | .getRowField p _ => inferInstanceAs (Decidable (∀ k ∈ d.openCursor p, fetched k = true))
  | .connect _ | .disconnect _ | .execute _ _ | .cursorOpen _ _ | .cursorClose _ => isTrue trivial
  | .cursorRows _ | .cursorFetchRow _ | .rowsAffected _ | .getMySqlErrorNumber _ => isTrue trivial
  | .getMySqlErrorDescription _ | .getCursorErrorNumber _ | .getCursorErrorDescription _ => isTrue trivial

instance (e : Exported) : Decidable (SharesCursors host w marks x e) :=
  decidable_of_iff (ForgetsClosed (marks.cursorNumber x) x marks.opener w.dll e ∧ Decided host w e ∧
      ReadsFetched marks.fetched w.dll e)
    ⟨fun h => ⟨h.1, h.2.1, h.2.2⟩, fun h => ⟨h.forgets, h.decided, h.fetched⟩⟩

instance [Decidable rival.opens] [Decidable rival.connects] (e : Exported) :
    Decidable (Proper host w marks rival x e) :=
  decidable_of_iff (FindsOwnNumber (marks.number x) w.dll e ∧
      FindsOwnCursorNumber (marks.cursorNumber x) w.dll e ∧ (rival.opens → SharesCursors host w marks x e) ∧
        (rival.connects → LeavesNoCursor w.dll e))
    ⟨fun h => ⟨h.1, h.2.1, h.2.2.1, h.2.2.2⟩, fun h => ⟨h.number, h.cursorNumber, h.cursors, h.idle⟩⟩

end Decidable

end MqlMySql
