import MqlMySql.Library.Alongside
import MqlMySql.Spec.Counterparts

/-!
# The same call in two worlds

A client makes the same calls in both worlds, with the numbers of paired slots. `Twin` lists the pairs of calls
with what they do to the pairing; a call which returns in the first world has a twin which returns in the second,
and the client goes on seeing the same.
-/

namespace MqlMySql

open Library

/-- Connecting gives no connection in both worlds, or a new one in both. -/
def GivesConnection (S : Pairs) (r r' : ℤ) (S' : Pairs) : Prop :=
  r = -1 ∧ r' = -1 ∧ S' = S ∨
    ∃ i i', r = i.val ∧ r' = i'.val ∧ S.connections i = none ∧ S' = S.addConnection i i'

/-- Opening gives no cursor in both worlds, or one in both, which is new unless nobody else opens cursors. -/
def GivesCursor (S : Pairs) (i : Fin maxConnections) (r r' : ℤ) (S' : Pairs) : Prop :=
  r = -1 ∧ r' = -1 ∧ S' = S.withNumber i ∨
    ∃ k k', r = k.val ∧ r' = k'.val ∧ (S.cursors k = none ∨ ¬S.rival.opens ∧ S.cursors k = some k') ∧
      S' = (S.withNumber i).addCursor k k'

/-- After closing the slots are no longer paired, unless nobody else opens cursors. -/
def GivesCursorBack (S : Pairs) (k k' : Fin maxCursors) (S' : Pairs) : Prop :=
  S.rival.opens ∧ (∀ l, S'.cursors l ≠ some k') ∧ S' = S.dropCursor k ∨
    ¬S.rival.opens ∧ S' = S.withCursorNumber k

/-- The calls which are the same in both worlds, with the relation between the pairing before, the replies and
the pairing after. -/
inductive Twin (S : Pairs) : (e e' : Exported) → (e.Reply → e'.Reply → Pairs → Prop) → Prop
  | connect (c : Credentials) : Twin S (.connect c) (.connect c) (GivesConnection S)
  | disconnect {i i' : Fin maxConnections} (h : S.connections i = some i') :
      Twin S (.disconnect i.val) (.disconnect i'.val) fun _ _ S' => S' = S.dropConnection i
  | execute {i i' : Fin maxConnections} (h : S.connections i = some i') (q : WStr) :
      Twin S (.execute i.val q) (.execute i'.val q) fun r r' S' => r = r' ∧ S' = S.withNumber i
  | rowsAffected {p p' : ℤ} (h : PairedId S.connections p p') :
      Twin S (.rowsAffected p) (.rowsAffected p') fun r r' S' => r = r' ∧ S' = S
  | openNowhere (q : WStr) :
      Twin S (.cursorOpen (-1) q) (.cursorOpen (-1) q) fun r r' S' => r = -1 ∧ r' = -1 ∧ S' = S
  | cursorOpen {i i' : Fin maxConnections} (h : S.connections i = some i') (q : WStr) :
      Twin S (.cursorOpen i.val q) (.cursorOpen i'.val q) (GivesCursor S i)
  | closeNothing : Twin S (.cursorClose (-1)) (.cursorClose (-1)) fun _ _ S' => S' = S
  | cursorClose {k k' : Fin maxCursors} (h : S.cursors k = some k') :
      Twin S (.cursorClose k.val) (.cursorClose k'.val) fun _ _ S' => GivesCursorBack S k k' S'
  | rowsNowhere : Twin S (.cursorRows (-1)) (.cursorRows (-1)) fun r r' S' => r = r' ∧ S' = S
  | cursorRows {k k' : Fin maxCursors} (h : S.cursors k = some k') :
      Twin S (.cursorRows k.val) (.cursorRows k'.val) fun r r' S' => r = r' ∧ S' = S.withCursorNumber k
  | fetchNowhere : Twin S (.cursorFetchRow (-1)) (.cursorFetchRow (-1)) fun r r' S' => r = r' ∧ S' = S
  | cursorFetchRow {k k' : Fin maxCursors} (h : S.cursors k = some k') :
      Twin S (.cursorFetchRow k.val) (.cursorFetchRow k'.val) fun r r' S' =>
        r = r' ∧ S' = S.withCursorNumber k
  | fieldNowhere (f : ℕ) :
      Twin S (.getRowField (-1) f) (.getRowField (-1) f) fun r r' S' => r = r' ∧ S' = S
  | getRowField {k k' : Fin maxCursors} (h : S.cursors k = some k') (f : ℕ) :
      Twin S (.getRowField k.val f) (.getRowField k'.val f) fun r r' S' => r = r' ∧ S' = S.withCursorNumber k
  | numberNowhere :
      Twin S (.getMySqlErrorNumber (-1)) (.getMySqlErrorNumber (-1)) fun r r' S' => r = r' ∧ S' = S
  | number {i i' : Fin maxConnections} (h : S.connections i = some i') (numbered : S.numbered i) :
      Twin S (.getMySqlErrorNumber i.val) (.getMySqlErrorNumber i'.val) fun r r' S' => r = r' ∧ S' = S
  | description (p p' : ℤ) :
      Twin S (.getMySqlErrorDescription p) (.getMySqlErrorDescription p') fun _ _ S' => S' = S
  | cursorNumberNowhere :
      Twin S (.getCursorErrorNumber (-1)) (.getCursorErrorNumber (-1)) fun r r' S' => r = r' ∧ S' = S
  | cursorNumber {k k' : Fin maxCursors} (h : S.cursors k = some k') (counted : S.counted k) :
      Twin S (.getCursorErrorNumber k.val) (.getCursorErrorNumber k'.val) fun r r' S' => r = r' ∧ S' = S
  | closedNumber {k k' : Fin maxCursors} (h : S.cursors k = none) (h' : ∀ l, S.cursors l ≠ some k')
      (shared : S.rival.opens) :
      Twin S (.getCursorErrorNumber k.val) (.getCursorErrorNumber k'.val) fun r r' S' =>
        r = 0 ∧ r' = 0 ∧ S' = S
  | cursorDescription (p p' : ℤ) :
      Twin S (.getCursorErrorDescription p) (.getCursorErrorDescription p') fun _ _ S' => S' = S

end MqlMySql
