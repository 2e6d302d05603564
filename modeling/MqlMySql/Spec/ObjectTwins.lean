import MqlMySql.Spec.Twins
import MqlMySql.Spec.ObjectSteps

/-!
# The wrapper classes in two worlds

A client owns the same objects in both worlds, except that they remember the numbers of paired slots. Then every
operation makes calls which are twins of each other, and ends with the same value, the same error number and
objects of this kind again.
-/

namespace MqlMySql

open Library

variable {t : Pairing maxConnections} {u : Pairing maxCursors} {shared : Prop} {a b : Objects} {o : ℕ}

/-- The same objects, up to paired ids and to the texts of the errors. In a `shared` table of cursors no two objects
remember the same slot. -/
structure ObjectsAlike (t : Pairing maxConnections) (u : Pairing maxCursors) (shared : Prop) (a b : Objects) :
    Prop where
  connectIDs : PairedIds t True a.connectIDs b.connectIDs
  cursorIDs : PairedIds u shared a.cursorIDs b.cursorIDs
  connection : ∀ o this this', a.connections o = some this → b.connections o = some this' →
    this.mySqlErrorNumber = this'.mySqlErrorNumber ∧ this.credentials = this'.credentials
  cursor : ∀ o this this', a.cursors o = some this → b.cursors o = some this' →
    this.cursorErrorNumber = this'.cursorErrorNumber

section Connections

variable {this that this' that' : CMySQL}

/-- The objects alike once `this` and `this'` are stored as `o`. -/
abbrev ConnectionStored (a b : Objects) (o : ℕ) (S : Pairs) (this this' : CMySQL) : Prop :=
  ObjectsAlike S.connections S.cursors S.rival.opens (a.setConnection o (some this)) (b.setConnection o (some this'))

variable {S : Pairs}

/-- Stored alike, the objects remember the ids of paired connections. -/
theorem ConnectionStored.connectID (h : ConnectionStored a b o S this this') :
    PairedId S.connections this.connectID this'.connectID := by
  have hrel := h.connectIDs.paired o
  simpa using hrel

/-- Stored alike, the objects remember the same number and the same credentials. -/
theorem ConnectionStored.number (h : ConnectionStored a b o S this this') :
    this.mySqlErrorNumber = this'.mySqlErrorNumber ∧ this.credentials = this'.credentials :=
  h.connection o this this' (Function.update_self ..) (Function.update_self ..)

/-- Changing the stored objects, and the pairing with them. -/
theorem ConnectionStored.change (h : ConnectionStored a b o S this this')
    (ids : PairedIds t True (Function.update a.connectIDs o (some that.connectID))
      (Function.update b.connectIDs o (some that'.connectID)))
    (number : that.mySqlErrorNumber = that'.mySqlErrorNumber)
    (credentials : that.credentials = that'.credentials) :
    ObjectsAlike t S.cursors S.rival.opens (a.setConnection o (some that)) (b.setConnection o (some that')) where
  connectIDs := by simpa using ids
  cursorIDs := h.cursorIDs
  connection := by
    intro o' x x' hx hx'
    by_cases hoo : o' = o
    · subst hoo
      cases (Function.update_self ..).symm.trans hx
      cases (Function.update_self ..).symm.trans hx'
      exact ⟨number, credentials⟩
    · apply h.connection o' x x'
      · rw [← hx]
        simp [Objects.setConnection, hoo]
      · rw [← hx']
        simp [Objects.setConnection, hoo]
  cursor := h.cursor

/-- Writing the same number keeps the objects alike, whatever the texts are. -/
theorem ConnectionStored.setError (h : ConnectionStored a b o S this this') (n : ℤ) (d d' : String) :
    ConnectionStored a b o S (this.setError n d) (this'.setError n d') := by
  refine h.change ?_ rfl h.number.2
  simpa using h.connectIDs

/-- Writing the same credentials keeps the objects alike. -/
theorem ConnectionStored.setCredentials (h : ConnectionStored a b o S this this') (c : Credentials) :
    ConnectionStored a b o S (this.setCredentials c) (this'.setCredentials c) := by
  refine h.change ?_ h.number.1 rfl
  simpa [CMySQL.setCredentials] using h.connectIDs

/-- The object takes a new pair of slots. -/
theorem ConnectionStored.taken (h : ConnectionStored a b o S this this') {i i' : Fin maxConnections}
    (empty : S.connections i = none) :
    ConnectionStored a b o (S.addConnection i i') { this with connectID := i.val }
      { this' with connectID := i'.val } := by
  refine h.change ?_ h.number.1 h.number.2
  have htaken : PairedIds (Function.update S.connections i (some i')) _ _ _ :=
    h.connectIDs.take (o := o) (Or.inl empty)
  simpa [Pairs.addConnection_connections] using htaken

/-- The object gives its pair of slots back. -/
theorem ConnectionStored.dropped (h : ConnectionStored a b o S this this') {i : Fin maxConnections}
    (hp : this.connectID = i.val) :
    ConnectionStored a b o (S.dropConnection i) { this with connectID := -1 } { this' with connectID := -1 } := by
  refine h.change ?_ h.number.1 h.number.2
  simpa [Pairs.dropConnection_connections] using
    h.connectIDs.drop (o := o) (i := i) trivial (by simp [hp]) (Or.inr rfl)

/-- The end of a method: the same value, and objects alike. -/
def ConnectionEnds {α : Type} (a b : Objects) (o : ℕ) (S : Pairs) (x x' : α × CMySQL) : Prop :=
  x.1 = x'.1 ∧ ConnectionStored a b o S x.2 x'.2

/-- `readError` reads the same number in both worlds, when reading it is a twin. -/
theorem readError_twins {p p' : ℤ} (h : ConnectionStored a b o S this this')
    (twin : Twin S (.getMySqlErrorNumber p) (.getMySqlErrorNumber p') fun r r' S' => r = r' ∧ S' = S) :
    Alongside Twin (ConnectionStored a b o) S (this.readError p) (this'.readError p') := by
  apply Alongside.call twin
  rintro n _ _ ⟨rfl, rfl⟩
  apply Alongside.call (Twin.description p p')
  rintro d d' _ rfl
  exact Alongside.done (h.setError n d d')

/-- `Execute` makes twin calls, and answers the same. -/
theorem execute_twins (h : ConnectionStored a b o S this this') (q : WStr) :
    Alongside Twin (ConnectionEnds a b o) S (this.execute q) (this'.execute q) := by
  have hclear : ConnectionStored a b o S this.clearErrors this'.clearErrors := h.setError 0 _ _
  obtain ⟨n, d, p, c⟩ := this
  obtain ⟨n', d', p', c'⟩ := this'
  rcases h.connectID.nothing_or_slot with ⟨rfl, rfl⟩ | ⟨i, i', hi, rfl, rfl⟩
  · exact Alongside.done ⟨rfl, hclear.setError (-2) _ _⟩
  · simp only [CMySQL.execute, CMySQL.clearErrors_connectID]
    apply Alongside.call (Twin.execute hi q)
    rintro accepted _ _ ⟨rfl, rfl⟩
    cases accepted with
    | true => exact Alongside.done ⟨rfl, hclear⟩
    | false =>
      apply Alongside.bind (readError_twins (S := S.withNumber i) hclear
        (Twin.number hi (by simp [Pairs.withNumber_numbered])))
      intro S' that that' hthat
      exact Alongside.done ⟨rfl, hthat⟩

/-- `Connect` makes twin calls: both connects succeed, with paired slots, or both are refused. -/
theorem connect_twins (h : ConnectionStored a b o S this this') :
    Alongside Twin (ConnectionEnds a b o) S this.connect this'.connect := by
  have hclear : ConnectionStored a b o S this.clearErrors this'.clearErrors := h.setError 0 _ _
  obtain ⟨n, d, p, c⟩ := this
  obtain ⟨n', d', p', c'⟩ := this'
  obtain rfl : c = c' := h.number.2
  cases c with
  | none => exact Alongside.done ⟨rfl, hclear.setError (-8) _ _⟩
  | some c =>
    rcases h.connectID.nothing_or_slot with ⟨rfl, rfl⟩ | ⟨i, i', hi, rfl, rfl⟩
    · apply Alongside.call (Twin.connect c)
      rintro r r' S' (⟨rfl, rfl, rfl⟩ | ⟨i, i', rfl, rfl, hnone, rfl⟩)
      · apply Alongside.bind (readError_twins hclear Twin.numberNowhere)
        intro S' that that' hthat
        exact Alongside.done ⟨rfl, hthat⟩
      · apply Alongside.bind (execute_twins (hclear.taken hnone) (wide "SET NAMES UTF8"))
        rintro S' ⟨accepted, that⟩ ⟨_, that'⟩ ⟨rfl, hthat⟩
        cases accepted with
        | true => exact Alongside.done ⟨rfl, hthat⟩
        | false =>
          apply Alongside.bind (readError_twins hthat Twin.numberNowhere)
          intro S' that that' hthat
          exact Alongside.done ⟨rfl, hthat⟩
    · exact Alongside.done ⟨rfl, hclear.setError (-7) _ _⟩

/-- `Disconnect` makes twin calls, which give paired slots back. -/
theorem disconnect_twins (h : ConnectionStored a b o S this this') :
    Alongside Twin (ConnectionStored a b o) S this.disconnect this'.disconnect := by
  have hclear : ConnectionStored a b o S this.clearErrors this'.clearErrors := h.setError 0 _ _
  obtain ⟨n, d, p, c⟩ := this
  obtain ⟨n', d', p', c'⟩ := this'
  rcases h.connectID.nothing_or_slot with ⟨rfl, rfl⟩ | ⟨i, i', hi, rfl, rfl⟩
  · exact Alongside.done hclear
  · simp only [CMySQL.disconnect, CMySQL.clearErrors_connectID]
    apply Alongside.call (Twin.disconnect hi)
    rintro _ _ _ rfl
    exact Alongside.done (hclear.dropped rfl)

end Connections

section Cursors

variable {this that this' that' : CMySQLCursor}

/-- The objects alike once `this` and `this'` are stored as `o`. -/
abbrev CursorStored (a b : Objects) (o : ℕ) (S : Pairs) (this this' : CMySQLCursor) : Prop :=
  ObjectsAlike S.connections S.cursors S.rival.opens (a.setCursor o (some this)) (b.setCursor o (some this'))

variable {S : Pairs}

/-- Stored alike, the objects remember the ids of paired cursors. -/
theorem CursorStored.cursorID (h : CursorStored a b o S this this') :
    PairedId S.cursors this.cursorID this'.cursorID := by
  have hrel := h.cursorIDs.paired o
  simpa using hrel

/-- Stored alike, the objects remember the same number. -/
theorem CursorStored.number (h : CursorStored a b o S this this') :
    this.cursorErrorNumber = this'.cursorErrorNumber :=
  h.cursor o this this' (Function.update_self ..) (Function.update_self ..)

/-- Changing the stored objects, and the pairing with them. -/
theorem CursorStored.change (h : CursorStored a b o S this this')
    (ids : PairedIds u S.rival.opens (Function.update a.cursorIDs o (some that.cursorID))
      (Function.update b.cursorIDs o (some that'.cursorID)))
    (number : that.cursorErrorNumber = that'.cursorErrorNumber) :
    ObjectsAlike S.connections u S.rival.opens (a.setCursor o (some that)) (b.setCursor o (some that')) where
  connectIDs := h.connectIDs
  cursorIDs := by simpa using ids
  connection := h.connection
  cursor := by
    intro o' x x' hx hx'
    by_cases hoo : o' = o
    · subst hoo
      cases (Function.update_self ..).symm.trans hx
      cases (Function.update_self ..).symm.trans hx'
      exact number
    · apply h.cursor o' x x'
      · rw [← hx]
        simp [Objects.setCursor, hoo]
      · rw [← hx']
        simp [Objects.setCursor, hoo]

/-- Writing the same number keeps the objects alike, whatever the texts are. -/
theorem CursorStored.setError (h : CursorStored a b o S this this') (n : ℤ) (d d' : String) :
    CursorStored a b o S (this.setError n d) (this'.setError n d') := by
  refine h.change ?_ rfl
  simpa [CMySQLCursor.setError] using h.cursorIDs

/-- The object forgets its pair of slots. -/
theorem CursorStored.forgotten (h : CursorStored a b o S this this') (p p' : ℤ) :
    CursorStored a b o S { this with cursorID := -1, connectID := p }
      { this' with cursorID := -1, connectID := p' } := by
  refine h.change ?_ h.number
  simpa using h.cursorIDs.forget (o := o) (Or.inr rfl)

/-- The object takes a pair of slots, which is new in a shared table. -/
theorem CursorStored.taken (h : CursorStored a b o S this this') {k k' : Fin maxCursors}
    (fits : S.cursors k = none ∨ ¬S.rival.opens ∧ S.cursors k = some k') (p p' : ℤ) :
    CursorStored a b o (S.addCursor k k') { this with cursorID := k.val, connectID := p }
      { this' with cursorID := k'.val, connectID := p' } := by
  refine h.change ?_ h.number
  have htaken : PairedIds (Function.update S.cursors k (some k')) _ _ _ := h.cursorIDs.take (o := o) fits
  simpa [Pairs.addCursor_cursors] using htaken

/-- The object gives its pair of slots of a shared table back. -/
theorem CursorStored.dropped (h : CursorStored a b o S this this') (shared : S.rival.opens) {k : Fin maxCursors}
    (hp : this.cursorID = k.val) :
    CursorStored a b o (S.dropCursor k) { this with cursorID := -1 } { this' with cursorID := -1 } := by
  refine h.change ?_ h.number
  simpa [Pairs.dropCursor_cursors] using h.cursorIDs.drop (o := o) (i := k) shared (by simp [hp]) (Or.inr rfl)

/-- The end of a method: the same value, and objects alike. -/
def CursorEnds {α : Type} (a b : Objects) (o : ℕ) (S : Pairs) (x x' : α × CMySQLCursor) : Prop :=
  x.1 = x'.1 ∧ CursorStored a b o S x.2 x'.2

/-- `readError` of a cursor reads the same number in both worlds, when reading it is a twin. -/
theorem readCursorError_twins (h : CursorStored a b o S this this')
    (twin : Twin S (.getCursorErrorNumber this.cursorID) (.getCursorErrorNumber this'.cursorID)
      fun r r' S' => r = r' ∧ S' = S) :
    Alongside Twin (CursorStored a b o) S this.readError this'.readError := by
  apply Alongside.call twin
  rintro n _ _ ⟨rfl, rfl⟩
  apply Alongside.call (Twin.cursorDescription _ _)
  rintro d d' _ rfl
  exact Alongside.done (h.setError n d d')

/-- `Open` makes twin calls: both openings give paired slots, or both are refused. -/
theorem openOn_twins (h : CursorStored a b o S this this') {connection connection' : CMySQL}
    (onto : PairedId S.connections connection.connectID connection'.connectID) (q : WStr) :
    Alongside Twin (CursorEnds a b o) S (this.openOn connection q) (this'.openOn connection' q) := by
  obtain ⟨n, d, p, c⟩ := connection
  obtain ⟨n', d', p', c'⟩ := connection'
  rcases onto.nothing_or_slot with ⟨rfl, rfl⟩ | ⟨i, i', hi, rfl, rfl⟩
  · apply Alongside.call (Twin.openNowhere q)
    rintro r r' S' ⟨rfl, rfl, rfl⟩
    apply Alongside.call Twin.numberNowhere
    rintro n _ _ ⟨rfl, rfl⟩
    apply Alongside.call (Twin.description _ _)
    rintro d d' _ rfl
    exact Alongside.done ⟨rfl, (h.forgotten (-1) (-1)).setError n d d'⟩
  · apply Alongside.call (Twin.cursorOpen hi q)
    rintro r r' S' (⟨rfl, rfl, rfl⟩ | ⟨k, k', rfl, rfl, hnone, rfl⟩)
    · apply Alongside.call (Twin.number (S := S.withNumber i) hi (by simp [Pairs.withNumber_numbered]))
      rintro n _ _ ⟨rfl, rfl⟩
      apply Alongside.call (Twin.description _ _)
      rintro d d' _ rfl
      exact Alongside.done ⟨rfl, CursorStored.setError (h.forgotten i.val i'.val) n d d'⟩
    · exact Alongside.done ⟨rfl, CursorStored.setError (h.taken hnone i.val i'.val) 0 _ _⟩

/-- The number of a cursor is read after it was written. -/
theorem Twin.written {k k' : Fin maxCursors} (hk : S.cursors k = some k') :
    Twin (S.withCursorNumber k) (.getCursorErrorNumber k.val) (.getCursorErrorNumber k'.val)
      fun r r' S' => r = r' ∧ S' = S.withCursorNumber k :=
  Twin.cursorNumber hk (by simp [Pairs.withCursorNumber_counted])

/-- After closing both objects forget the slot, or both keep it. -/
theorem forget_twins (h : CursorStored a b o S this this') :
    Alongside Twin (CursorStored a b o) S
      (if this.cursorErrorNumber = 0 then pure { this with cursorID := -1 } else pure this)
      (if this'.cursorErrorNumber = 0 then pure { this' with cursorID := -1 } else pure this') := by
  by_cases hzero : this.cursorErrorNumber = 0
  · have hzero' : this'.cursorErrorNumber = 0 := h.number.symm.trans hzero
    rw [if_pos hzero, if_pos hzero']
    exact Alongside.done (h.forgotten this.connectID this'.connectID)
  · have hzero' : this'.cursorErrorNumber ≠ 0 := fun h' => hzero (h.number.trans h')
    rw [if_neg hzero, if_neg hzero']
    exact Alongside.done h

/-- Closing reads the number of a slot which is shut. In a shared table the number is `0`, so that the object forgets
the slot. -/
theorem close_twins (h : CursorStored a b o S this this') :
    Alongside Twin (CursorStored a b o) S this.close this'.close := by
  have hclear : CursorStored a b o S this.clearErrors this'.clearErrors := h.setError 0 _ _
  obtain ⟨p, c, n, d⟩ := this
  obtain ⟨p', c', n', d'⟩ := this'
  rcases h.cursorID.nothing_or_slot with ⟨rfl, rfl⟩ | ⟨k, k', hk, rfl, rfl⟩
  · apply Alongside.call Twin.closeNothing
    rintro _ _ _ rfl
    apply Alongside.bind (readCursorError_twins hclear Twin.cursorNumberNowhere)
    intro S' that that' hthat
    exact forget_twins hthat
  · apply Alongside.call (Twin.cursorClose hk)
    rintro _ _ _ (⟨hopens, hnobody, rfl⟩ | ⟨-, rfl⟩)
    · have hnone : (S.dropCursor k).cursors k = none := Function.update_self ..
      apply Alongside.call (Twin.closedNumber hnone hnobody hopens)
      rintro _ _ _ ⟨rfl, rfl, rfl⟩
      apply Alongside.call (Twin.cursorDescription _ _)
      rintro d d' _ rfl
      exact Alongside.done (CursorStored.setError (hclear.dropped hopens rfl) 0 d d')
    · apply Alongside.bind (readCursorError_twins (S := S.withCursorNumber k) hclear (Twin.written hk))
      intro S' that that' hthat
      exact forget_twins hthat

/-- The end of a method which copies the error of the cursor after its call. -/
theorem answer_twins {α : Type} (h : CursorStored a b o S this this')
    (twin : Twin S (.getCursorErrorNumber this.cursorID) (.getCursorErrorNumber this'.cursorID)
      fun r r' S' => r = r' ∧ S' = S) (r : α) :
    Alongside Twin (CursorEnds a b o) S (do return (r, ← this.readError)) (do return (r, ← this'.readError)) := by
  apply Alongside.bind (readCursorError_twins h twin)
  intro S' that that' hthat
  exact Alongside.done ⟨rfl, hthat⟩

/-- `Rows` makes twin calls, and answers the same number of rows. -/
theorem rows_twins (h : CursorStored a b o S this this') :
    Alongside Twin (CursorEnds a b o) S this.rows this'.rows := by
  obtain ⟨p, c, n, d⟩ := this
  obtain ⟨p', c', n', d'⟩ := this'
  rcases h.cursorID.nothing_or_slot with ⟨rfl, rfl⟩ | ⟨k, k', hk, rfl, rfl⟩
  · apply Alongside.call Twin.rowsNowhere
    rintro r _ _ ⟨rfl, rfl⟩
    exact answer_twins h Twin.cursorNumberNowhere r
  · apply Alongside.call (Twin.cursorRows hk)
    rintro r _ _ ⟨rfl, rfl⟩
    exact answer_twins (S := S.withCursorNumber k) h (Twin.written hk) r

/-- `Fetch` makes twin calls, and answers the same. -/
theorem fetch_twins (h : CursorStored a b o S this this') :
    Alongside Twin (CursorEnds a b o) S this.fetch this'.fetch := by
  obtain ⟨p, c, n, d⟩ := this
  obtain ⟨p', c', n', d'⟩ := this'
  rcases h.cursorID.nothing_or_slot with ⟨rfl, rfl⟩ | ⟨k, k', hk, rfl, rfl⟩
  · apply Alongside.call Twin.fetchNowhere
    rintro r _ _ ⟨rfl, rfl⟩
    exact answer_twins h Twin.cursorNumberNowhere r
  · apply Alongside.call (Twin.cursorFetchRow hk)
    rintro r _ _ ⟨rfl, rfl⟩
    exact answer_twins (S := S.withCursorNumber k) h (Twin.written hk) r

/-- Reading a field makes twin calls, and answers the same text. -/
theorem fieldAsString_twins (h : CursorStored a b o S this this') (f : ℤ) :
    Alongside Twin (CursorEnds a b o) S (this.fieldAsString f) (this'.fieldAsString f) := by
  obtain ⟨p, c, n, d⟩ := this
  obtain ⟨p', c', n', d'⟩ := this'
  rcases h.cursorID.nothing_or_slot with ⟨rfl, rfl⟩ | ⟨k, k', hk, rfl, rfl⟩
  · apply Alongside.call (Twin.fieldNowhere _)
    rintro r _ _ ⟨rfl, rfl⟩
    exact answer_twins h Twin.cursorNumberNowhere r
  · apply Alongside.call (Twin.getRowField hk _)
    rintro r _ _ ⟨rfl, rfl⟩
    exact answer_twins (S := S.withCursorNumber k) h (Twin.written hk) r

end Cursors

section Operations

variable {S : Pairs}

/-- The end of an operation: the client sees the same, and the objects are alike. -/
def Ended (S : Pairs) (x x' : Finished × Objects) : Prop :=
  x.1 = x'.1 ∧ ObjectsAlike S.connections S.cursors S.rival.opens x.2 x'.2

/-- A connection object exists in both worlds or in neither. -/
theorem ObjectsAlike.connections_cases (h : ObjectsAlike S.connections S.cursors S.rival.opens a b) (o : ℕ) :
    a.connections o = none ∧ b.connections o = none ∨
      ∃ this this', a.connections o = some this ∧ b.connections o = some this' ∧
        ConnectionStored a b o S this this' := by
  have hrel := h.connectIDs.paired o
  rw [Objects.connectIDs, Objects.connectIDs] at hrel
  cases ha : a.connections o with
  | none =>
    cases hb : b.connections o with
    | none => exact Or.inl ⟨rfl, rfl⟩
    | some this' =>
      rw [ha, hb] at hrel
      cases hrel
  | some this =>
    cases hb : b.connections o with
    | none =>
      rw [ha, hb] at hrel
      cases hrel
    | some this' =>
      refine Or.inr ⟨this, this', rfl, rfl, ?_⟩
      have hkept : a.setConnection o (some this) = a := by simp [Objects.setConnection, ← ha]
      have hkept' : b.setConnection o (some this') = b := by simp [Objects.setConnection, ← hb]
      rw [ConnectionStored, hkept, hkept']
      exact h

/-- An object of a client exists in both worlds or in neither. -/
theorem ObjectsAlike.cursors_cases (h : ObjectsAlike S.connections S.cursors S.rival.opens a b) (o : ℕ) :
    a.cursors o = none ∧ b.cursors o = none ∨
      ∃ this this', a.cursors o = some this ∧ b.cursors o = some this' ∧ CursorStored a b o S this this' := by
  have hrel := h.cursorIDs.paired o
  rw [Objects.cursorIDs, Objects.cursorIDs] at hrel
  cases ha : a.cursors o with
  | none =>
    cases hb : b.cursors o with
    | none => exact Or.inl ⟨rfl, rfl⟩
    | some this' =>
      rw [ha, hb] at hrel
      cases hrel
  | some this =>
    cases hb : b.cursors o with
    | none =>
      rw [ha, hb] at hrel
      cases hrel
    | some this' =>
      refine Or.inr ⟨this, this', rfl, rfl, ?_⟩
      have hkept : a.setCursor o (some this) = a := by simp [Objects.setCursor, ← ha]
      have hkept' : b.setCursor o (some this') = b := by simp [Objects.setCursor, ← hb]
      rw [CursorStored, hkept, hkept']
      exact h

/-- An operation on a connection object is alike in both worlds, when its method is on objects stored alike. -/
theorem onConnection_twins (h : ObjectsAlike S.connections S.cursors S.rival.opens a b)
    {method : CMySQL → Script (Answer × CMySQL)}
    (twins : ∀ this this', ConnectionStored a b o S this this' →
      Alongside Twin (ConnectionEnds a b o) S (method this) (method this')) :
    Option.Rel (Alongside Twin Ended S) (a.onConnection o method) (b.onConnection o method) := by
  rcases h.connections_cases o with ⟨ha, hb⟩ | ⟨this, this', ha, hb, hstored⟩
  · rw [Objects.onConnection, Objects.onConnection, ha, hb]
    exact Option.Rel.none
  · rw [Objects.onConnection, Objects.onConnection, ha, hb]
    apply Option.Rel.some
    apply (twins this this' hstored).bind
    rintro S' ⟨answer, that⟩ ⟨_, that'⟩ ⟨rfl, hthat⟩
    exact Alongside.done ⟨by rw [hthat.number.1], hthat⟩

/-- An operation on a cursor object is alike in both worlds, when its methods are on objects stored alike. -/
theorem onCursor_twins (h : ObjectsAlike S.connections S.cursors S.rival.opens a b)
    {method method' : CMySQLCursor → Script (Answer × CMySQLCursor)}
    (twins : ∀ this this', CursorStored a b o S this this' →
      Alongside Twin (CursorEnds a b o) S (method this) (method' this')) :
    Option.Rel (Alongside Twin Ended S) (a.onCursor o method) (b.onCursor o method') := by
  rcases h.cursors_cases o with ⟨ha, hb⟩ | ⟨this, this', ha, hb, hstored⟩
  · rw [Objects.onCursor, Objects.onCursor, ha, hb]
    exact Option.Rel.none
  · rw [Objects.onCursor, Objects.onCursor, ha, hb]
    apply Option.Rel.some
    apply (twins this this' hstored).bind
    rintro S' ⟨answer, that⟩ ⟨_, that'⟩ ⟨rfl, hthat⟩
    exact Alongside.done ⟨by rw [hthat.number], hthat⟩

/-- Creating or deleting a connection object which remembers no slot. -/
theorem ObjectsAlike.setConnection (h : ObjectsAlike t u shared a b) (o : ℕ) {x : Option CMySQL}
    (hx : HoldsNothing (x.map CMySQL.connectID)) :
    ObjectsAlike t u shared (a.setConnection o x) (b.setConnection o x) where
  connectIDs := by simpa using h.connectIDs.forget hx
  cursorIDs := h.cursorIDs
  connection := by
    intro o' this this' hthis hthis'
    by_cases hoo : o' = o
    · subst hoo
      simp only [Objects.setConnection, Function.update_self] at hthis hthis'
      cases hthis.symm.trans hthis'
      exact ⟨rfl, rfl⟩
    · simp only [Objects.setConnection, Function.update_of_ne hoo] at hthis hthis'
      exact h.connection o' this this' hthis hthis'
  cursor := h.cursor

/-- Creating or deleting a cursor object which remembers no slot. -/
theorem ObjectsAlike.setCursor (h : ObjectsAlike t u shared a b) (o : ℕ) {x : Option CMySQLCursor}
    (hx : HoldsNothing (x.map CMySQLCursor.cursorID)) :
    ObjectsAlike t u shared (a.setCursor o x) (b.setCursor o x) where
  connectIDs := h.connectIDs
  cursorIDs := by simpa using h.cursorIDs.forget hx
  connection := h.connection
  cursor := by
    intro o' this this' hthis hthis'
    by_cases hoo : o' = o
    · subst hoo
      simp only [Objects.setCursor, Function.update_self] at hthis hthis'
      cases hthis.symm.trans hthis'
      rfl
    · simp only [Objects.setCursor, Function.update_of_ne hoo] at hthis hthis'
      exact h.cursor o' this this' hthis hthis'

/-- Deleting a connection object leaves objects alike. -/
theorem deleteConnection_twins {this this' : CMySQL} (h : ConnectionStored a b o S this this') :
    Alongside Twin (fun S' _ _ => ObjectsAlike S'.connections S'.cursors S'.rival.opens (a.setConnection o none)
      (b.setConnection o none)) S this.delete this'.delete := by
  have hforget {S' : Pairs} {that that' : CMySQL} (hthat : ConnectionStored a b o S' that that') :
      ObjectsAlike S'.connections S'.cursors S'.rival.opens (a.setConnection o none) (b.setConnection o none) := by
    have hnone := ObjectsAlike.setConnection hthat o (x := none) (Or.inl rfl)
    simpa [Objects.setConnection] using hnone
  have hid : 0 ≤ this.connectID ↔ 0 ≤ this'.connectID := by
    rcases h.connectID.nothing_or_slot with ⟨hp, hp'⟩ | ⟨i, i', -, hp, hp'⟩ <;> omega
  by_cases hp : 0 ≤ this.connectID
  · rw [CMySQL.delete, CMySQL.delete, if_pos hp, if_pos (hid.mp hp)]
    apply (disconnect_twins h).bind
    intro S' that that' hthat
    exact Alongside.done (hforget hthat)
  · rw [CMySQL.delete, CMySQL.delete, if_neg hp, if_neg (mt hid.mpr hp)]
    exact Alongside.done (hforget h)

/-- Deleting a cursor object leaves objects alike. -/
theorem deleteCursor_twins {this this' : CMySQLCursor} (h : CursorStored a b o S this this') :
    Alongside Twin (fun S' _ _ => ObjectsAlike S'.connections S'.cursors S'.rival.opens (a.setCursor o none)
      (b.setCursor o none)) S this.delete this'.delete := by
  have hforget {S' : Pairs} {that that' : CMySQLCursor} (hthat : CursorStored a b o S' that that') :
      ObjectsAlike S'.connections S'.cursors S'.rival.opens (a.setCursor o none) (b.setCursor o none) := by
    have hnone := ObjectsAlike.setCursor hthat o (x := none) (Or.inl rfl)
    simpa [Objects.setCursor] using hnone
  have hid : 0 ≤ this.cursorID ↔ 0 ≤ this'.cursorID := by
    rcases h.cursorID.nothing_or_slot with ⟨hp, hp'⟩ | ⟨k, k', -, hp, hp'⟩ <;> omega
  by_cases hp : 0 ≤ this.cursorID
  · rw [CMySQLCursor.delete, CMySQLCursor.delete, if_pos hp, if_pos (hid.mp hp)]
    apply (close_twins h).bind
    intro S' that that' hthat
    exact Alongside.done (hforget hthat)
  · rw [CMySQLCursor.delete, CMySQLCursor.delete, if_neg hp, if_neg (mt hid.mpr hp)]
    exact Alongside.done (hforget h)

/-- An operation is possible in both worlds or in neither, and its calls are twins. -/
theorem perform_twins (h : ObjectsAlike S.connections S.cursors S.rival.opens a b) (operation : Operation) :
    Option.Rel (Alongside Twin Ended S) (operation.perform a) (operation.perform b) := by
  cases operation with
  | newConnection o =>
    rcases h.connections_cases o with ⟨ha, hb⟩ | ⟨this, this', ha, hb, -⟩
    · simp only [Operation.perform, ha, hb, if_true]
      exact Option.Rel.some (Alongside.done ⟨rfl, h.setConnection o (Or.inr rfl)⟩)
    · simp only [Operation.perform, ha, hb, reduceCtorEq, if_false]
      exact Option.Rel.none
  | setCredentials o c =>
    apply onConnection_twins h
    intro this this' hstored
    exact Alongside.done ⟨rfl, hstored.setCredentials c⟩
  | connect o =>
    apply onConnection_twins h
    intro this this' hstored
    apply (connect_twins hstored).bind
    rintro S' ⟨r, that⟩ ⟨_, that'⟩ ⟨rfl, hthat⟩
    exact Alongside.done ⟨rfl, hthat⟩
  | disconnect o =>
    apply onConnection_twins h
    intro this this' hstored
    apply (disconnect_twins hstored).bind
    intro S' that that' hthat
    exact Alongside.done ⟨rfl, hthat⟩
  | execute o q =>
    apply onConnection_twins h
    intro this this' hstored
    apply (execute_twins hstored q).bind
    rintro S' ⟨r, that⟩ ⟨_, that'⟩ ⟨rfl, hthat⟩
    exact Alongside.done ⟨rfl, hthat⟩
  | rowsAffected o =>
    apply onConnection_twins h
    intro this this' hstored
    apply Alongside.call (Twin.rowsAffected hstored.connectID)
    rintro r _ _ ⟨rfl, rfl⟩
    exact Alongside.done ⟨rfl, hstored⟩
  | deleteConnection o =>
    rcases h.connections_cases o with ⟨ha, hb⟩ | ⟨this, this', ha, hb, hstored⟩
    · simp only [Operation.perform, ha, hb, Option.map_none]
      exact Option.Rel.none
    · simp only [Operation.perform, ha, hb, Option.map_some]
      apply Option.Rel.some
      apply (deleteConnection_twins hstored).bind
      intro S' _ _ hdeleted
      exact Alongside.done ⟨rfl, hdeleted⟩
  | newCursor o =>
    rcases h.cursors_cases o with ⟨ha, hb⟩ | ⟨this, this', ha, hb, -⟩
    · simp only [Operation.perform, ha, hb, if_true]
      exact Option.Rel.some (Alongside.done ⟨rfl, h.setCursor o (Or.inr rfl)⟩)
    · simp only [Operation.perform, ha, hb, reduceCtorEq, if_false]
      exact Option.Rel.none
  | openCursor o c q =>
    rcases h.connections_cases c with ⟨ha, hb⟩ | ⟨connection, connection', ha, hb, hstored⟩
    · simp only [Operation.perform, ha, hb, Option.bind_none]
      exact Option.Rel.none
    · simp only [Operation.perform, ha, hb, Option.bind_some]
      apply onCursor_twins h
      intro this this' hthis
      apply (openOn_twins hthis hstored.connectID q).bind
      rintro S' ⟨r, that⟩ ⟨_, that'⟩ ⟨rfl, hthat⟩
      exact Alongside.done ⟨rfl, hthat⟩
  | closeCursor o =>
    apply onCursor_twins h
    intro this this' hstored
    apply (close_twins hstored).bind
    intro S' that that' hthat
    exact Alongside.done ⟨rfl, hthat⟩
  | rows o =>
    apply onCursor_twins h
    intro this this' hstored
    apply (rows_twins hstored).bind
    rintro S' ⟨r, that⟩ ⟨_, that'⟩ ⟨rfl, hthat⟩
    exact Alongside.done ⟨rfl, hthat⟩
  | fetch o =>
    apply onCursor_twins h
    intro this this' hstored
    apply (fetch_twins hstored).bind
    rintro S' ⟨r, that⟩ ⟨_, that'⟩ ⟨rfl, hthat⟩
    exact Alongside.done ⟨rfl, hthat⟩
  | fieldAsString o f =>
    apply onCursor_twins h
    intro this this' hstored
    apply (fieldAsString_twins hstored f).bind
    rintro S' ⟨r, that⟩ ⟨_, that'⟩ ⟨rfl, hthat⟩
    exact Alongside.done ⟨rfl, hthat⟩
  | deleteCursor o =>
    rcases h.cursors_cases o with ⟨ha, hb⟩ | ⟨this, this', ha, hb, hstored⟩
    · simp only [Operation.perform, ha, hb, Option.map_none]
      exact Option.Rel.none
    · simp only [Operation.perform, ha, hb, Option.map_some]
      apply Option.Rel.some
      apply (deleteCursor_twins hstored).bind
      intro S' _ _ hdeleted
      exact Alongside.done ⟨rfl, hdeleted⟩

end Operations

end MqlMySql
