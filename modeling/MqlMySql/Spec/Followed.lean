import MqlMySql.Spec.ConnectionTwins

/-!
# A client followed in two worlds

A call of the client in the first world has its twin in the second, and the client goes on seeing the same. A
call of somebody else changes nothing of what the client sees.
-/

namespace MqlMySql

open Library

variable {σ : Type} {host : Host σ} {turns : ℕ} {S S' : Pairs} {marks : Marks} {x y : Party} {w v w' v' : World σ}
  {e e' : Exported} {r : e.Reply} {r' : e'.Reply} {Post : e.Reply → e'.Reply → Pairs → Prop}

/-- A client in the world `w`, which others use too, and in the world `v`, which nobody else uses: besides the
slots, the marks of the client are the numbers of the second world. -/
structure Followed (S : Pairs) (marks : Marks) (x : Party) (w v : World σ) : Prop where
  sees : Sees S marks.fetched w v
  number : v.dll.mySqlErrorNumber = marks.number x
  cursorNumber : v.dll.cursorErrorNumber = marks.cursorNumber x
  opened : ∀ k, (w.dll.cursors k).id ≠ -1 → marks.opener k = some x → S.cursors k ≠ none

/-- Only a fetch marks a slot as fetched. -/
theorem Marks.fetched_note {d d' : Dll} {k : Fin maxCursors} (h : (marks.note x e d d').fetched k = true) :
    (d.cursors k).id ≠ -1 ∧ (e = .cursorFetchRow k.val ∨ marks.fetched k = true) := by
  simp only [Marks.note] at h
  split at h
  · cases h
  · rename_i hid
    split at h
    · rename_i hfetch
      exact ⟨hid, Or.inl hfetch⟩
    · exact ⟨hid, Or.inr h⟩

/-- The DLL-wide numbers which are a client's own remain its own after a call of the client. -/
theorem Marks.own_note (h : (call host turns e).run w = .ok (r, w'))
    (own : w.dll.mySqlErrorNumber = marks.number x ∧ w.dll.cursorErrorNumber = marks.cursorNumber x) :
    w'.dll.mySqlErrorNumber = (marks.note x e w.dll w'.dll).number x ∧
      w'.dll.cursorErrorNumber = (marks.note x e w.dll w'.dll).cursorNumber x := by
  constructor
  · by_cases hsets : SetsNumber w.dll e
    · simp [Marks.note, hsets]
    · have hne : ∀ c, e ≠ .connect c := by
        rintro c rfl
        exact hsets trivial
      simp [Marks.note, hsets, call_number h hne, own.1]
  · by_cases hsets : SetsCursorNumber w.dll e
    · simp [Marks.note, hsets]
    · simp [Marks.note, hsets, call_cursorNumber h, own.2]

/-- What the others do stays the same. -/
theorem Twin.rival (twin : Twin S e e' Post) (post : Post r r' S') : S'.rival = S.rival := by
  cases twin with
  | connect | cursorOpen =>
    rcases post with ⟨-, -, rfl⟩ | ⟨_, _, -, -, -, rfl⟩
    · rfl
    · rfl
  | cursorClose =>
    rcases post with ⟨-, -, rfl⟩ | ⟨-, rfl⟩
    · rfl
    · rfl
  | openNowhere | closedNumber =>
    obtain ⟨-, -, rfl⟩ := post
    rfl
  | disconnect | closeNothing | description | cursorDescription =>
    obtain rfl := post
    rfl
  | _ =>
    obtain ⟨-, rfl⟩ := post
    rfl

/-- The call opens a cursor and returns the slot. -/
def GivesSlot (k : Fin maxCursors) : (e : Exported) → e.Reply → Prop
  | .cursorOpen _ _, r => r = k.val
  | _, _ => False

section Slots

variable {i : Fin maxConnections} {k : Fin maxCursors}

/-- A call of the client names slots of the client only. -/
theorem Twin.namesConnection (twin : Twin S e e' Post) (names : NamesConnection i e) :
    S.connections i ≠ none := by
  cases twin with
  | @disconnect j j' h =>
    obtain rfl : j = i := Fin.ext (by simp only [NamesConnection] at names; omega)
    simp [h]
  | @execute j j' h =>
    obtain rfl : j = i := Fin.ext (by simp only [NamesConnection] at names; omega)
    simp [h]
  | @cursorOpen j j' h =>
    obtain rfl : j = i := Fin.ext (by simp only [NamesConnection] at names; omega)
    simp [h]
  | openNowhere => exact absurd names.symm (val_ne_neg_one i)
  | _ => exact names.elim

theorem Twin.namesCursor (twin : Twin S e e' Post) (names : NamesCursor k e) : S.cursors k ≠ none := by
  cases twin with
  | @cursorClose l l' h =>
    obtain rfl : l = k := Fin.ext (by simp only [NamesCursor] at names; omega)
    simp [h]
  | @cursorRows l l' h =>
    obtain rfl : l = k := Fin.ext (by simp only [NamesCursor] at names; omega)
    simp [h]
  | @cursorFetchRow l l' h =>
    obtain rfl : l = k := Fin.ext (by simp only [NamesCursor] at names; omega)
    simp [h]
  | @getRowField l l' h =>
    obtain rfl : l = k := Fin.ext (by simp only [NamesCursor] at names; omega)
    simp [h]
  | closeNothing | rowsNowhere | fetchNowhere | fieldNowhere => exact absurd names.symm (val_ne_neg_one k)
  | _ => exact names.elim

/-- A connection slot becomes the client's when it was free, by connecting. -/
theorem Twin.new_connection (twin : Twin S e e' Post) (post : Post r r' S')
    (h : (call host turns e).run w = .ok (r, w')) (hi : S'.connections i ≠ none) :
    S.connections i ≠ none ∨ (w.dll.connections i).id = -1 ∧ ∃ c, e = .connect c := by
  cases twin with
  | connect c =>
    rcases post with ⟨-, -, rfl⟩ | ⟨j, j', hr, -, hnone, rfl⟩
    · exact Or.inl hi
    · by_cases hij : i = j
      · subst hij
        cases cMySqlConnect_outcome host h with
        | connected l free =>
          obtain rfl : l = i := Fin.ext (by omega)
          exact Or.inr ⟨getNewConnectionId_free free, c, rfl⟩
        | _ => exact absurd hr.symm (val_ne_neg_one i)
      · rw [Pairs.addConnection_connections, Function.update_of_ne hij] at hi
        exact Or.inl hi
  | @disconnect j j' hj =>
    obtain rfl : S' = S.dropConnection j := post
    rw [Pairs.dropConnection_connections] at hi
    by_cases hij : i = j
    · rw [hij, Function.update_self] at hi
      exact absurd rfl hi
    · rw [Function.update_of_ne hij] at hi
      exact Or.inl hi
  | cursorOpen =>
    rcases post with ⟨-, -, rfl⟩ | ⟨l, l', -, -, -, rfl⟩
    · exact Or.inl hi
    · exact Or.inl hi
  | cursorClose =>
    rcases post with ⟨-, -, rfl⟩ | ⟨-, rfl⟩
    · exact Or.inl hi
    · exact Or.inl hi
  | openNowhere | closedNumber =>
    obtain ⟨-, -, rfl⟩ := post
    exact Or.inl hi
  | closeNothing | description | cursorDescription =>
    obtain rfl := post
    exact Or.inl hi
  | _ =>
    obtain ⟨-, rfl⟩ := post
    exact Or.inl hi

/-- A cursor slot becomes the client's when it was free, by opening a cursor. -/
theorem Twin.new_cursor (twin : Twin S e e' Post) (post : Post r r' S')
    (h : (call host turns e).run w = .ok (r, w')) (hk : S'.cursors k ≠ none) :
    S.cursors k ≠ none ∨ (w.dll.cursors k).id = -1 ∧ GivesSlot k e r := by
  cases twin with
  | connect =>
    rcases post with ⟨-, -, rfl⟩ | ⟨i, i', -, -, -, rfl⟩
    · exact Or.inl hk
    · exact Or.inl hk
  | @cursorOpen i i' hi q =>
    rcases post with ⟨-, -, rfl⟩ | ⟨l, l', hr, -, hnone, rfl⟩
    · exact Or.inl hk
    · by_cases hkl : k = l
      · subst hkl
        have hstep : Registry.Step (.cursorOpen i.val q) r w.dll.registry w'.dll.registry := call_refines host h
        exact Or.inr ⟨w.dll.registry_cursors_eq_none.mp (hstep.open_free k hr), hr⟩
      · rw [Pairs.addCursor_cursors, Function.update_of_ne hkl] at hk
        exact Or.inl hk
  | @cursorClose l l' =>
    rcases post with ⟨-, -, rfl⟩ | ⟨-, rfl⟩
    · rw [Pairs.dropCursor_cursors] at hk
      by_cases hkl : k = l
      · rw [hkl, Function.update_self] at hk
        exact absurd rfl hk
      · rw [Function.update_of_ne hkl] at hk
        exact Or.inl hk
    · exact Or.inl hk
  | openNowhere | closedNumber =>
    obtain ⟨-, -, rfl⟩ := post
    exact Or.inl hk
  | disconnect | closeNothing | description | cursorDescription =>
    obtain rfl := post
    exact Or.inl hk
  | _ =>
    obtain ⟨-, rfl⟩ := post
    exact Or.inl hk

/-- A cursor slot which is open after a call of the client is the client's, when it was before or was opened by
the call. -/
theorem Twin.open_cursor (twin : Twin S e e' Post) (post : Post r r' S')
    (h : (call host turns e).run w = .ok (r, w')) (isOpen : (w'.dll.cursors k).id ≠ -1)
    (before : (w.dll.cursors k).id ≠ -1 → S.cursors k ≠ none) : S'.cursors k ≠ none := by
  have hkept (hne : ∀ p q, e ≠ .cursorOpen p q) : S.cursors k ≠ none :=
    before fun hfree => isOpen (call_keeps_free_cursor h hne hfree)
  cases twin with
  | connect =>
    rcases post with ⟨-, -, rfl⟩ | ⟨i, i', -, -, -, rfl⟩
    · exact hkept (by rintro p q ⟨⟩)
    · exact hkept (by rintro p q ⟨⟩)
  | @cursorOpen i i' hi q =>
    rcases post with ⟨rfl, -, rfl⟩ | ⟨l, l', rfl, -, hnone, rfl⟩
    · exact before fun hfree => isOpen (open_keeps_free h (val_ne_neg_one k).symm hfree)
    · rw [Pairs.addCursor_cursors]
      by_cases hkl : k = l
      · rw [hkl, Function.update_self]
        simp
      · rw [Function.update_of_ne hkl]
        exact before fun hfree => isOpen (open_keeps_free h (fun hlk => hkl (Fin.ext (by omega))) hfree)
  | @cursorClose l l' =>
    rcases post with ⟨-, -, rfl⟩ | ⟨-, rfl⟩
    · have hkl : k ≠ l := by
        rintro rfl
        cases cMySqlCursorClose_outcome host h with
        | wrong shut =>
          have hshut : (w.dll.cursors k).id = -1 := by simpa [openCursor_val] using shut
          simp [hshut] at isOpen
        | closed m hm =>
          obtain rfl : k = m := Fin.ext (by omega)
          simp at isOpen
      rw [Pairs.dropCursor_cursors, Function.update_of_ne hkl]
      exact hkept (by rintro p q ⟨⟩)
    · exact hkept (by rintro p q ⟨⟩)
  | openNowhere =>
    obtain ⟨rfl, -, rfl⟩ := post
    exact before fun hfree => isOpen (open_keeps_free h (val_ne_neg_one k).symm hfree)
  | closedNumber =>
    obtain ⟨-, -, rfl⟩ := post
    exact hkept (by rintro p q ⟨⟩)
  | disconnect | closeNothing | description | cursorDescription =>
    obtain rfl := post
    exact hkept (by rintro p q ⟨⟩)
  | _ =>
    obtain ⟨-, rfl⟩ := post
    exact hkept (by rintro p q ⟨⟩)

end Slots

/-- The twin of a call which writes the DLL-wide `MySqlErrorNumber` writes it as well. -/
theorem Twin.setsNumber (twin : Twin S e e' Post) (sees : Sees S marks.fetched w v) (room : HasRoom w.dll e)
    (hne : ∀ c, e ≠ .connect c) : (SetsNumber w.dll e ↔ SetsNumber v.dll e') ∧ numberSet e = numberSet e' := by
  cases twin with
  | connect c => exact absurd rfl (hne c)
  | @disconnect i i' hi =>
    have hslot := sees.connection i i' hi
    simp [SetsNumber, liveConnection_val, hslot.live, hslot.live', numberSet]
  | execute => simp [SetsNumber, val_ne_neg_one, numberSet]
  | rowsAffected hp => exact ⟨hp.eq_neg_one_iff, rfl⟩
  | openNowhere => exact ⟨iff_of_true (Or.inl rfl) (Or.inl rfl), rfl⟩
  | cursorOpen =>
    have room' := sees.cursor_room room
    have room : getNewCursorId w.dll ≠ -1 := room
    simp [SetsNumber, val_ne_neg_one, room, room', numberSet]
  | _ => exact ⟨Iff.rfl, rfl⟩

/-- The twin of a call which writes the DLL-wide `CursorErrorNumber` writes it as well. -/
theorem Twin.setsCursorNumber (twin : Twin S e e' Post) (sees : Sees S marks.fetched w v) :
    (SetsCursorNumber w.dll e ↔ SetsCursorNumber v.dll e') ∧ cursorNumberSet e = cursorNumberSet e' := by
  cases twin with
  | openNowhere => exact ⟨Iff.rfl, rfl⟩
  | cursorOpen => exact ⟨Iff.rfl, rfl⟩
  | closeNothing | rowsNowhere | fetchNowhere | fieldNowhere => simp [SetsCursorNumber, cursorNumberSet]
  | @cursorClose k k' hk | @cursorRows k k' hk | @cursorFetchRow k k' hk | @getRowField k k' hk =>
    by_cases hshut : (w.dll.cursors k).id = -1
    · obtain ⟨hnone, hnone'⟩ := sees.shutCursor (Or.inl hk) hshut
      simp [SetsCursorNumber, hnone, hnone', cursorNumberSet]
    · obtain ⟨hopen, hopen'⟩ := sees.openCursor (Or.inl hk) hshut
      simp [SetsCursorNumber, hopen, hopen', cursorNumberSet]
  | _ => exact ⟨Iff.rfl, rfl⟩

section Numbers

variable {i i' : Fin maxConnections} {k k' : Fin maxCursors}

/-- With a number in the DLL-wide cell of the sign of the client's own, both worlds pass the same test after a query. -/
theorem Followed.signsAgree (inv : Followed S marks x w v)
    (sign : 0 < w.dll.mySqlErrorNumber ↔ 0 < marks.number x) : SignsAgree w v := by
  rwa [SignsAgree, inv.number]

/-- Asked without a connection, both worlds answer with the DLL-wide number. -/
theorem Followed.number_nowhere (inv : Followed S marks x w v) (own : w.dll.mySqlErrorNumber = marks.number x) :
    cGetMySqlErrorNumber (-1) w.dll = cGetMySqlErrorNumber (-1) v.dll := by
  rw [cGetMySqlErrorNumber_of_dead liveConnection_neg_one, cGetMySqlErrorNumber_of_dead liveConnection_neg_one,
    own, inv.number]

/-- Asked on a connection with a number of the client's, both worlds answer with the number in the slot. -/
theorem Sees.number (sees : Sees S f w v) (hi : S.connections i = some i') (numbered : S.numbered i) :
    cGetMySqlErrorNumber i.val w.dll = cGetMySqlErrorNumber i'.val v.dll := by
  have hslot := sees.connection i i' hi
  rw [cGetMySqlErrorNumber_of_live (liveConnection_eq_some_iff.mpr ⟨rfl, hslot.live⟩),
    cGetMySqlErrorNumber_of_live (liveConnection_eq_some_iff.mpr ⟨rfl, hslot.live'⟩), hslot.number numbered]

/-- Asked for no open cursor, both worlds answer with the DLL-wide number. -/
theorem Followed.cursorNumber_shut {p p' : ℤ} (inv : Followed S marks x w v)
    (own : w.dll.cursorErrorNumber = marks.cursorNumber x) (shut : w.dll.openCursor p = none)
    (shut' : v.dll.openCursor p' = none) :
    cGetCursorErrorNumber p w.dll = cGetCursorErrorNumber p' v.dll := by
  rw [cGetCursorErrorNumber_of_closed shut, cGetCursorErrorNumber_of_closed shut', own, inv.cursorNumber]

/-- Asked for a cursor with a number of the client's, both worlds answer from the slot, or DLL-wide when it is shut. -/
theorem Followed.cursorNumber_slot (inv : Followed S marks x w v) (hk : S.cursors k = some k') (counted : S.counted k)
    (own : w.dll.openCursor k.val = none → w.dll.cursorErrorNumber = marks.cursorNumber x) :
    cGetCursorErrorNumber k.val w.dll = cGetCursorErrorNumber k'.val v.dll := by
  have hslot := inv.sees.cursor k k' (Or.inl hk)
  by_cases hshut : (w.dll.cursors k).id = -1
  · obtain ⟨hnone, hnone'⟩ := inv.sees.shutCursor (Or.inl hk) hshut
    exact inv.cursorNumber_shut (own hnone) hnone hnone'
  · obtain ⟨hopen, hopen'⟩ := inv.sees.openCursor (Or.inl hk) hshut
    rw [cGetCursorErrorNumber_of_open hopen, cGetCursorErrorNumber_of_open hopen', hslot.number fun _ => counted]

/-- A number which the client has forgotten names no open cursor, unless somebody else opened the slot again. -/
theorem Followed.forgotten_shut (inv : Followed S marks x w v) (hk : S.cursors k = none)
    (owner : w.dll.openCursor k.val = some k → marks.opener k = some x) : w.dll.openCursor k.val = none := by
  cases hopen : w.dll.openCursor k.val with
  | none => rfl
  | some l =>
    obtain ⟨hkl, hid⟩ := openCursor_eq_some_iff.mp hopen
    obtain rfl : k = l := Fin.ext (by omega)
    exact absurd hk (inv.opened k hid (owner hopen))

/-- In the world of the client alone, a slot which no pair leads to is shut. -/
theorem Sees.unpaired_shut (sees : Sees S f w v) (shared : S.rival.opens) (hk' : ∀ k, S.cursors k ≠ some k') :
    v.dll.openCursor k'.val = none := by
  cases hopen : v.dll.openCursor k'.val with
  | none => rfl
  | some l =>
    obtain ⟨hkl, hid⟩ := openCursor_eq_some_iff.mp hopen
    obtain rfl : k' = l := Fin.ext (by omega)
    obtain ⟨m, hm⟩ := sees.ownCursors k' hid
    exact absurd (hm.resolve_right fun h => h.1 shared) (hk' m)

end Numbers

/-- The twin of a call which comes back comes back, and the client sees the same afterwards. -/
theorem Followed.twin_sees (inv : Followed S marks x w v) (twin : Twin S e e' Post) (room : HasRoom w.dll e)
    (proper : Proper host w marks S.rival x e) (h : (call host turns e).run w = .ok (r, w')) :
    ∃ r' v' S', (call host turns e').run v = .ok (r', v') ∧ Post r r' S' ∧
      Sees S' (marks.note x e w.dll w'.dll).fetched w' v' ∧
        ((∃ c, e = .connect c) → w'.dll.mySqlErrorNumber = v'.dll.mySqlErrorNumber) := by
  have hfetched (hne : ∀ k : Fin maxCursors, e ≠ .cursorFetchRow k.val) :
      ∀ k, (marks.note x e w.dll w'.dll).fetched k = true → marks.fetched k = true :=
    fun k hk => (Marks.fetched_note hk).2.resolve_left (hne k)
  cases twin with
  | connect c =>
    obtain ⟨r', v', S', h', post, sees', hnumber⟩ :=
      inv.sees.connect room h (hfetched (by rintro k ⟨⟩))
    exact ⟨r', v', S', h', post, sees', fun _ => hnumber⟩
  | disconnect hi =>
    obtain ⟨v', h', sees'⟩ := inv.sees.disconnect hi proper.idle h (hfetched (by rintro k ⟨⟩))
    exact ⟨(), v', _, h', rfl, sees', by rintro ⟨c, ⟨⟩⟩⟩
  | @execute i i' hi q =>
    have hsigns : QueryFits q → SignsAgree w v := fun fits =>
      inv.signsAgree (proper.number (val_ne_neg_one i) fits)
    obtain ⟨v', h', sees'⟩ := inv.sees.execute hi hsigns h (hfetched (by rintro k ⟨⟩))
    exact ⟨r, v', _, h', ⟨rfl, rfl⟩, sees', by rintro ⟨c, ⟨⟩⟩⟩
  | rowsAffected hp =>
    cases hp with
    | nothing =>
      obtain ⟨v', h', sees'⟩ := inv.sees.nowhere .rowsAffected h (hfetched (by rintro k ⟨⟩))
      exact ⟨r, v', S, h', ⟨rfl, rfl⟩, sees', by rintro ⟨c, ⟨⟩⟩⟩
    | slot hi =>
      obtain ⟨v', h', sees'⟩ := inv.sees.rowsAffected hi h (hfetched (by rintro k ⟨⟩))
      exact ⟨r, v', S, h', ⟨rfl, rfl⟩, sees', by rintro ⟨c, ⟨⟩⟩⟩
  | openNowhere q =>
    obtain ⟨v', h', sees'⟩ := inv.sees.nowhere (.cursorOpen q) h (hfetched (by rintro k ⟨⟩))
    have hr : r = -1 := by
      cases h
      rfl
    exact ⟨r, v', S, h', ⟨hr, hr, rfl⟩, sees', by rintro ⟨c, ⟨⟩⟩⟩
  | @cursorOpen i i' hi q =>
    have hsigns : QueryFits q → SignsAgree w v := fun fits =>
      inv.signsAgree (proper.number (val_ne_neg_one i) fits)
    have hnew : ∀ k, (w.dll.cursors k).id = -1 →
        (marks.note x (.cursorOpen i.val q) w.dll w'.dll).fetched k = false := by
      intro k hfree
      simp [Marks.note, hfree]
    obtain ⟨r', v', S', h', post, sees'⟩ := inv.sees.cursorOpen hi hsigns room
      (fun hopens => (proper.cursors hopens).decided) h
      (hfetched (by rintro k ⟨⟩)) hnew
    exact ⟨r', v', S', h', post, sees', by rintro ⟨c, ⟨⟩⟩⟩
  | closeNothing =>
    obtain ⟨v', h', sees'⟩ := inv.sees.nowhere .close h (hfetched (by rintro k ⟨⟩))
    exact ⟨(), v', S, h', rfl, sees', by rintro ⟨c, ⟨⟩⟩⟩
  | @cursorClose k k' hk =>
    obtain ⟨v', S', h', post, sees'⟩ := inv.sees.close hk h (hfetched (by rintro k ⟨⟩))
    exact ⟨(), v', S', h', post, sees', by rintro ⟨c, ⟨⟩⟩⟩
  | rowsNowhere =>
    obtain ⟨v', h', sees'⟩ := inv.sees.nowhere .rows h (hfetched (by rintro k ⟨⟩))
    exact ⟨r, v', S, h', ⟨rfl, rfl⟩, sees', by rintro ⟨c, ⟨⟩⟩⟩
  | cursorRows hk =>
    obtain ⟨v', h', sees'⟩ := inv.sees.rows (Or.inl hk) h (hfetched (by rintro k ⟨⟩))
    exact ⟨r, v', _, h', ⟨rfl, rfl⟩, sees', by rintro ⟨c, ⟨⟩⟩⟩
  | fetchNowhere =>
    obtain ⟨v', h', sees'⟩ := inv.sees.nowhere .fetch h
      (hfetched fun k hk => val_ne_neg_one k (Exported.cursorFetchRow.inj hk).symm)
    exact ⟨r, v', S, h', ⟨rfl, rfl⟩, sees', by rintro ⟨c, ⟨⟩⟩⟩
  | @cursorFetchRow k k' hk =>
    have hother : ∀ l, l ≠ k →
        (marks.note x (.cursorFetchRow k.val) w.dll w'.dll).fetched l = true → marks.fetched l = true := by
      intro l hlk hl
      apply (Marks.fetched_note hl).2.resolve_left
      intro hfetch
      have hkl := Exported.cursorFetchRow.inj hfetch
      exact hlk (Fin.ext (by omega))
    obtain ⟨v', h', sees'⟩ := inv.sees.fetch (Or.inl hk) h hother
    exact ⟨r, v', _, h', ⟨rfl, rfl⟩, sees', by rintro ⟨c, ⟨⟩⟩⟩
  | fieldNowhere f =>
    obtain ⟨v', h', sees'⟩ := inv.sees.nowhere (.field f) h (hfetched (by rintro k ⟨⟩))
    exact ⟨r, v', S, h', ⟨rfl, rfl⟩, sees', by rintro ⟨c, ⟨⟩⟩⟩
  | @getRowField k k' hk f =>
    have hrow : S.rival.opens → marks.fetched k = true := fun hopens =>
      (proper.cursors hopens).fetched k
        (inv.sees.openCursor (Or.inl hk) ((inv.sees.cursor k k' (Or.inl hk)).isOpen hopens)).1
    obtain ⟨v', h', sees'⟩ := inv.sees.field (Or.inl hk) h hrow (hfetched (by rintro k ⟨⟩))
    exact ⟨r, v', _, h', ⟨rfl, rfl⟩, sees', by rintro ⟨c, ⟨⟩⟩⟩
  | numberNowhere =>
    cases h
    have hsame := inv.number_nowhere (proper.number liveConnection_neg_one)
    exact ⟨_, v, S, rfl, ⟨hsame, rfl⟩, inv.sees.mono (hfetched (by rintro k ⟨⟩)), by rintro ⟨c, ⟨⟩⟩⟩
  | @number i i' hi numbered =>
    cases h
    have hsame := inv.sees.number hi numbered
    exact ⟨_, v, S, rfl, ⟨hsame, rfl⟩, inv.sees.mono (hfetched (by rintro k ⟨⟩)), by rintro ⟨c, ⟨⟩⟩⟩
  | description p p' =>
    cases h
    exact ⟨cGetMySqlErrorDescription p' v.dll, v, S, rfl, rfl, inv.sees.mono (hfetched (by rintro k ⟨⟩)),
      by rintro ⟨c, ⟨⟩⟩⟩
  | cursorNumberNowhere =>
    cases h
    have hsame := inv.cursorNumber_shut (proper.cursorNumber openCursor_neg_one) openCursor_neg_one openCursor_neg_one
    exact ⟨_, v, S, rfl, ⟨hsame, rfl⟩, inv.sees.mono (hfetched (by rintro k ⟨⟩)), by rintro ⟨c, ⟨⟩⟩⟩
  | @cursorNumber k k' hk counted =>
    obtain ⟨rfl, rfl⟩ := Prod.mk.inj (Except.ok.inj h)
    have hsame := inv.cursorNumber_slot hk counted proper.cursorNumber
    exact ⟨_, v, S, rfl, ⟨hsame, rfl⟩, inv.sees.mono (hfetched (by rintro k ⟨⟩)), by rintro ⟨c, ⟨⟩⟩⟩
  | @closedNumber k k' hk hk' shared =>
    obtain ⟨rfl, rfl⟩ := Prod.mk.inj (Except.ok.inj h)
    obtain ⟨hzero, howner⟩ := (proper.cursors shared).forgets
    -- whoever opens the slot again is another client, so that the read would not be proper
    have hshut := inv.forgotten_shut hk (howner k)
    have hshut' := inv.sees.unpaired_shut shared hk'
    have hzero := hzero hshut (val_ne_neg_one k)
    refine ⟨_, v, S, rfl, ⟨?_, ?_, rfl⟩, inv.sees.mono (hfetched (by rintro k ⟨⟩)), by rintro ⟨c, ⟨⟩⟩⟩
    · rw [cGetCursorErrorNumber_of_closed hshut, proper.cursorNumber hshut, hzero]
    · rw [cGetCursorErrorNumber_of_closed hshut', inv.cursorNumber, hzero]
  | cursorDescription p p' =>
    cases h
    exact ⟨cGetCursorErrorDescription p' v.dll, v, S, rfl, rfl, inv.sees.mono (hfetched (by rintro k ⟨⟩)),
      by rintro ⟨c, ⟨⟩⟩⟩

/-- A call of the client is followed by its twin. -/
theorem Followed.follow (inv : Followed S marks x w v) (twin : Twin S e e' Post) (room : HasRoom w.dll e)
    (proper : Proper host w marks S.rival x e) (h : (call host turns e).run w = .ok (r, w')) :
    ∃ r' v' S', (call host turns e').run v = .ok (r', v') ∧ Post r r' S' ∧
      Followed S' (marks.note x e w.dll w'.dll) x w' v' := by
  obtain ⟨r', v', S', h', post, sees', hconnect⟩ := inv.twin_sees twin room proper h
  refine ⟨r', v', S', h', post, sees', ?_, ?_, ?_⟩
  · by_cases hne : ∃ c, e = .connect c
    · have hnumber := hconnect hne
      obtain ⟨c, rfl⟩ := hne
      rw [← hnumber]
      simp [Marks.note, SetsNumber]
    · have hne : ∀ c, e ≠ .connect c := fun c hc => hne ⟨c, hc⟩
      have hne' : ∀ c, e' ≠ .connect c := by
        rintro c rfl
        cases twin
        exact hne c rfl
      obtain ⟨hsets, hset⟩ := twin.setsNumber inv.sees room hne
      rw [call_number h' hne', ← hset, inv.number]
      by_cases hcell : SetsNumber w.dll e
      · rw [if_pos (hsets.mp hcell)]
        simp [Marks.note, hcell, call_number h hne]
      · rw [if_neg fun h => hcell (hsets.mpr h)]
        simp [Marks.note, hcell]
  · obtain ⟨hsets, hset⟩ := twin.setsCursorNumber inv.sees
    rw [call_cursorNumber h', ← hset, inv.cursorNumber]
    by_cases hcell : SetsCursorNumber w.dll e
    · rw [if_pos (hsets.mp hcell)]
      simp [Marks.note, hcell, call_cursorNumber h]
    · rw [if_neg fun h => hcell (hsets.mpr h)]
      simp [Marks.note, hcell]
  · intro k hopen hopener
    apply twin.open_cursor post h hopen
    intro hbefore
    apply inv.opened k hbefore
    simpa [Marks.note, hbefore] using hopener

section Other

variable {u u' : World σ} {i : Fin maxConnections} {k k' : Fin maxCursors}

/-- A call of somebody else which gives no slot keeps what the client sees of a slot which corresponds to itself. -/
theorem SameCursor.of_opening {p : ℤ} {q : WStr} {r : ℤ} {t : Pairing maxConnections} {rival : Rival}
    {counted fetched : Prop} {b : Cursor} (same : SameCursor t rival counted fetched (u.dll.cursors k) b)
    (unshared : ¬rival.opens) (h : (call host turns (.cursorOpen p q)).run u = .ok (r, u')) (hr : r ≠ k.val)
    (free : (u.dll.cursors k).id = -1) : SameCursor t rival counted fetched (u'.dll.cursors k) b := by
  have hkept := open_keeps_free h hr free
  obtain ⟨hrow, hnumber⟩ := (cMySqlCursorOpen_outcome host h).keeps_row k
  exact
    { shut := iff_of_true hkept (same.shut.mp free)
      isOpen := fun hopens => absurd hopens unshared
      recordSet := fun isOpen => absurd hkept isOpen
      row := fun hfetched => by rw [hrow, same.row hfetched]
      number := fun hcounted => by rw [hnumber, same.number hcounted]
      owner := fun isOpen => absurd hkept isOpen }

/-- What the client sees of a cursor is kept by a call of somebody else which does not name the slot, and gives none
where nobody else opens cursors. -/
theorem SameCursor.of_other {t : Pairing maxConnections} {rival : Rival} {counted fetched : Prop} {b : Cursor}
    (same : SameCursor t rival counted fetched (u.dll.cursors k) b)
    (h : (call host turns e).run u = .ok (r, u')) (names : ¬NamesCursor k e)
    (gives : ∀ k, GivesSlot k e r → rival.opens) :
    SameCursor t rival counted fetched (u'.dll.cursors k) b := by
  by_cases htouch : TouchesCursor u.dll k e
  · obtain ⟨hfree, p, q, rfl⟩ := htouch.names_or_free.resolve_left names
    have unshared : ¬rival.opens := fun hopens => same.isOpen hopens hfree
    exact same.of_opening unshared h (fun hr => unshared (gives k hr)) hfree
  · rwa [call_keeps_cursor_slot h htouch]

/-- A call of somebody else changes nothing of what the client sees. It names no slot of the client, and neither
names nor takes one of a table which the client has for itself. -/
theorem Followed.other (inv : Followed S marks x w v)
    (h : (call host turns e).run u = .ok (r, u')) (hyx : y ≠ x) (before : u.dll = w.dll)
    (after : w'.dll = u'.dll) (library : w'.library = w.library)
    (connections : ∀ i, NamesConnection i e → S.connections i = none ∧ S.rival.connects)
    (cursors : ∀ k, NamesCursor k e → S.cursors k = none ∧ S.rival.opens)
    (connects : ∀ c, e = .connect c → S.rival.connects) (gives : ∀ k, GivesSlot k e r → S.rival.opens) :
    Followed S (marks.note y e w.dll w'.dll) x w' v where
  sees :=
    { inv.sees with
      library := library.trans inv.sees.library
      connection := by
        intro i i' hi
        have hslot := inv.sees.connection i i' hi
        have hsame := call_keeps_connection_slot h (i := i) fun htouch => by
          rcases htouch.names_or_free with hname | ⟨hfree, -⟩
          · rw [(connections i hname).1] at hi
            cases hi
          · exact hslot.live (before ▸ hfree)
        rw [after, hsame, before]
        exact hslot
      handles := by
        intro unshared i
        have hsame := call_keeps_connection_slot h (i := i) fun htouch => by
          rcases htouch.names_or_free with hname | ⟨-, c, he⟩
          · exact unshared (connections i hname).2
          · exact unshared (connects c he)
        rw [after, hsame, before]
        exact inv.sees.handles unshared i
      cursor := by
        intro k k' hk
        have hname : ¬NamesCursor k e := by
          intro hname
          obtain ⟨hnone, hopens⟩ := cursors k hname
          rw [hk.resolve_right fun h => h.1 hopens] at hnone
          cases hnone
        have hslot := inv.sees.cursor k k' hk
        rw [← before] at hslot
        rw [after]
        refine (hslot.of_other h hname gives).mono id ?_ fun _ _ _ _ hi => hi
        intro hfetched
        apply (Marks.fetched_note hfetched).2.resolve_left
        rintro rfl
        exact hname rfl }
  number := by
    rw [inv.number]
    simp only [Marks.note]
    split
    · rw [Function.update_of_ne hyx.symm]
    · rfl
  cursorNumber := by
    rw [inv.cursorNumber]
    simp only [Marks.note]
    split
    · rw [Function.update_of_ne hyx.symm]
    · rfl
  opened := by
    intro k hopen hopener
    simp only [Marks.note] at hopener
    split at hopener
    · exact absurd (Option.some.inj hopener) hyx
    · rename_i hnew
      exact inv.opened k (fun hfree => hnew ⟨hfree, hopen⟩) hopener

end Other

end MqlMySql
