import MqlMySql.Spec.CursorTwins
import MqlMySql.Spec.Execute
import MqlMySql.Spec.Credentials
import MqlMySql.Spec.SameAnswers

/-!
# Using connections in two worlds
-/

namespace MqlMySql

open Library

variable {σ : Type} {host : Host σ} {turns : ℕ} {S : Pairs} {f f' : Fin maxCursors → Bool} {w v w' v' : World σ}
  {i i' : Fin maxConnections} {q : WStr}

/-- Equal library states answer alike. -/
theorem sameAnswers_eq (host : Host σ) (mysql : Option Mysql) : SameAnswers host mysql Eq where
  query := by
    rintro s _ rfl q n
    rfl
  errno := by
    rintro s _ rfl
    rfl
  use := by
    rintro s _ rfl
    rfl
  store := by
    rintro s _ rfl
    exact ⟨rfl, rfl⟩
  more := by
    rintro s _ rfl
    rfl
  next := by
    rintro s _ rfl
    exact ⟨rfl, rfl⟩
  free := by
    rintro s _ rfl res
    rfl

/-- The result loop comes back from a world when it does from one with the same library. -/
theorem drainResults_returns_alike {mysql : Option Mysql} {rSet : Option MysqlRes}
    (library : w.library = v.library) (h : (drainResults host mysql turns).run w = .ok (rSet, w')) :
    ∃ v', (drainResults host mysql turns).run v = .ok (rSet, v') := by
  induction turns generalizing w v with
  | zero => simp [drainResults] at h
  | succ turns ih =>
    have htaken : (w.taken host mysql).library = (v.taken host mysql).library :=
      World.taken_agree (sameAnswers_eq host mysql) library
    rw [run_drainResults_succ] at h ⊢
    rw [← htaken, ← library]
    split at h
    · rename_i more
      rw [if_pos more]
      split at h
      · rename_i status
        rw [if_pos status]
        exact ih (by simp [htaken]) h
      · rename_i status
        rw [if_neg status]
        cases h
        exact ⟨_, rfl⟩
    · rename_i more
      rw [if_neg more]
      cases h
      exact ⟨_, rfl⟩

/-- `MySqlExecute` always comes back from a slot of the table. -/
theorem mySqlExecute_returns (host : Host σ) (i : Fin maxConnections) (q : WStr) (w : World σ) :
    ∃ b w', (mySqlExecute host i.val q).run w = .ok (b, w') := by
  by_cases fits : (wideCharToMultiByte q).length < maxQuerySize
  · by_cases positive : 0 < w.dll.mySqlErrorNumber
    · simp [mySqlExecute, val_ne_neg_one, fits, positive]
    · simp [mySqlExecute, val_ne_neg_one, fits, positive]
  · simp [mySqlExecute, val_ne_neg_one, fits]

/-- `cMySqlExecute` comes back without its loop when the query is not accepted. -/
theorem cMySqlExecute_returns_rejected (host : Host σ) (turns : ℕ)
    (h : ¬(QueryFits q ∧ w.dll.mySqlErrorNumber ≤ 0)) :
    ∃ w', (cMySqlExecute host turns i.val q).run w = .ok (false, w') := by
  obtain ⟨b, w₁, hquery⟩ := mySqlExecute_returns host i q w
  have hfalse : b = false := by
    cases mySqlExecute_outcome host hquery with
    | noConnection => rfl
    | tooBig => rfl
    | pending => rfl
    | executed j hp fits quiet => exact absurd ⟨fits, quiet⟩ h
  subst hfalse
  refine ⟨w₁, ?_⟩
  simp only [cMySqlExecute, StateT.run_bind, run_modifyDll, ok_bind, if_neg (val_ne_neg_one i),
    run_mySqlExecute_cleared, hquery]
  rfl

/-- Executing comes back from a world when it does from one with the same handle and library. -/
theorem cMySqlExecute_returns_alike {b : Bool} (handle : w.handle i = v.handle i')
    (library : w.library = v.library) (signs : QueryFits q → SignsAgree w v)
    (h : (cMySqlExecute host turns i.val q).run w = .ok (b, w')) :
    ∃ b' v', (cMySqlExecute host turns i'.val q).run v = .ok (b', v') := by
  by_cases hquery : QueryFits q ∧ v.dll.mySqlErrorNumber ≤ 0
  · obtain ⟨fits, quiet⟩ := hquery
    have hused : ((w.sent host i q).used host i).library = ((v.sent host i' q).used host i').library := by
      simp [World.used, World.sent_library, handle, library]
    have hquiet : ¬0 < w.dll.mySqlErrorNumber := fun h => not_lt.mpr quiet ((signs fits).mp h)
    cases cMySqlExecute_outcome host h with
    | rejected query =>
      cases query with
      | noConnection hp => exact absurd hp (val_ne_neg_one i)
      | tooBig hp big => exact absurd fits big
      | pending j hp _ positive => exact absurd positive hquiet
    | failed j hp _ _ drained =>
      obtain rfl : i = j := Fin.ext (by omega)
      rw [handle] at drained
      obtain ⟨v₂, hdrained⟩ := drainResults_returns_alike hused drained
      exact cMySqlExecute_returns fits quiet hdrained
    | succeeded j hp _ _ drained =>
      obtain rfl : i = j := Fin.ext (by omega)
      rw [handle] at drained
      obtain ⟨v₂, hdrained⟩ := drainResults_returns_alike hused drained
      exact cMySqlExecute_returns fits quiet hdrained
  · obtain ⟨v', h'⟩ := cMySqlExecute_returns_rejected (i := i') host turns hquery
    exact ⟨false, v', h'⟩

/-- The calls which send a query on one connection. -/
inductive QueryCall (i : Fin maxConnections) : Exported → Prop
  | execute (q : WStr) : QueryCall i (.execute i.val q)
  | cursorOpen (q : WStr) : QueryCall i (.cursorOpen i.val q)

section QueryCall

variable {e e' : Exported} {r : e.Reply} {r' : e'.Reply}

/-- A query on a connection touches no other connection slot. -/
theorem QueryCall.touchesConnection (h : QueryCall i e) {d : Dll} {j : Fin maxConnections}
    (touches : TouchesConnection d j e) : j = i := by
  cases h <;> exact Fin.ext (by simp only [TouchesConnection] at touches; omega)

/-- A query on a connection registers no connection and gives none back. -/
theorem QueryCall.keeps (h : QueryCall i e) : Registry.KeepsConnections e := by
  cases h <;> trivial

/-- A query on a pair of connections, which writes their numbers and may open a pair of cursors. -/
theorem Sees.of_query (sees : Sees S f w v) (on : QueryCall i e) (on' : QueryCall i' e')
    (h : (call host turns e).run w = .ok (r, w')) (h' : (call host turns e').run v = .ok (r', v'))
    (hi : S.connections i = some i') (agree : AgreeOn Eq i i' w' v') {cursors : Pairing maxCursors}
    {counted : Fin maxCursors → Prop} (faithful : cursors.Faithful S.rival.opens)
    (cursor : ∀ k k', cursors.Corresponds S.rival.opens k k' →
      S.cursors.Corresponds S.rival.opens k k' ∧ ¬TouchesCursor w.dll k e ∧ ¬TouchesCursor v.dll k' e' ∧
          (counted k → S.counted k) ∧ (f' k = true → f k = true) ∨
        SameCursor S.connections S.rival (counted k) (f' k = true) (w'.dll.cursors k) (v'.dll.cursors k'))
    (own : ∀ k', (v'.dll.cursors k').id ≠ -1 → ∃ k, cursors.Corresponds S.rival.opens k k') :
    Sees ⟨S.connections, cursors, Function.update S.numbered i True, counted, S.rival⟩ f' w' v' := by
  have hslot := sees.connection i i' hi
  apply sees.of_calls h h' agree.library
  · rfl
  · exact sees.connectionsFaithful
  · exact faithful
  · intro j j' hj
    by_cases hji : j = i
    · subst hji
      obtain rfl : i' = j' := by
        have hj' : S.connections j = some j' := hj
        rw [hi] at hj'
        exact Option.some.inj hj'
      refine Or.inr ⟨?_, ?_, ?_, fun _ => agree.number⟩
      · rw [call_connection_id h on.keeps]
        exact hslot.live
      · rw [call_connection_id h' on'.keeps]
        exact hslot.live'
      · exact (call_handle h on.keeps j).trans (hslot.handle.trans (call_handle h' on'.keeps i').symm)
    · have hji' : j' ≠ i' := by
        rintro rfl
        exact hji (sees.connectionsFaithful.distinct j i _ hj hi)
      refine Or.inl ⟨hj, fun ht => hji (on.touchesConnection ht), fun ht => hji' (on'.touchesConnection ht), ?_⟩
      intro hnumbered
      dsimp only at hnumbered
      rwa [Function.update_of_ne hji] at hnumbered
  · intro unshared j
    exact (sees.handles unshared j).of_calls h h' on.keeps on'.keeps
  · intro k k' hk
    rcases cursor k k' hk with ⟨hold, htouch, htouch', hcounted, hfetched⟩ | hsame
    · exact Or.inl ⟨hold, htouch, htouch', hcounted, hfetched, fun _ _ _ _ hj => hj⟩
    · exact Or.inr hsame
  · intro j' hlive
    rw [call_connection_id h' on'.keeps] at hlive
    exact sees.ownConnections j' hlive
  · exact own

end QueryCall

/-- Executing a query. -/
theorem Sees.execute (sees : Sees S f w v) (hi : S.connections i = some i')
    (signs : QueryFits q → SignsAgree w v) {b : Bool}
    (h : (call host turns (.execute i.val q)).run w = .ok (b, w')) (hf : ∀ k, f' k = true → f k = true) :
    ∃ v', (call host turns (.execute i'.val q)).run v = .ok (b, v') ∧ Sees (S.withNumber i) f' w' v' := by
  have hhandle : w.handle i = v.handle i' := (sees.connection i i' hi).handle
  obtain ⟨b', v', h'⟩ : ∃ b' v', (call host turns (.execute i'.val q)).run v = .ok (b', v') :=
    cMySqlExecute_returns_alike hhandle sees.library signs h
  obtain ⟨rfl, hagree⟩ := (cMySqlExecute_outcome host h).agree (sameAnswers_eq host (w.handle i))
    (cMySqlExecute_outcome host h') rfl hhandle.symm sees.library signs
  refine ⟨v', h', sees.of_query (.execute q) (.execute q) h h' hi hagree sees.cursorsFaithful ?_ ?_⟩
  · intro k k' hk
    exact Or.inl ⟨hk, not_false, not_false, id, hf k⟩
  · intro k' isOpen
    rw [call_keeps_cursor_slot h' not_false] at isOpen
    exact sees.ownCursors k' isOpen

/-- Storing the record set of a query always comes back from a slot of the table. -/
theorem storeRecordSet_returns (host : Host σ) (k : Fin maxCursors) (i : Fin maxConnections) (q : WStr)
    (w : World σ) : ∃ w', (storeRecordSet host k i.val q).run w = .ok ((), w') := by
  obtain ⟨b, w₁, hquery⟩ := mySqlExecute_returns host i q
    (w.onDll (·.setCursor k fun c => { c with recordSet := none }))
  simp only [storeRecordSet, StateT.run_bind, run_modifyDll, ok_bind, hquery]
  cases b with
  | false => exact ⟨_, rfl⟩
  | true => exact ⟨_, by simp; rfl⟩

/-- On a slot of the table the second half of an opening always returns. -/
theorem concludeOpen_returns (host : Host σ) (k : Fin maxCursors) (i : Fin maxConnections) (w : World σ) :
    ∃ r w', (concludeOpen host k i.val).run w = .ok (r, w') := by
  by_cases hstored : (w.dll.cursors k).recordSet.isSome
  · simp [concludeOpen, hstored]
  · by_cases herror : 0 < host.mysqlErrno (w.dll.connections i).connection w.library
    · simp [concludeOpen, hstored, herror]
    · simp [concludeOpen, hstored, herror]

/-- `cMySqlCursorOpen` always comes back from a slot of the table. -/
theorem cMySqlCursorOpen_returns (host : Host σ) (i : Fin maxConnections) (q : WStr) (w : World σ) :
    ∃ r w', (cMySqlCursorOpen host i.val q).run w = .ok (r, w') := by
  rcases getNewCursorId_cases w.dll with hfull | ⟨k, hfree, -⟩
  · simp [cMySqlCursorOpen, val_ne_neg_one, getNewCursorId_cleared, hfull, -clearCursorErrors_neg_one,
      -clearErrors_val]
  · simp only [cMySqlCursorOpen, StateT.run_bind, run_modifyDll, ok_bind, if_neg (val_ne_neg_one i), run_readDll,
      World.onDll_dll, getNewCursorId_cleared, hfree, slotIndex_val]
    obtain ⟨w₁, hstore⟩ := storeRecordSet_returns host k i q
      ((w.onDll (clearErrors i.val)).onDll (clearCursorErrors (-1)))
    obtain ⟨r, w₂, hconclude⟩ := concludeOpen_returns host k i w₁
    rw [hstore]
    exact ⟨r, w₂, hconclude⟩

/-- How opening ends in both worlds: without a slot, or with one which holds the same record set, or none, in
both. -/
inductive OpensAlike (i i' : Fin maxConnections) (k k' : Fin maxCursors) (w' v' : World σ) : ℤ → ℤ → Prop
  | refused (shut : (w'.dll.cursors k).id = -1) (shut' : (v'.dll.cursors k').id = -1) :
      OpensAlike i i' k k' w' v' (-1) (-1)
  | undecided (shut : (w'.dll.cursors k).id = -1) (shut' : (v'.dll.cursors k').id = -1) :
      OpensAlike i i' k k' w' v' k.val k'.val
  | opened (res : MysqlRes) (h : w'.registry.cursors k = some ((i.val : ℤ), some res))
      (h' : v'.registry.cursors k' = some ((i'.val : ℤ), some res)) : OpensAlike i i' k k' w' v' k.val k'.val

/-- Opening without a record set leaves the slot shut. -/
theorem StoreOutcome.shut {k : Fin maxCursors} {rs : Option MysqlRes} (h : StoreOutcome host i q k w rs w')
    (free : getNewCursorId w.dll = k.val) : (w'.dll.cursors k).id = -1 := by
  have hregistry := h.registry host (getNewCursorId_free free)
  apply (Dll.registry_cursors_eq_none _).mp
  rw [World.dll_registry, hregistry]
  exact (Dll.registry_cursors_eq_none _).mpr (getNewCursorId_free free)

/-- Opening ends alike. -/
theorem OpenOutcome.alike {r r' : ℤ} {k k' : Fin maxCursors} (h : OpenOutcome host i.val q w r w')
    (h' : OpenOutcome host i'.val q v r' v') (handle : w.handle i = v.handle i') (library : w.library = v.library)
    (room : getNewCursorId w.dll = k.val) (room' : getNewCursorId v.dll = k'.val)
    (signs : QueryFits q → SignsAgree w v) : OpensAlike i i' k k' w' v' r r' := by
  have hstores {rs rs' : Option MysqlRes} {w₂ v₂ : World σ} (store : StoreOutcome host i q k w rs w₂)
      (store' : StoreOutcome host i' q k' v rs' v₂) : rs = rs' ∧ AgreeOn Eq i i' w₂ v₂ :=
    store.agree (sameAnswers_eq host (w.handle i)) store' rfl handle.symm library signs
  have hfree {l : Fin maxCursors} (free : getNewCursorId w.dll = l.val) : k = l := Fin.ext (by omega)
  have hfree' {l : Fin maxCursors} (free : getNewCursorId v.dll = l.val) : k' = l := Fin.ext (by omega)
  cases h with
  | noConnection hp => exact absurd hp (val_ne_neg_one i)
  | full j hp none_free => exact absurd (room.symm.trans none_free) (val_ne_neg_one k)
  | opened j hp l free res store =>
    obtain rfl : i = j := Fin.ext (by omega)
    obtain rfl := hfree free
    cases h' with
    | noConnection hp' => exact absurd hp' (val_ne_neg_one i')
    | full j' hp' none_free => exact absurd (room'.symm.trans none_free) (val_ne_neg_one k')
    | opened j' hp' l' free' res' store' =>
      obtain rfl : i' = j' := Fin.ext (by omega)
      obtain rfl := hfree' free'
      obtain ⟨hres, -⟩ := hstores store store'
      obtain rfl : res = res' := Option.some.inj hres
      refine .opened res ?_ ?_
      · simp [World.registry, Dll.registry, val_ne_neg_one, store.recordSet]
      · simp [World.registry, Dll.registry, val_ne_neg_one, store'.recordSet]
    | refused j' hp' l' free' store' =>
      obtain rfl : i' = j' := Fin.ext (by omega)
      obtain rfl := hfree' free'
      obtain ⟨hres, -⟩ := hstores store store'
      cases hres
    | undecided j' hp' l' free' store' =>
      obtain rfl : i' = j' := Fin.ext (by omega)
      obtain rfl := hfree' free'
      obtain ⟨hres, -⟩ := hstores store store'
      cases hres
  | refused j hp l free store positive =>
    obtain rfl : i = j := Fin.ext (by omega)
    obtain rfl := hfree free
    cases h' with
    | noConnection hp' => exact absurd hp' (val_ne_neg_one i')
    | full j' hp' none_free => exact absurd (room'.symm.trans none_free) (val_ne_neg_one k')
    | opened j' hp' l' free' res' store' =>
      obtain rfl : i' = j' := Fin.ext (by omega)
      obtain rfl := hfree' free'
      obtain ⟨hres, -⟩ := hstores store store'
      cases hres
    | refused j' hp' l' free' store' =>
      obtain rfl := hfree' free'
      exact .refused (by simp) (by simp)
    | undecided j' hp' l' free' store' zero =>
      obtain rfl : i' = j' := Fin.ext (by omega)
      obtain rfl := hfree' free'
      obtain ⟨-, hagree⟩ := hstores store store'
      rw [handle, hagree.library] at positive
      omega
  | undecided j hp l free store zero =>
    obtain rfl : i = j := Fin.ext (by omega)
    obtain rfl := hfree free
    cases h' with
    | noConnection hp' => exact absurd hp' (val_ne_neg_one i')
    | full j' hp' none_free => exact absurd (room'.symm.trans none_free) (val_ne_neg_one k')
    | opened j' hp' l' free' res' store' =>
      obtain rfl : i' = j' := Fin.ext (by omega)
      obtain rfl := hfree' free'
      obtain ⟨hres, -⟩ := hstores store store'
      cases hres
    | refused j' hp' l' free' store' positive' =>
      obtain rfl : i' = j' := Fin.ext (by omega)
      obtain rfl := hfree' free'
      obtain ⟨-, hagree⟩ := hstores store store'
      rw [handle, hagree.library] at zero
      omega
    | undecided j' hp' l' free' store' =>
      obtain rfl := hfree' free'
      exact .undecided (by simpa [World.blamed] using store.shut free)
        (by simpa [World.blamed] using store'.shut free')

/-- Opening takes no slot but the one which it returns. -/
theorem open_keeps_free {p r : ℤ} (h : (call host turns (.cursorOpen p q)).run w = .ok (r, w'))
    {k : Fin maxCursors} (hr : r ≠ k.val) (free : (w.dll.cursors k).id = -1) : (w'.dll.cursors k).id = -1 := by
  rw [← Dll.registry_cursors_eq_none] at free ⊢
  have hstep : Registry.Step (.cursorOpen p q) r w.dll.registry w'.dll.registry := call_refines host h
  rcases hstep.open_cases with ⟨l, res, rfl, -, hopen⟩ | hsame
  · have hkl : k ≠ l := by
      rintro rfl
      exact hr rfl
    rw [hopen, Registry.openCursor]
    dsimp only
    rw [Function.update_of_ne hkl, free]
  · rw [hsame, free]

/-- A registered cursor is what its slot holds. -/
theorem cursor_eq_of_registry {k : Fin maxCursors} {p : ℤ} {res : Option MysqlRes}
    (h : w.registry.cursors k = some (p, res)) :
    (w.dll.cursors k).id ≠ -1 ∧ (w.dll.cursors k).connection = p ∧ (w.dll.cursors k).recordSet = res := by
  have hopen : (w.dll.cursors k).id ≠ -1 := by
    intro hid
    rw [World.registry, (Dll.registry_cursors_eq_none _).mpr hid] at h
    cases h
  rw [World.cursor_of_registry hopen, Option.some.injEq, Prod.mk.injEq] at h
  exact ⟨hopen, h⟩

/-- A free cursor slot leaves one of the second world free. -/
theorem Sees.cursor_room (sees : Sees S f w v) (room : getNewCursorId w.dll ≠ -1) :
    getNewCursorId v.dll ≠ -1 := by
  rw [getNewCursorId, Ne, firstSlot_eq_neg_one_iff] at room ⊢
  simp only [decide_eq_false_iff_not, not_forall, not_not] at room ⊢
  obtain ⟨k, hk⟩ := room
  obtain ⟨k', hk'⟩ := sees.cursorsFaithful.exists_free (fun k k' h => (sees.cursor k k' h).isOpen_iff.mpr)
    sees.ownCursors ⟨k, not_not.mpr hk⟩
  exact ⟨k', not_not.mp hk'⟩

/-- A free connection slot leaves one of the second world free. -/
theorem Sees.connection_room (sees : Sees S f w v) (room : getNewConnectionId w.dll ≠ -1) :
    getNewConnectionId v.dll ≠ -1 := by
  rw [getNewConnectionId, Ne, firstSlot_eq_neg_one_iff] at room ⊢
  simp only [decide_eq_false_iff_not, not_forall, not_not] at room ⊢
  obtain ⟨i, hi⟩ := room
  have hfirst : ∀ j j', S.connections.Corresponds S.rival.connects j j' → (v.dll.connections j').id ≠ -1 →
      (w.dll.connections j).id ≠ -1 := by
    rintro j j' (hj | ⟨unshared, rfl⟩) hlive
    · exact (sees.connection j j' hj).live
    · exact fun hfree => hlive ((sees.handles unshared j).free.mp hfree)
  obtain ⟨i', hi'⟩ := sees.connectionsFaithful.exists_free hfirst
    (fun i' hlive => (sees.ownConnections i' hlive).imp fun _ => Or.inl) ⟨i, not_not.mpr hi⟩
  exact ⟨i', not_not.mp hi'⟩

/-- Where nobody else opens cursors, the same slot is free in both worlds. -/
theorem Sees.newCursor_eq (sees : Sees S f w v) (unshared : ¬S.rival.opens) :
    getNewCursorId w.dll = getNewCursorId v.dll := by
  rw [getNewCursorId, getNewCursorId]
  congr 1
  funext k
  exact decide_eq_decide.mpr (sees.cursor k k (Or.inr ⟨unshared, rfl⟩)).shut

/-- When the same connection slots are in use, the searches find the same slot. -/
theorem getNewConnectionId_alike (same : ∀ i, SameHandle (w.dll.connections i) (v.dll.connections i)) :
    getNewConnectionId w.dll = getNewConnectionId v.dll := by
  rw [getNewConnectionId, getNewConnectionId]
  congr 1
  funext i
  exact decide_eq_decide.mpr (same i).free

section Open

variable {k k' : Fin maxCursors}

/-- The first half of an opening keeps the current rows and the cursor numbers of all slots. -/
theorem StoreOutcome.keeps_row {rs : Option MysqlRes} (h : StoreOutcome host i q k w rs w') (l : Fin maxCursors) :
    (w'.dll.cursors l).currentRow = (w.dll.cursors l).currentRow ∧
      (w'.dll.cursors l).cursorErrorNumber = (w.dll.cursors l).cursorErrorNumber := by
  have hopening : ((w.opening i.val k).dll.cursors l).currentRow = (w.dll.cursors l).currentRow ∧
      ((w.opening i.val k).dll.cursors l).cursorErrorNumber = (w.dll.cursors l).cursorErrorNumber := by
    by_cases hlk : l = k <;> simp [World.opening, hlk]
  cases h with
  | rejected query => rwa [query.cursors]
  | stored =>
    by_cases hlk : l = k
    · subst hlk
      simpa using hopening
    · simpa [hlk] using hopening

/-- Opening leaves the rows and the error numbers of all slots. -/
theorem OpenOutcome.keeps_row {p r : ℤ} (h : OpenOutcome host p q w r w') (l : Fin maxCursors) :
    (w'.dll.cursors l).currentRow = (w.dll.cursors l).currentRow ∧
      (w'.dll.cursors l).cursorErrorNumber = (w.dll.cursors l).cursorErrorNumber := by
  cases h with
  | noConnection => simp
  | full => simp
  | opened j hp m free res store =>
    by_cases hlm : l = m
    · subst hlm
      simpa using store.keeps_row l
    · simpa [hlm] using store.keeps_row l
  | refused j hp m free store =>
    by_cases hlm : l = m
    · subst hlm
      simpa [World.blamed] using store.keeps_row l
    · simpa [World.blamed, hlm] using store.keeps_row l
  | undecided j hp m free store => simpa [World.blamed] using store.keeps_row l

/-- The slot which opening found holds the same in both worlds. -/
theorem OpensAlike.same {r r' : ℤ} {counted fetched : Prop} (h : OpensAlike i i' k k' w' v' r r')
    (hi : S.connections i = some i') (isOpen : S.rival.opens → (w'.dll.cursors k).id ≠ -1)
    (row : (S.rival.opens → fetched) → (w'.dll.cursors k).currentRow = (v'.dll.cursors k').currentRow)
    (number : (S.rival.opens → counted) →
      (w'.dll.cursors k).cursorErrorNumber = (v'.dll.cursors k').cursorErrorNumber) :
    SameCursor S.connections S.rival counted fetched (w'.dll.cursors k) (v'.dll.cursors k') := by
  cases h with
  | refused shut shut' | undecided shut shut' =>
    exact ⟨iff_of_true shut shut', isOpen, fun h => absurd shut h, row, number, fun h => absurd shut h⟩
  | opened res h h' =>
    obtain ⟨hopen, howner, hset⟩ := cursor_eq_of_registry h
    obtain ⟨hopen', howner', hset'⟩ := cursor_eq_of_registry h'
    exact ⟨iff_of_false hopen hopen', isOpen, fun _ => hset.trans hset'.symm, row, number,
      fun _ => ⟨i, i', howner, howner', Or.inl hi⟩⟩

/-- The free slots which opening finds in both worlds. -/
structure FreePair (S : Pairs) (w v : World σ) (k k' : Fin maxCursors) : Prop where
  free : getNewCursorId w.dll = k.val
  free' : getNewCursorId v.dll = k'.val
  fresh : ∀ l, S.cursors l = some k' → l = k
  straight : ¬S.rival.opens → k = k'

/-- When there is room in one world, both openings find a free slot, and the two can be paired. -/
theorem Sees.freePair (sees : Sees S f w v) (room : getNewCursorId w.dll ≠ -1) : ∃ k k', FreePair S w v k k' := by
  obtain ⟨k, free, -⟩ := (getNewCursorId_cases w.dll).resolve_left room
  obtain ⟨k', free', -⟩ := (getNewCursorId_cases v.dll).resolve_left (sees.cursor_room room)
  have hkk (unshared : ¬S.rival.opens) : k = k' := by
    have hnew := sees.newCursor_eq unshared
    exact Fin.ext (by omega)
  refine ⟨k, k', free, free', ?_, hkk⟩
  intro l hl
  by_cases hopens : S.rival.opens
  · have hslot := sees.cursor l k' (Or.inl hl)
    exact absurd (getNewCursorId_free free') (hslot.isOpen_iff.mp (hslot.isOpen hopens))
  · rw [hkk hopens]
    exact sees.cursorsFaithful.straight hopens l k' hl

/-- A free slot of the first world corresponds to another one only where nobody else opens cursors. -/
theorem FreePair.corresponds (pair : FreePair S w v k k') (sees : Sees S f w v) {l' : Fin maxCursors}
    (hl : S.cursors.Corresponds S.rival.opens k l') : ¬S.rival.opens ∧ l' = k' := by
  have unshared : ¬S.rival.opens := fun hopens =>
    (sees.cursor k l' hl).isOpen hopens (getNewCursorId_free pair.free)
  exact ⟨unshared, (sees.cursorsFaithful.eq_of_corresponds unshared hl).symm.trans (pair.straight unshared)⟩

/-- Opening touches only the free slot. -/
theorem FreePair.untouched (pair : FreePair S w v k k') {l l' : Fin maxCursors}
    (hl : S.cursors.Corresponds S.rival.opens l l') (hlk : l ≠ k) :
    ¬TouchesCursor w.dll l (.cursorOpen i.val q) ∧ ¬TouchesCursor v.dll l' (.cursorOpen i'.val q) := by
  have hfree := pair.free
  have hfree' := pair.free'
  refine ⟨fun ht => hlk (Fin.ext (by simp only [TouchesCursor] at ht; omega)), fun ht => ?_⟩
  obtain rfl : l' = k' := Fin.ext (by simp only [TouchesCursor] at ht; omega)
  rcases hl with hl | ⟨unshared, rfl⟩
  · exact hlk (pair.fresh l hl)
  · exact hlk (pair.straight unshared).symm

/-- A slot of the second world which is open after opening was open before, unless it was the free one. -/
theorem FreePair.open_before (pair : FreePair S w v k k') {r' : ℤ}
    (h' : (call host turns (.cursorOpen i'.val q)).run v = .ok (r', v')) {l' : Fin maxCursors} (hlk : l' ≠ k')
    (isOpen : (v'.dll.cursors l').id ≠ -1) : (v.dll.cursors l').id ≠ -1 := by
  have hfree' := pair.free'
  rwa [call_keeps_cursor_slot h' fun ht => hlk (Fin.ext (by simp only [TouchesCursor] at ht; omega))] at isOpen

/-- The rows and error numbers in the free slots, where nobody else opens cursors. -/
theorem FreePair.rest (pair : FreePair S w v k k') (sees : Sees S f w v) (unshared : ¬S.rival.opens) {r r' : ℤ}
    (h : OpenOutcome host i.val q w r w') (h' : OpenOutcome host i'.val q v r' v') :
    (w'.dll.cursors k).currentRow = (v'.dll.cursors k').currentRow ∧
      (w'.dll.cursors k).cursorErrorNumber = (v'.dll.cursors k').cursorErrorNumber := by
  obtain rfl := pair.straight unshared
  have hslot := sees.cursor k k (Or.inr ⟨unshared, rfl⟩)
  rw [(h.keeps_row k).1, (h'.keeps_row k).1, (h.keeps_row k).2, (h'.keeps_row k).2]
  exact ⟨hslot.row fun hopens => absurd hopens unshared, hslot.number fun hopens => absurd hopens unshared⟩

section Opened

variable {r r' : ℤ} (pair : FreePair S w v k k') (sees : Sees S f w v) (hi : S.connections i = some i')
  (h : (call host turns (.cursorOpen i.val q)).run w = .ok (r, w'))
  (h' : (call host turns (.cursorOpen i'.val q)).run v = .ok (r', v')) (agree : AgreeOn Eq i i' w' v')
  (alike : OpensAlike i i' k k' w' v' r r') (hf : ∀ k, f' k = true → f k = true)

include pair sees hi h h' agree alike hf

/-- Opening which gives no slot. -/
theorem FreePair.refused (shut' : (v'.dll.cursors k').id = -1) : Sees (S.withNumber i) f' w' v' := by
  refine sees.of_query (.cursorOpen q) (.cursorOpen q) h h' hi agree sees.cursorsFaithful ?_ ?_
  · intro l l' hl
    by_cases hlk : l = k
    · subst hlk
      obtain ⟨unshared, rfl⟩ := pair.corresponds sees hl
      have hrest := pair.rest sees unshared (cMySqlCursorOpen_outcome host h) (cMySqlCursorOpen_outcome host h')
      exact Or.inr (alike.same hi (fun hopens => absurd hopens unshared) (fun _ => hrest.1) fun _ => hrest.2)
    · obtain ⟨htouch, htouch'⟩ := pair.untouched hl hlk
      exact Or.inl ⟨hl, htouch, htouch', id, hf l⟩
  · intro l' isOpen
    have hlk : l' ≠ k' := by
      rintro rfl
      exact isOpen shut'
    exact sees.ownCursors l' (pair.open_before h' hlk isOpen)

/-- Opening which gives the free slot. -/
theorem FreePair.taken (isOpen : S.rival.opens → (w'.dll.cursors k).id ≠ -1) (hnew : f' k = false) :
    Sees ((S.withNumber i).addCursor k k') f' w' v' := by
  refine sees.of_query (.cursorOpen q) (.cursorOpen q) h h' hi agree ?_ ?_ ?_
  · exact sees.cursorsFaithful.take pair.fresh pair.straight
  · intro l l' hl
    by_cases hlk : l = k
    · subst hlk
      obtain rfl : l' = k' := by
        rcases hl with hl | ⟨unshared, rfl⟩
        · rw [Pairs.withNumber, Function.update_self] at hl
          exact (Option.some.inj hl).symm
        · exact pair.straight unshared
      have hrest (unshared : ¬S.rival.opens) :=
        pair.rest sees unshared (cMySqlCursorOpen_outcome host h) (cMySqlCursorOpen_outcome host h')
      refine Or.inr (alike.same hi isOpen ?_ ?_)
      · intro hfetched
        apply (hrest _).1
        intro hopens
        rw [hnew] at hfetched
        cases hfetched hopens
      · intro hcounted
        apply (hrest _).2
        intro hopens
        rw [Function.update_self] at hcounted
        exact (hcounted hopens).elim
    · have hl : S.cursors.Corresponds S.rival.opens l l' := by
        rcases hl with hl | hl
        · rw [Pairs.withNumber, Function.update_of_ne hlk] at hl
          exact Or.inl hl
        · exact Or.inr hl
      obtain ⟨htouch, htouch'⟩ := pair.untouched hl hlk
      refine Or.inl ⟨hl, htouch, htouch', ?_, hf l⟩
      rw [Function.update_of_ne hlk]
      exact id
  · intro l' isOpen'
    by_cases hlk' : l' = k'
    · subst hlk'
      exact ⟨k, Or.inl (Function.update_self ..)⟩
    · obtain ⟨l, hl⟩ := sees.ownCursors l' (pair.open_before h' hlk' isOpen')
      have hlk : l ≠ k := by
        rintro rfl
        exact hlk' (pair.corresponds sees hl).2
      exact ⟨l, hl.imp_left fun hl => by rw [Function.update_of_ne hlk]; exact hl⟩

end Opened

/-- Opening a cursor, which is decided where others open cursors as well. -/
theorem Sees.cursorOpen (sees : Sees S f w v) (hi : S.connections i = some i')
    (signs : QueryFits q → SignsAgree w v) (room : getNewCursorId w.dll ≠ -1)
    (decided : S.rival.opens → Decided host w (.cursorOpen i.val q)) {r : ℤ}
    (h : (call host turns (.cursorOpen i.val q)).run w = .ok (r, w')) (hf : ∀ k, f' k = true → f k = true)
    (hnew : ∀ k, (w.dll.cursors k).id = -1 → f' k = false) :
    ∃ r' v' S', (call host turns (.cursorOpen i'.val q)).run v = .ok (r', v') ∧ GivesCursor S i r r' S' ∧
      Sees S' f' w' v' := by
  have hhandle : w.handle i = v.handle i' := (sees.connection i i' hi).handle
  obtain ⟨r', v', h'⟩ : ∃ r' v', (call host turns (.cursorOpen i'.val q)).run v = .ok (r', v') :=
    cMySqlCursorOpen_returns host i' q v
  have houtcome := cMySqlCursorOpen_outcome host h
  have houtcome' := cMySqlCursorOpen_outcome host h'
  obtain ⟨-, hagree, -⟩ := houtcome.agree (sameAnswers_eq host (w.handle i)) houtcome' rfl hhandle.symm
    sees.library (iff_of_false room (sees.cursor_room room)) fun fits _ => signs fits
  obtain ⟨k, k', pair⟩ := sees.freePair room
  have halike := houtcome.alike houtcome' hhandle sees.library pair.free pair.free' signs
  have hfree := getNewCursorId_free pair.free
  have hgives : S.cursors k = none ∨ ¬S.rival.opens ∧ S.cursors k = some k' := by
    cases hk : S.cursors k with
    | none => exact Or.inl rfl
    | some l' =>
      obtain ⟨unshared, rfl⟩ := pair.corresponds sees (Or.inl hk)
      exact Or.inr ⟨unshared, rfl⟩
  cases halike with
  | refused shut shut' =>
    exact ⟨-1, v', S.withNumber i, h', Or.inl ⟨rfl, rfl, rfl⟩,
      pair.refused sees hi h h' hagree (.refused shut shut') hf shut'⟩
  | undecided shut shut' =>
    refine ⟨k'.val, v', (S.withNumber i).addCursor k k', h', Or.inr ⟨k, k', rfl, rfl, hgives, rfl⟩,
      pair.taken sees hi h h' hagree (.undecided shut shut') hf ?_ (hnew k hfree)⟩
    intro hopens
    rcases houtcome.of_decided (decided hopens) with ⟨hr, -⟩ | ⟨l, res, m, made, hl, -, hregistry, -, -⟩
    · exact absurd hr (val_ne_neg_one k)
    · obtain rfl : k = l := Fin.ext (by omega)
      apply (cursor_eq_of_registry _).1
      · exact (i.val : ℤ)
      · exact some res
      · rw [hregistry]
        exact Function.update_self ..
  | opened res hopened hopened' =>
    exact ⟨k'.val, v', (S.withNumber i).addCursor k k', h', Or.inr ⟨k, k', rfl, rfl, hgives, rfl⟩,
      pair.taken sees hi h h' hagree (.opened res hopened hopened') hf
        (fun _ => (cursor_eq_of_registry hopened).1) (hnew k hfree)⟩

end Open

/-- Connecting takes no slot but the one which it returns. -/
theorem ConnectOutcome.keeps_free {c : Credentials} {r : ℤ} (h : ConnectOutcome host c w r w') (hr : r ≠ i.val)
    (free : (w.dll.connections i).id = -1) : (w'.dll.connections i).id = -1 := by
  cases h with
  | full => simpa using free
  | unallocated => simpa using free
  | refused j =>
    by_cases hij : i = j
    · subst hij
      simpa [World.asked] using free
    · simpa [World.asked, hij] using free
  | connected j =>
    have hij : i ≠ j := by
      rintro rfl
      exact hr rfl
    simpa [World.asked, hij] using free

/-- Where the slots had the same handles, connecting leaves the same handles in them. -/
theorem ConnectOutcome.handles {c : Credentials} {r r' : ℤ} (h : ConnectOutcome host c w r w')
    (h' : ConnectOutcome host c v r' v') (library : w.library = v.library)
    (same : ∀ i, SameHandle (w.dll.connections i) (v.dll.connections i)) (j : Fin maxConnections) :
    SameHandle (w'.dll.connections j) (v'.dll.connections j) := by
  have hslot := getNewConnectionId_alike same
  have hanswer (m : Mysql) : v.connectAnswer host c m = w.connectAnswer host c m := by
    simp [World.connectAnswer, library]
  cases h with
  | full none_free =>
    cases h' with
    | full => simpa using same j
    | unallocated => simpa using same j
    | refused l free => exact absurd (free.symm.trans (hslot.symm.trans none_free)) (val_ne_neg_one l)
    | connected l free => exact absurd (free.symm.trans (hslot.symm.trans none_free)) (val_ne_neg_one l)
  | unallocated answer =>
    cases h' with
    | full => simpa using same j
    | unallocated => simpa using same j
    | refused l free m allocated | connected l free m allocated =>
      rw [← library, answer] at allocated
      cases allocated
  | refused i free m allocated answer =>
    cases h' with
    | full none_free => exact absurd (free.symm.trans (hslot.trans none_free)) (val_ne_neg_one i)
    | unallocated answer' =>
      rw [← library, allocated] at answer'
      cases answer'
    | refused l free' m' allocated' =>
      rw [← library, allocated] at allocated'
      cases allocated'
      obtain rfl : i = l := Fin.ext (by omega)
      by_cases hji : j = i
      · subst hji
        exact ⟨by simpa [World.asked] using (same j).free, by simp [hanswer]⟩
      · simpa [World.asked, hji] using same j
    | connected l free' m' allocated' answer' =>
      rw [← library, allocated] at allocated'
      cases allocated'
      rw [hanswer] at answer'
      exact absurd answer' answer
  | connected i free m allocated answer =>
    cases h' with
    | full none_free => exact absurd (free.symm.trans (hslot.trans none_free)) (val_ne_neg_one i)
    | unallocated answer' =>
      rw [← library, allocated] at answer'
      cases answer'
    | refused l free' m' allocated' answer' =>
      rw [← library, allocated] at allocated'
      cases allocated'
      rw [hanswer] at answer'
      exact absurd answer answer'
    | connected l free' m' allocated' =>
      rw [← library, allocated] at allocated'
      cases allocated'
      obtain rfl : i = l := Fin.ext (by omega)
      by_cases hji : j = i
      · subst hji
        exact ⟨by simp, by simp⟩
      · simpa [World.asked, hji] using same j

/-- Connecting ends alike: no connection in both worlds, or one with the same handle in both. -/
theorem ConnectOutcome.alike {c : Credentials} {r r' : ℤ} (h : ConnectOutcome host c w r w')
    (h' : ConnectOutcome host c v r' v') (library : w.library = v.library)
    (room : getNewConnectionId w.dll ≠ -1) (room' : getNewConnectionId v.dll ≠ -1) :
    w'.library = v'.library ∧ w'.dll.mySqlErrorNumber = v'.dll.mySqlErrorNumber ∧
      (r = -1 ∧ r' = -1 ∨ ∃ (i i' : Fin maxConnections) (m : Mysql),
        getNewConnectionId w.dll = i.val ∧ getNewConnectionId v.dll = i'.val ∧ r = i.val ∧ r' = i'.val ∧
          (w'.dll.connections i).id = i.val ∧ (v'.dll.connections i').id = i'.val ∧
            w'.handle i = some m ∧ v'.handle i' = some m) := by
  have hanswer (m : Mysql) : v.connectAnswer host c m = w.connectAnswer host c m := by
    simp [World.connectAnswer, library]
  have hasked (m : Mysql) : (v.asked host c m).library = (w.asked host c m).library := by
    simp [World.asked, library]
  cases h with
  | full none_free => exact absurd none_free room
  | unallocated answer =>
    cases h' with
    | full none_free => exact absurd none_free room'
    | unallocated => exact ⟨by simp [library], by simp, Or.inl ⟨rfl, rfl⟩⟩
    | refused j' free' m' allocated' =>
      rw [← library, answer] at allocated'
      cases allocated'
    | connected j' free' m' allocated' =>
      rw [← library, answer] at allocated'
      cases allocated'
  | refused j free m allocated answer =>
    cases h' with
    | full none_free => exact absurd none_free room'
    | unallocated answer' =>
      rw [← library, allocated] at answer'
      cases answer'
    | refused j' free' m' allocated' =>
      rw [← library, allocated] at allocated'
      cases allocated'
      exact ⟨by simp [hasked], by simp [hasked], Or.inl ⟨rfl, rfl⟩⟩
    | connected j' free' m' allocated' answer' =>
      rw [← library, allocated] at allocated'
      cases allocated'
      rw [hanswer] at answer'
      exact absurd answer' answer
  | connected j free m allocated answer =>
    cases h' with
    | full none_free => exact absurd none_free room'
    | unallocated answer' =>
      rw [← library, allocated] at answer'
      cases answer'
    | refused j' free' m' allocated' answer' =>
      rw [← library, allocated] at allocated'
      cases allocated'
      rw [hanswer] at answer'
      exact absurd answer answer'
    | connected j' free' m' allocated' =>
      rw [← library, allocated] at allocated'
      cases allocated'
      refine ⟨by simp [hasked], by simp [World.asked], Or.inr ⟨j, j', m, free, free', rfl, rfl, ?_⟩⟩
      simp [World.handle]

/-- Connecting, which also writes the DLL-wide number. -/
theorem Sees.connect (sees : Sees S f w v) {c : Credentials} (room : getNewConnectionId w.dll ≠ -1) {r : ℤ}
    (h : (call host turns (.connect c)).run w = .ok (r, w')) (hf : ∀ k, f' k = true → f k = true) :
    ∃ r' v' S', (call host turns (.connect c)).run v = .ok (r', v') ∧ GivesConnection S r r' S' ∧
      Sees S' f' w' v' ∧ w'.dll.mySqlErrorNumber = v'.dll.mySqlErrorNumber := by
  have room' := sees.connection_room room
  obtain ⟨r', v', h'⟩ : ∃ r' v', (call host turns (.connect c)).run v = .ok (r', v') :=
    connect_returns (Or.inr ((credentialsFit_of_connect h).resolve_left room))
  have houtcome' := cMySqlConnect_outcome host h'
  have hcursor : ∀ k', (v'.dll.cursors k').id ≠ -1 → ∃ k, S.cursors.Corresponds S.rival.opens k k' := by
    intro k' isOpen
    rw [call_keeps_cursor_slot h' not_false] at isOpen
    exact sees.ownCursors k' isOpen
  have hhandles : ¬S.rival.connects → ∀ i, SameHandle (w'.dll.connections i) (v'.dll.connections i) :=
    fun unshared => (cMySqlConnect_outcome host h).handles houtcome' sees.library (sees.handles unshared)
  obtain ⟨hlibrary, hnumber, hfailed | ⟨i, i', m, free, free', rfl, rfl, hid, hid', hhandle, hhandle'⟩⟩ :=
    (cMySqlConnect_outcome host h).alike houtcome' sees.library room room'
  · obtain ⟨rfl, rfl⟩ := hfailed
    refine ⟨-1, v', S, h', Or.inl ⟨rfl, rfl, rfl⟩, ?_, hnumber⟩
    apply sees.of_calls h h' hlibrary rfl sees.connectionsFaithful sees.cursorsFaithful
    · intro i i' hi
      have hslot := sees.connection i i' hi
      exact Or.inl ⟨hi, fun ht => hslot.live (getNewConnectionId_free ht),
        fun ht => hslot.live' (getNewConnectionId_free ht), id⟩
    · exact hhandles
    · intro k k' hk
      exact Or.inl ⟨hk, not_false, not_false, id, hf k, fun _ _ _ _ hi => hi⟩
    · intro i' hlive
      apply sees.ownConnections i'
      intro hfree
      exact hlive (houtcome'.keeps_free (val_ne_neg_one i').symm hfree)
    · exact hcursor
  · have hnone : S.connections i = none := by
      cases hi : S.connections i with
      | none => rfl
      | some j' => exact absurd (getNewConnectionId_free free) (sees.connection i j' hi).live
    have hother {j : Fin maxConnections} (hj : S.connections j ≠ none) :
        (S.addConnection i i').connections j = S.connections j := by
      apply Function.update_of_ne
      rintro rfl
      exact hj hnone
    refine ⟨i'.val, v', S.addConnection i i', h', Or.inr ⟨i, i', rfl, rfl, hnone, rfl⟩, ?_, hnumber⟩
    refine sees.of_calls h h' hlibrary rfl ?_ sees.cursorsFaithful ?_ hhandles ?_ ?_ hcursor
    · apply sees.connectionsFaithful.take
      · intro j hj
        exact absurd (getNewConnectionId_free free') (sees.connection j i' hj).live'
      · intro unshared
        have hslot := getNewConnectionId_alike (sees.handles unshared)
        exact Fin.ext (by omega)
    · intro j j' hj
      rcases Pairing.take_eq_some_iff.mp hj with ⟨rfl, rfl⟩ | ⟨hji, hj⟩
      · refine Or.inr ⟨?_, ?_, hhandle.trans hhandle'.symm, ?_⟩
        · rw [hid]
          exact val_ne_neg_one j
        · rw [hid']
          exact val_ne_neg_one i'
        · intro hnumbered
          rw [Pairs.addConnection_numbered, Function.update_self] at hnumbered
          exact hnumbered.elim
      · have hslot := sees.connection j j' hj
        refine Or.inl ⟨hj, fun ht => hslot.live (getNewConnectionId_free ht),
          fun ht => hslot.live' (getNewConnectionId_free ht), ?_⟩
        rw [Pairs.addConnection_numbered, Function.update_of_ne hji]
        exact id
    · intro k k' hk
      refine Or.inl ⟨hk, not_false, not_false, id, hf k, ?_⟩
      rintro j j' - - (hj | hj)
      · exact Or.inl (by rwa [hother (by rw [hj]; simp)])
      · exact Or.inr hj
    · intro j' hlive
      by_cases hji : j' = i'
      · subst hji
        exact ⟨i, Function.update_self ..⟩
      · obtain ⟨j, hj⟩ := sees.ownConnections j' fun hfree =>
          hlive (houtcome'.keeps_free (fun hij => hji (Fin.ext (by omega))) hfree)
        exact ⟨j, by rwa [hother (by rw [hj]; simp)]⟩

/-- Disconnecting, when no cursor is open on the connection where others connect as well. -/
theorem Sees.disconnect (sees : Sees S f w v) (hi : S.connections i = some i')
    (idle : S.rival.connects → LeavesNoCursor w.dll (.disconnect i.val))
    (h : (call host turns (.disconnect i.val)).run w = .ok ((), w')) (hf : ∀ k, f' k = true → f k = true) :
    ∃ v', (call host turns (.disconnect i'.val)).run v = .ok ((), v') ∧
      Sees (S.dropConnection i) f' w' v' := by
  have hslot := sees.connection i i' hi
  obtain ⟨v', h'⟩ : ∃ v', (call host turns (.disconnect i'.val)).run v = .ok ((), v') := by
    have hlive' : (clearErrors i'.val v.dll).liveConnection i'.val = some i' := by
      rw [liveConnection_congr (clearErrors_id v.dll _)]
      exact liveConnection_eq_some_iff.mpr ⟨rfl, hslot.live'⟩
    simp [call, cMySqlDisconnect, hlive', -clearErrors_val]
  have hsame : w'.library = v'.library ∧ (v'.dll.connections i').id = -1 ∧
      SameHandle (w'.dll.connections i) (v'.dll.connections i') := by
    cases cMySqlDisconnect_outcome host h with
    | dead dead =>
      rw [liveConnection_eq_some_iff.mpr ⟨rfl, hslot.live⟩] at dead
      cases dead
    | closed j hj =>
      obtain rfl : i = j := Fin.ext (by omega)
      cases cMySqlDisconnect_outcome host h' with
      | dead dead =>
        rw [liveConnection_eq_some_iff.mpr ⟨rfl, hslot.live'⟩] at dead
        cases dead
      | closed j' hj' =>
        obtain rfl : i' = j' := Fin.ext (by omega)
        have hhandle : w.handle i = v.handle i' := hslot.handle
        exact ⟨by simp [hhandle, sees.library], by simp, by simp, by simpa using hslot.handle⟩
  obtain ⟨hlibrary, hdead, hhandle⟩ := hsame
  have hother {j j' : Fin maxConnections} :
      (S.dropConnection i).connections j = some j' ↔ j ≠ i ∧ S.connections j = some j' :=
    Pairing.drop_eq_some_iff
  have huntouched {j l : Fin maxConnections} {d : Dll} (hlj : l ≠ j) :
      ¬TouchesConnection d l (.disconnect j.val) :=
    fun ht => hlj (Fin.ext (by simp only [TouchesConnection] at ht; omega))
  refine ⟨v', h', sees.of_calls h h' hlibrary rfl (sees.connectionsFaithful.drop i) sees.cursorsFaithful
    ?_ ?_ ?_ ?_ ?_⟩
  · intro j j' hj
    obtain ⟨hji, hj⟩ := hother.mp hj
    have hji' : j' ≠ i' := by
      rintro rfl
      exact hji (sees.connectionsFaithful.distinct j i _ hj hi)
    exact Or.inl ⟨hj, huntouched hji, huntouched hji', id⟩
  · intro unshared j
    obtain rfl : i = i' := sees.connectionsFaithful.straight unshared i i' hi
    by_cases hji : j = i
    · rw [hji]
      exact hhandle
    · rw [call_keeps_connection_slot h (huntouched hji), call_keeps_connection_slot h' (huntouched hji)]
      exact sees.handles unshared j
  · intro k k' hk
    refine Or.inl ⟨hk, not_false, not_false, id, hf k, ?_⟩
    rintro j j' isOpen howner (hj | hj)
    · by_cases hji : j = i
      · subst hji
        have unshared : ¬S.rival.connects := fun hconnects => idle hconnects k isOpen howner
        exact Or.inr ⟨unshared, sees.connectionsFaithful.straight unshared j j' hj⟩
      · exact Or.inl (hother.mpr ⟨hji, hj⟩)
    · exact Or.inr hj
  · intro j' hlive
    have hji' : j' ≠ i' := by
      rintro rfl
      exact hlive hdead
    rw [call_keeps_connection_slot h' (huntouched hji')] at hlive
    obtain ⟨j, hj⟩ := sees.ownConnections j' hlive
    have hji : j ≠ i := by
      rintro rfl
      rw [hi] at hj
      exact hji' (Option.some.inj hj).symm
    exact ⟨j, hother.mpr ⟨hji, hj⟩⟩
  · intro k' isOpen
    rw [call_keeps_cursor_slot h' not_false] at isOpen
    exact sees.ownCursors k' isOpen

/-- Counting the affected rows. -/
theorem Sees.rowsAffected (sees : Sees S f w v) (hi : S.connections i = some i') {n : ℤ}
    (h : (call host turns (.rowsAffected i.val)).run w = .ok (n, w')) (hf : ∀ k, f' k = true → f k = true) :
    ∃ v', (call host turns (.rowsAffected i'.val)).run v = .ok (n, v') ∧ Sees S f' w' v' := by
  have hhandle : w.handle i = v.handle i' := (sees.connection i i' hi).handle
  cases cMySqlRowsAffected_outcome host h with
  | noConnection hp => exact absurd hp (val_ne_neg_one i)
  | counted j hj =>
    obtain rfl : i = j := Fin.ext (by omega)
    have h' : (call host turns (.rowsAffected i'.val)).run v =
        .ok (intOfUInt64 (host.mysqlAffectedRows (w.handle i) w.library),
          v.inspected (.affectedRows (v.handle i'))) := by
      have hread : (v.dll.connections i').connection = w.handle i := hhandle.symm
      simp [call, cMySqlRowsAffected, val_ne_neg_one, hread, sees.library, hhandle]
    refine ⟨_, h', sees.of_untouched h h' sees.library hf ?_ ?_⟩
    · exact fun _ _ => ⟨not_false, not_false⟩
    · exact fun _ _ => ⟨not_false, not_false⟩

end MqlMySql
