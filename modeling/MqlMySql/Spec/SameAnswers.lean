import MqlMySql.Spec.Handles
import MqlMySql.Spec.Opening

/-!
# Two libraries which give the same answers on a handle

Two runs of the DLL are compared on one connection. Their library states are related when the
library answers alike on the handle of that connection, and goes on to do so. Then sending a query,
draining its results, executing and opening a cursor give the same results in both, unless the
DLL-wide error number is positive in one of them only.
-/

namespace MqlMySql

open Library

variable {σ : Type}

/-- In related states the library answers alike on one handle, and every call on that handle leads to
related states again. -/
structure SameAnswers (host : Host σ) (mysql : Option Mysql) (R : σ → σ → Prop) : Prop where
  query : ∀ {s s'}, R s s' → ∀ q n,
    R (host.mysqlRealQuery mysql q n s).2 (host.mysqlRealQuery mysql q n s').2
  errno : ∀ {s s'}, R s s' → host.mysqlErrno mysql s = host.mysqlErrno mysql s'
  use : ∀ {s s'}, R s s' → R (host.mysqlUseResult mysql s).2 (host.mysqlUseResult mysql s').2
  store : ∀ {s s'}, R s s' →
    (host.mysqlStoreResult mysql s).1 = (host.mysqlStoreResult mysql s').1 ∧
      R (host.mysqlStoreResult mysql s).2 (host.mysqlStoreResult mysql s').2
  more : ∀ {s s'}, R s s' → host.mysqlMoreResults mysql s = host.mysqlMoreResults mysql s'
  next : ∀ {s s'}, R s s' →
    (host.mysqlNextResult mysql s).1 = (host.mysqlNextResult mysql s').1 ∧
      R (host.mysqlNextResult mysql s).2 (host.mysqlNextResult mysql s').2
  free : ∀ {s s'}, R s s' → ∀ res, R (host.mysqlFreeResult res s) (host.mysqlFreeResult res s')

variable {host : Host σ} {mysql : Option Mysql} {R : σ → σ → Prop} {w v w₁ v₁ : World σ}

/-- Taking a result in both worlds keeps the libraries in the relation. -/
theorem World.taken_agree (same : SameAnswers host mysql R) (start : R w.library v.library) :
    R (w.taken host mysql).library (v.taken host mysql).library := by
  obtain ⟨hanswer, hafter⟩ := same.store start
  simp only [World.taken, ← hanswer]
  split
  · exact same.free hafter _
  · exact hafter

/-- The result loops of both runs end alike. -/
theorem drainResults_agree (same : SameAnswers host mysql R) {turns : ℕ}
    {rSet rSet' : Option MysqlRes} (start : R w.library v.library)
    (h : (drainResults host mysql turns).run w = .ok (rSet, w₁))
    (h' : (drainResults host mysql turns).run v = .ok (rSet', v₁)) :
    rSet = rSet' ∧ R w₁.library v₁.library := by
  induction turns generalizing w v with
  | zero => simp [drainResults] at h
  | succ turns ih =>
    have htaken := World.taken_agree same start
    have hmore := same.more htaken
    obtain ⟨hstatus, hnext⟩ := same.next htaken
    rw [run_drainResults_succ] at h h'
    rw [← hmore, ← hstatus, ← (same.store start).1] at h'
    split at h
    · split at h
      · rename_i more status
        rw [if_pos more, if_pos status] at h'
        exact ih hnext h h'
      · rename_i more status
        rw [if_pos more, if_neg status] at h'
        cases h
        cases h'
        exact ⟨rfl, hnext⟩
    · rename_i more
      rw [if_neg more] at h'
      cases h
      cases h'
      exact ⟨rfl, htaken⟩

/-- The DLL-wide error number is positive in both worlds or in neither. -/
def SignsAgree (w v : World σ) : Prop :=
  0 < w.dll.mySqlErrorNumber ↔ 0 < v.dll.mySqlErrorNumber

instance (w v : World σ) : Decidable (SignsAgree w v) := inferInstanceAs (Decidable (_ ↔ _))

/-- What two runs have in common after a call: related libraries, and the same number in the slots of
the connection. -/
structure AgreeOn (R : σ → σ → Prop) (i i' : Fin maxConnections) (w v : World σ) : Prop where
  library : R w.library v.library
  number : (w.dll.connections i).mySqlErrorNumber = (v.dll.connections i').mySqlErrorNumber

section Slots

variable {i i' : Fin maxConnections} {q : WStr}

/-- Sending one query in both worlds keeps the libraries in the relation and the errors of the slots the same. -/
theorem World.sent_agree (same : SameAnswers host mysql R) (hw : w.handle i = mysql)
    (hv : v.handle i' = mysql) (start : R w.library v.library) :
    AgreeOn R i i' (w.sent host i q) (v.sent host i' q) := by
  have hlibrary : R (w.sent host i q).library (v.sent host i' q).library := by
    rw [World.sent_library, World.sent_library, hw, hv]
    exact same.query start _ _
  refine ⟨hlibrary, ?_⟩
  rw [World.sent_number, World.sent_number, World.sentErrno, World.sentErrno, hw, hv,
    same.errno hlibrary]

/-- Both runs accept the query or both do not. -/
theorem QueryOutcome.agree (same : SameAnswers host mysql R) {b b' : Bool}
    (h : QueryOutcome host i.val q w b w₁) (h' : QueryOutcome host i'.val q v b' v₁)
    (hw : w.handle i = mysql) (hv : v.handle i' = mysql) (start : R w.library v.library)
    (signs : QueryFits q → SignsAgree w v) : b = b' ∧ AgreeOn R i i' w₁ v₁ := by
  have hsent : AgreeOn R i i' (w.sent host i q) (v.sent host i' q) :=
    World.sent_agree same hw hv start
  cases h with
  | noConnection hp => exact absurd hp (val_ne_neg_one i)
  | tooBig hp big =>
    cases h' with
    | noConnection hp' => exact absurd hp' (val_ne_neg_one i')
    | tooBig => exact ⟨rfl, start, by simp⟩
    | pending _ _ fits => exact absurd fits big
    | executed _ _ fits => exact absurd fits big
  | pending j hp fits positive =>
    obtain rfl : i = j := Fin.ext (by omega)
    have positive' : 0 < v.dll.mySqlErrorNumber := (signs fits).mp positive
    cases h' with
    | noConnection hp' => exact absurd hp' (val_ne_neg_one i')
    | tooBig _ big => exact absurd fits big
    | pending j' hp' =>
      obtain rfl : i' = j' := Fin.ext (by omega)
      exact ⟨rfl, hsent.library, by simpa using hsent.number⟩
    | executed _ _ _ quiet => omega
  | executed j hp fits quiet =>
    obtain rfl : i = j := Fin.ext (by omega)
    have quiet' : ¬ 0 < v.dll.mySqlErrorNumber := fun h => not_lt.mpr quiet ((signs fits).mpr h)
    cases h' with
    | noConnection hp' => exact absurd hp' (val_ne_neg_one i')
    | tooBig _ big => exact absurd fits big
    | pending _ _ _ positive => exact absurd positive quiet'
    | executed j' hp' =>
      obtain rfl : i' = j' := Fin.ext (by omega)
      exact ⟨rfl, hsent⟩

/-- Executing gives the same answer and the same number in both runs. -/
theorem ExecuteOutcome.agree (same : SameAnswers host mysql R) {turns : ℕ} {b b' : Bool}
    (h : ExecuteOutcome host turns i.val q w b w₁)
    (h' : ExecuteOutcome host turns i'.val q v b' v₁)
    (hw : w.handle i = mysql) (hv : v.handle i' = mysql) (start : R w.library v.library)
    (signs : QueryFits q → SignsAgree w v) : b = b' ∧ AgreeOn R i i' w₁ v₁ := by
  have hsent : AgreeOn R i i' (w.sent host i q) (v.sent host i' q) :=
    World.sent_agree same hw hv start
  have hused : R ((w.sent host i q).used host i).library ((v.sent host i' q).used host i').library := by
    simp only [World.used, World.performed_library, World.sent_handle, hw, hv]
    exact same.use hsent.library
  cases h with
  | rejected query =>
    cases h' with
    | rejected query' => exact query.agree same query' hw hv start signs
    | failed j' hp' fits quiet =>
      obtain ⟨hfalse, -⟩ := query.agree same (.executed j' hp' fits quiet) hw hv start signs
      cases hfalse
    | succeeded j' hp' fits quiet =>
      obtain ⟨hfalse, -⟩ := query.agree same (.executed j' hp' fits quiet) hw hv start signs
      cases hfalse
  | failed j hp fits quiet drained positive =>
    obtain rfl : i = j := Fin.ext (by omega)
    cases h' with
    | rejected query' =>
      obtain ⟨hfalse, -⟩ := QueryOutcome.agree same (.executed i hp fits quiet) query' hw hv start signs
      cases hfalse
    | failed j' hp' _ _ drained' =>
      obtain rfl : i' = j' := Fin.ext (by omega)
      rw [hw] at drained
      rw [hv] at drained'
      obtain ⟨rfl, hdrained⟩ := drainResults_agree same hused drained drained'
      refine ⟨rfl, same.free hdrained _, ?_⟩
      simp [hw, hv, same.errno hdrained]
    | succeeded j' hp' _ _ drained' zero =>
      obtain rfl : i' = j' := Fin.ext (by omega)
      rw [hw] at drained positive
      rw [hv] at drained' zero
      obtain ⟨-, hdrained⟩ := drainResults_agree same hused drained drained'
      rw [same.errno hdrained] at positive
      omega
  | succeeded j hp fits quiet drained zero =>
    obtain rfl : i = j := Fin.ext (by omega)
    cases h' with
    | rejected query' =>
      obtain ⟨hfalse, -⟩ := QueryOutcome.agree same (.executed i hp fits quiet) query' hw hv start signs
      cases hfalse
    | failed j' hp' _ _ drained' positive =>
      obtain rfl : i' = j' := Fin.ext (by omega)
      rw [hw] at drained zero
      rw [hv] at drained' positive
      obtain ⟨-, hdrained⟩ := drainResults_agree same hused drained drained'
      rw [← same.errno hdrained] at positive
      omega
    | succeeded j' hp' _ _ drained' =>
      obtain rfl : i' = j' := Fin.ext (by omega)
      have hdll := drainResults_dll host drained
      have hdll' := drainResults_dll host drained'
      rw [hw] at drained
      rw [hv] at drained'
      obtain ⟨rfl, hdrained⟩ := drainResults_agree same hused drained drained'
      refine ⟨rfl, same.free hdrained _, ?_⟩
      simpa [hdll, hdll'] using hsent.number

/-- Storing a record set gives the same record set in both runs. -/
theorem StoreOutcome.agree (same : SameAnswers host mysql R) {k k' : Fin maxCursors}
    {rs rs' : Option MysqlRes} (h : StoreOutcome host i q k w rs w₁)
    (h' : StoreOutcome host i' q k' v rs' v₁)
    (hw : w.handle i = mysql) (hv : v.handle i' = mysql) (start : R w.library v.library)
    (signs : QueryFits q → SignsAgree w v) : rs = rs' ∧ AgreeOn R i i' w₁ v₁ := by
  have hopening : QueryFits q → SignsAgree (w.opening i.val k) (v.opening i'.val k') := by
    simpa [SignsAgree, World.opening] using signs
  have hw' : (w.opening i.val k).handle i = mysql := by rw [World.opening_handle, hw]
  have hv' : (v.opening i'.val k').handle i' = mysql := by rw [World.opening_handle, hv]
  have hsent : AgreeOn R i i' ((w.opening i.val k).sent host i q) ((v.opening i'.val k').sent host i' q) :=
    World.sent_agree same hw' hv' start
  have quiet_opening {w : World σ} {i : Fin maxConnections} {k : Fin maxCursors}
      (quiet : w.dll.mySqlErrorNumber ≤ 0) : (w.opening i.val k).dll.mySqlErrorNumber ≤ 0 := by
    simpa [World.opening] using quiet
  cases h with
  | rejected query =>
    cases h' with
    | rejected query' => exact ⟨rfl, (query.agree same query' hw' hv' start hopening).2⟩
    | stored fits quiet =>
      obtain ⟨hfalse, -⟩ := query.agree same (.executed i' rfl fits (quiet_opening quiet)) hw' hv'
        start hopening
      cases hfalse
  | stored fits quiet =>
    cases h' with
    | rejected query' =>
      obtain ⟨hfalse, -⟩ := QueryOutcome.agree same (.executed i rfl fits (quiet_opening quiet))
        query' hw' hv' start hopening
      cases hfalse
    | stored =>
      obtain ⟨hanswer, hafter⟩ := same.store hsent.library
      refine ⟨by rw [hw, hv, hanswer], ?_, by simpa using hsent.number⟩
      simpa [hw, hv] using hafter

/-- Opening a cursor ends alike in both runs, up to the slot which is taken. -/
theorem OpenOutcome.agree (same : SameAnswers host mysql R) {r r' : ℤ}
    (h : OpenOutcome host i.val q w r w₁) (h' : OpenOutcome host i'.val q v r' v₁)
    (hw : w.handle i = mysql) (hv : v.handle i' = mysql) (start : R w.library v.library)
    (slots : getNewCursorId w.dll = -1 ↔ getNewCursorId v.dll = -1)
    (signs : QueryFits q → getNewCursorId w.dll ≠ -1 → SignsAgree w v) :
    (r = -1 ↔ r' = -1) ∧ AgreeOn R i i' w₁ v₁ ∧ (OpensCursor w w₁ ↔ OpensCursor v v₁) := by
  rcases h.result with ⟨hfull, full⟩ | ⟨k, rs, w₂, hfree, store, result⟩
  · rcases h'.result with ⟨-, full'⟩ | ⟨k', -, -, hfree', -, -⟩
    · refine ⟨iff_of_true full.reply full'.reply, ⟨?_, ?_⟩, iff_of_false full.opens full'.opens⟩
      · rw [full.library, full'.library]
        exact start
      · rw [full.number, full'.number]
    · rw [slots.mp hfull] at hfree'
      exact absurd hfree'.symm (val_ne_neg_one k')
  · rcases h'.result with ⟨hfull', -⟩ | ⟨k', rs', v₂, -, store', result'⟩
    · rw [slots.mpr hfull'] at hfree
      exact absurd hfree.symm (val_ne_neg_one k)
    · have hslot : getNewCursorId w.dll ≠ -1 := by
        rw [hfree]
        exact val_ne_neg_one k
      obtain ⟨rfl, hstore⟩ := store.agree same store' hw hv start fun fits => signs fits hslot
      have herrno : host.mysqlErrno (w.handle i) w₂.library =
          host.mysqlErrno (v.handle i') v₂.library := by
        rw [hw, hv, same.errno hstore.library]
      refine ⟨?_, ⟨?_, ?_⟩, ?_⟩
      · rw [result.reply, result'.reply, herrno]
      · rw [result.library, result'.library]
        exact hstore.library
      · rw [result.number, result'.number, herrno, hstore.number]
      · rw [result.opens, result'.opens]

end Slots

end MqlMySql
