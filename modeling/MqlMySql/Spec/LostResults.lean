import MqlMySql.Spec.LinkSteps
import MqlMySql.Spec.ResultOwners
import MqlMySql.Spec.Touched

/-!
# Lost result sets

`cMySqlExecute` asks for the first result set row by row and loses it: nobody releases it, and no cursor has it. As long
as the library hands out fresh result sets, this stays so, and the link on which such a result set is in use is only
moved by queries on its own connection.
-/

namespace MqlMySql

open Library

variable {σ : Type} {host : Host σ} {link : σ → Mysql → Option Link}
  {outcomes : σ → Mysql → List UInt8 → Outcomes} {turns : ℕ} {w w' : World σ} {res : MysqlRes}

/-- A result set which was handed out and not released, and which no cursor has. -/
structure Lost (w : World σ) (res : MysqlRes) : Prop where
  waits : res ∈ unreleased w.transfers
  nowhere : ∀ k, w.registry.results k ≠ some res

/-- A table which keeps a single result set, in its first slot. -/
def loneSlot (res : MysqlRes) : Occupancy maxCursors MysqlRes := fun k => if k.val = 0 then some res else none

/-- The one entry of a lone slot. -/
theorem loneSlot_eq_some {k : Fin maxCursors} {x : MysqlRes} (h : loneSlot res k = some x) : k.val = 0 ∧ res = x := by
  rw [loneSlot] at h
  split at h
  · exact ⟨‹_›, Option.some.inj h⟩
  · cases h

/-- A result set which is not released can be the entry of a lone slot. -/
theorem owned_loneSlot {log : List (Transfer MysqlRes)} (h : res ∈ unreleased log) : Owned (loneSlot res) log where
  waits i x hx := by rwa [← (loneSlot_eq_some hx).2]
  distinct i j x hi hj := Fin.ext ((loneSlot_eq_some hi).1.trans (loneSlot_eq_some hj).1.symm)

/-- What is lost stays lost. -/
theorem Lost.step {e : Exported} {r : e.Reply} (h : Lost w res) (hcall : (call host turns e).run w = .ok (r, w'))
    (fresh : FreshLog w'.transfers) : Lost w' res := by
  have hstep := call_refines host hcall
  have kept (keeps : Registry.KeepsCursors e) : ∀ k, w'.registry.results k ≠ some res := by
    intro k
    rw [Registry.results, hstep.cursors keeps]
    exact h.nowhere k
  cases e with
  | execute p q =>
    refine ⟨?_, kept trivial⟩
    have howned := (cMySqlExecute_outcome host hcall).owned (owned_loneSlot h.waits) fresh
    exact howned.waits ⟨0, by decide⟩ res rfl
  | cursorOpen p q =>
    rcases (cMySqlCursorOpen_outcome host hcall).transfers with ⟨k, res', -, -, hregistry, hmade⟩ | ⟨hregistry, hsame⟩
    · rw [hmade] at fresh
      have hne : res ≠ res' := by
        rintro rfl
        exact fresh.1 h.waits
      refine ⟨by rw [hmade]; exact List.mem_cons_of_mem _ h.waits, fun j => ?_⟩
      rw [hregistry, Registry.results_openCursor]
      by_cases hjk : j = k
      · rw [hjk, Function.update_self]
        exact fun hres => hne (Option.some.inj hres).symm
      · rw [Function.update_of_ne hjk]
        exact h.nowhere j
    · exact ⟨by rw [hsame]; exact h.waits, by rw [hregistry]; exact h.nowhere⟩
  | cursorClose p =>
    rcases (cMySqlCursorClose_outcome host hcall).transfers with ⟨k, c, -, hc, hregistry, hmade⟩ | ⟨hregistry, hsame⟩
    · have hk := h.nowhere k
      rw [Registry.results, hc, Option.bind_some] at hk
      refine ⟨?_, fun j => ?_⟩
      · rw [hmade]
        cases hres : c.2 with
        | none => simpa [hres] using h.waits
        | some res' =>
          rw [hres] at hk
          simp only [Option.map_some, Option.toList_some, List.singleton_append, unreleased, List.mem_filter,
            decide_eq_true_eq]
          exact ⟨h.waits, fun heq => hk (congrArg some heq.symm)⟩
      · rw [hregistry, Registry.results_closeCursor]
        by_cases hjk : j = k
        · simp [hjk]
        · rw [Function.update_of_ne hjk]
          exact h.nowhere j
    · exact ⟨by rw [hsame]; exact h.waits, by rw [hregistry]; exact h.nowhere⟩
  | _ => exact ⟨by rw [call_transfers hcall trivial (by simp)]; exact h.waits, kept trivial⟩

/-- The link of a handle, when nobody has released the result set which is in use on it. -/
structure Waiting (link : σ → Mysql → Option Link) (m : Mysql) (l : Link) (w : World σ) : Prop where
  linked : link w.library m = some l
  waits : ∀ res, l.inUse = some res → res ∈ unreleased w.transfers

section Frames

variable (P : Protocol host link outcomes) {i : Fin maxConnections} {m m' : Mysql} {l : Link} {q : WStr}
include P

/-- Sending a query on another handle. -/
theorem Protocol.sent_waiting (h : Waiting link m l w) (hm : w.handle i = some m') (hne : m ≠ m') :
    Waiting link m l (w.sent host i q) where
  linked := by rw [World.sent_library, hm, P.query_frame _ _ _ _ _ hne, h.linked]
  waits := by simpa using h.waits

/-- Asking for the rows of another handle one by one. -/
theorem Protocol.used_waiting (h : Waiting link m l w) (hm : w.handle i = some m') (hne : m ≠ m') :
    Waiting link m l (w.used host i) where
  linked := by rw [World.used, World.performed_library, hm, P.use_frame _ _ _ hne, h.linked]
  waits res hres := by
    rw [World.used, World.performed_transfers]
    cases (host.mysqlUseResult (w.handle i) w.library).1 with
    | none => exact h.waits res hres
    | some used => exact List.mem_cons_of_mem _ (h.waits res hres)

/-- Storing a fresh result set of another handle and releasing it. -/
theorem Protocol.taken_waiting (h : Waiting link m l w) (hne : m ≠ m')
    (fresh : FreshLog (w.taken host (some m')).transfers) : Waiting link m l (w.taken host (some m')) ∧
      ∀ res, l.inUse = some res → (host.mysqlStoreResult (some m') w.library).1 ≠ some res := by
  have hstore : link (host.mysqlStoreResult (some m') w.library).2 m = some l := by
    rw [P.store_frame _ _ _ hne, h.linked]
  have htransfers := World.taken_transfers host (some m') w
  rw [htransfers] at fresh
  cases hres : (host.mysqlStoreResult (some m') w.library).1 with
  | none =>
    rw [hres] at htransfers
    refine ⟨⟨by simpa [World.taken, hres] using hstore, ?_⟩, by simp⟩
    rw [htransfers]
    exact h.waits
  | some stored =>
    rw [hres] at htransfers fresh
    have hother : ∀ res, l.inUse = some res → stored ≠ res := by
      rintro res hin rfl
      exact fresh.1 (h.waits _ hin)
    refine ⟨⟨?_, fun res hin => ?_⟩, fun res hin heq => hother res hin (Option.some.inj heq)⟩
    · simp only [World.taken, hres, Option.isSome_some, if_true, World.commanded_library, World.performed_library]
      exact P.free_stored _ _ _ _ hstore fun hin => hother stored hin rfl
    · rw [htransfers, passed]
      simp only [List.cons_append, List.nil_append, unreleased, List.mem_filter, decide_eq_true_eq]
      exact ⟨List.mem_cons_of_mem _ (h.waits res hin), (hother res hin).symm⟩

/-- Advancing another handle. -/
theorem Protocol.advanced_waiting (h : Waiting link m l w) (hne : m ≠ m') :
    Waiting link m l ((w.inspected (.moreResults (some m'))).performed (host.mysqlNextResult (some m'))
      fun _ => .nextResult (some m')) where
  linked := by
    rw [World.performed_library, World.inspected_library, P.next_frame _ _ _ hne, h.linked]
  waits := by simpa using h.waits

/-- The result loop on another handle. -/
theorem Protocol.drained_waiting {rSet : Option MysqlRes} (h : Waiting link m l w) (hne : m ≠ m')
    (drained : (drainResults host (some m') turns).run w = .ok (rSet, w')) (fresh : FreshLog w'.transfers) :
    Waiting link m l w' ∧ ∀ res, l.inUse = some res → rSet ≠ some res := by
  induction turns generalizing w with
  | zero => simp [drainResults] at drained
  | succ turns ih =>
    cases drainResults_outcome host drained with
    | last =>
      obtain ⟨htaken, hset⟩ := P.taken_waiting h hne (by simpa using fresh)
      exact ⟨⟨htaken.linked, by simpa using htaken.waits⟩, hset⟩
    | stopped =>
      obtain ⟨htaken, hset⟩ := P.taken_waiting h hne (by simpa using fresh)
      exact ⟨P.advanced_waiting htaken hne, hset⟩
    | advanced more status rest =>
      obtain ⟨made, hmade⟩ := drainResults_transfers rest
      have hpast : FreshLog (w.taken host (some m')).transfers := by
        rw [hmade, ← List.append_assoc] at fresh
        simpa using fresh.past
      exact ih (P.advanced_waiting (P.taken_waiting h hne hpast).1 hne) rest

/-- Executing a query on another connection. -/
theorem Protocol.execute_waiting {b : Bool} (h : Waiting link m l w) (hm : w.handle i = some m') (hne : m ≠ m')
    (hcall : ExecuteOutcome host turns i.val q w b w') (fresh : FreshLog w'.transfers) :
    link w'.library m = some l := by
  have hsent := P.sent_waiting (q := q) h hm hne
  have hhandle : (w.sent host i q).handle i = some m' := by rw [World.sent_handle, hm]
  have hfreed {rSet : Option MysqlRes} {w₂ : World σ}
      (past : FreshLog ((rSet.map Transfer.released).toList ++ w₂.transfers))
      (drained : (drainResults host (w.handle i) turns).run ((w.sent host i q).used host i) = .ok (rSet, w₂)) :
      link (host.mysqlFreeResult rSet w₂.library) m = some l := by
    rw [hm] at drained
    obtain ⟨hdrained, hset⟩ := P.drained_waiting (P.used_waiting hsent hhandle hne) hne drained past.past
    cases rSet with
    | none => rw [P.free_null, hdrained.linked]
    | some res => exact P.free_stored _ _ _ _ hdrained.linked fun hin => hset res hin rfl
  cases hcall with
  | rejected query =>
    rw [query.library]
    split
    · exact hsent.linked
    · exact h.linked
  | @failed j hp _ _ rSet w₂ drained =>
    obtain rfl : i = j := Fin.ext (by omega)
    simpa using hfreed (by simpa using fresh) drained
  | @succeeded j hp _ _ rSet w₂ drained =>
    obtain rfl : i = j := Fin.ext (by omega)
    simpa using hfreed (by simpa using fresh) drained

/-- Opening a cursor on another connection. -/
theorem Protocol.open_waiting {r : ℤ} (h : link w.library m = some l) (hm : w.handle i = some m') (hne : m ≠ m')
    (hcall : OpenOutcome host i.val q w r w') : link w'.library m = some l := by
  have hsent : link (w.sent host i q).library m = some l := by
    rw [World.sent_library, hm, P.query_frame _ _ _ _ _ hne, h]
  rcases hcall.result with ⟨-, full⟩ | ⟨k, rs, w₂, -, store, result⟩
  · rw [full.library, h]
  · rw [result.library]
    cases store with
    | rejected query =>
      rw [query.library, World.opening_sent_library, World.opening_library]
      split
      · exact hsent
      · exact h
    | stored =>
      simp only [World.onDll_library, World.performed_library, World.opening_sent_library, hm]
      rw [P.store_frame _ _ _ hne, hsent]

end Frames

end MqlMySql
