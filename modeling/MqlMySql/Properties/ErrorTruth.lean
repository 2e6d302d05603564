import MqlMySql.Spec.Record
import MqlMySql.Spec.Server

/-!
# What the error number says about the last call

After a connection call, the number read for its id should be non-zero exactly when the call failed.
Each way a call returns writes the cell of the slot or the DLL-wide cell, and the number is read from
one of them, chosen by whether the slot is live at that time. `NumberHolds` collects when the two
agree.
-/

namespace MqlMySql

open Library

variable {σ : Type} (host : Host σ) (turns : ℕ)

/-- The number read after a connection call tells whether the call failed. -/
def TellsTruth : (e : Exported) → e.Reply → Dll → Prop
  | .execute p _, b, d => cGetMySqlErrorNumber p d ≠ 0 ↔ b = false
  | .cursorOpen p _, (r : ℤ), d => cGetMySqlErrorNumber p d ≠ 0 ↔ r = -1
  | .connect _, (r : ℤ), d => (cGetMySqlErrorNumber (-1) d ≠ 0 ↔ r = -1) ∧
      (r ≠ -1 → cGetMySqlErrorNumber r d = 0)
  | .disconnect p, _, d => cGetMySqlErrorNumber p d = 0
  | _, _, _ => True

/-- When the number tells the truth, in terms of the state before the call and of the answers of the
library. -/
def NumberHolds (w : World σ) : Exported → Prop
  | .execute p q => QueryFits q ∧ ∀ i : Fin maxConnections, p = i.val →
      if 0 < w.dll.mySqlErrorNumber then w.sentErrno host i q ≠ 0
      else ∀ rSet w₂, (drainResults host (w.handle i) turns).run ((w.sent host i q).used host i) =
        .ok (rSet, w₂) → host.mysqlErrno (w.handle i) w₂.library = 0 → w.sentErrno host i q = 0
  | .cursorOpen p q => ∀ i : Fin maxConnections, p = i.val → getNewCursorId w.dll ≠ -1 →
      QueryFits q → w.dll.mySqlErrorNumber ≤ 0 →
      (host.mysqlStoreResult (w.handle i) (w.sent host i q).library).1 ≠ none →
        w.sentErrno host i q = 0
  | .connect c => ∀ i : Fin maxConnections, getNewConnectionId w.dll = i.val →
      ∀ mysql, (host.mysqlInit w.library).1 = some mysql →
        if w.connectAnswer host c mysql = some mysql then
          (w.dll.connections i).mySqlErrorNumber = 0
        else host.mysqlErrno (some mysql) (w.asked host c mysql).library ≠ 0
  | .disconnect _ => w.dll.mySqlErrorNumber = 0
  | _ => True

variable {host turns}

/-- After `cMySqlExecute` on a live id. -/
theorem execute_tellsTruth_iff {p : ℤ} {q : WStr} {b : Bool} {w w' : World σ}
    (live : w.dll.liveConnection p ≠ none) (h : ExecuteOutcome host turns p q w b w') :
    TellsTruth (.execute p q) b w'.dll ↔ NumberHolds host turns w (.execute p q) := by
  obtain ⟨i, rfl, -⟩ := exists_slot_of_live live
  have hnumber := number_of_registry live (congrArg Registry.connections (h.registry host))
  simp only [TellsTruth, NumberHolds, hnumber, forall_slot_iff]
  cases h with
  | rejected query =>
    cases query with
    | noConnection hp => exact absurd hp (val_ne_neg_one i)
    | tooBig hp big => simp [big]
    | pending j hp fits positive =>
      obtain rfl : i = j := Fin.ext (by omega)
      have hsent := World.sent_number host i q w
      simp [fits, positive, hsent]
  | failed j hp fits quiet drained positive =>
    obtain rfl : i = j := Fin.ext (by omega)
    simp only [fits, not_lt.mpr quiet, if_false, drained, World.commanded_dll, World.onDll_dll,
      Dll.setConnectionError_self]
    refine iff_of_true (by simp; omega) ⟨trivial, fun rSet w₂ hrun hzero => ?_⟩
    cases hrun
    omega
  | succeeded j hp fits quiet drained zero =>
    obtain rfl : i = j := Fin.ext (by omega)
    have hsent := World.sent_number host i q w
    simp only [fits, not_lt.mpr quiet, if_false, World.commanded_dll, World.inspected_dll,
      drainResults_dll host drained, World.used_dll, hsent]
    constructor
    · intro htrue
      refine ⟨trivial, fun _ _ _ _ => ?_⟩
      simpa using htrue
    · intro hholds
      simp [hholds.2 _ _ drained zero]

/-- After `cMySqlCursorOpen` on a live id. -/
theorem cursorOpen_tellsTruth_iff {p r : ℤ} {q : WStr} {w w' : World σ}
    (live : w.dll.liveConnection p ≠ none) (h : OpenOutcome host p q w r w') :
    TellsTruth (.cursorOpen p q) r w'.dll ↔ NumberHolds host turns w (.cursorOpen p q) := by
  obtain ⟨i, rfl, -⟩ := exists_slot_of_live live
  have hnumber := number_of_registry live ((h.step host).connections trivial)
  simp only [TellsTruth, NumberHolds, forall_slot_iff, hnumber]
  cases h with
  | noConnection hp => exact absurd hp (val_ne_neg_one i)
  | full j hp none_free =>
    obtain rfl : i = j := Fin.ext (by omega)
    simp [none_free]
  | opened j hp k free res store =>
    obtain rfl : i = j := Fin.ext (by omega)
    obtain ⟨fits, quiet, answer, hslot⟩ := store.of_some
    simp [hslot, free, fits, quiet, answer, val_ne_neg_one]
  | @refused j hp k free w₂ store positive =>
    obtain rfl : i = j := Fin.ext (by omega)
    refine iff_of_true ?_ fun _ fits quiet hsome => absurd (store.of_none fits quiet) hsome
    have hne : host.mysqlErrno (w.handle i) w₂.library ≠ 0 := by omega
    simpa [World.blamed, store.handle host i] using hne
  | undecided j hp k free store zero =>
    obtain rfl : i = j := Fin.ext (by omega)
    refine iff_of_true ?_ fun _ fits quiet hsome => absurd (store.of_none fits quiet) hsome
    simp [World.blamed, store.handle host i, zero, val_ne_neg_one]

/-- After `cMySqlConnect`. -/
theorem connect_tellsTruth_iff {c : Credentials} {r : ℤ} {w w' : World σ}
    (h : ConnectOutcome host c w r w') :
    TellsTruth (.connect c) r w'.dll ↔ NumberHolds host turns w (.connect c) := by
  simp only [TellsTruth, NumberHolds, cGetMySqlErrorNumber_of_dead liveConnection_neg_one]
  cases h with
  | full none_free => simp [none_free]
  | unallocated answer => simp [answer]
  | refused i free mysql allocated answer =>
    simp only [free, forall_slot_iff, allocated, Option.some.injEq, forall_eq', if_neg answer]
    simp
  | connected i free mysql allocated answer =>
    have hlive : (((w.asked host c mysql).dll.setConnection i fun slot =>
        { slot with connection := some mysql }).setConnection i fun slot =>
          { slot with id := i.val }).liveConnection i.val = some i := by
      simp [liveConnection_val, val_ne_neg_one]
    simp only [World.onDll_dll, cGetMySqlErrorNumber_of_live hlive]
    simp only [free, forall_slot_iff, allocated, Option.some.injEq, forall_eq', if_pos answer]
    simp [val_ne_neg_one, World.asked]

/-- After `cMySqlDisconnect` of a live id. -/
theorem disconnect_tellsTruth_iff {p : ℤ} {w w' : World σ}
    (live : w.dll.liveConnection p ≠ none) (h : DisconnectOutcome host p w w') :
    TellsTruth (.disconnect p) () w'.dll ↔ NumberHolds host turns w (.disconnect p) := by
  simp only [TellsTruth, NumberHolds]
  cases h with
  | dead dead => exact absurd dead live
  | closed i hp =>
    subst hp
    rw [cGetMySqlErrorNumber_of_dead (by simp [liveConnection_val])]
    simp

/-- The number read right after a connection call on a live id tells the truth exactly when the
condition on the state before the call and on the answers of the library holds. -/
theorem errorNumber_tellsTruth_iff {e : Exported} {r : e.Reply} {w w' : World σ}
    (live : OnLiveId w.dll e) (h : (call host turns e).run w = .ok (r, w')) :
    TellsTruth e r w'.dll ↔ NumberHolds host turns w e := by
  cases e with
  | connect c => exact connect_tellsTruth_iff (cMySqlConnect_outcome host h)
  | disconnect p => exact disconnect_tellsTruth_iff live (cMySqlDisconnect_outcome host h)
  | execute p q => exact execute_tellsTruth_iff live (cMySqlExecute_outcome host h)
  | cursorOpen p q => exact cursorOpen_tellsTruth_iff live (cMySqlCursorOpen_outcome host h)
  | _ => exact Iff.rfl

/-- A statement which the server rejects on a live connection reports its error. -/
theorem errorNumber_tellsTruth_sample :
    ∃ (tr : List (Called Server)) (w w' : World Server) (b : Bool),
      DllRun scriptedHost 8 (Server.fresh [.ofError 1064]) tr w ∧ OnLiveId w.dll (.execute 0 [83]) ∧
        (call scriptedHost 8 (.execute 0 [83])).run w = .ok (b, w') ∧
          cGetMySqlErrorNumber 0 w'.dll = 1064 ∧
            (TellsTruth (.execute 0 [83]) b w'.dll ↔ NumberHolds scriptedHost 8 w (.execute 0 [83])) := by
  have hcheck : passes (fun run => decide (run.2.dll.liveConnection 0 ≠ none) &&
        passes (fun reply => decide (cGetMySqlErrorNumber 0 reply.2.dll = 1064))
          ((call scriptedHost 8 (.execute 0 [83])).run run.2))
      (replay (dllStep scriptedHost 8) [.connect .sample] (attach (Server.fresh [.ofError 1064]))) = true := by
    decide +kernel
  obtain ⟨tr, w, hrun, hcheck⟩ := Run.of_passes hcheck
  obtain ⟨hlive, hcheck⟩ := Bool.and_eq_true_iff.mp hcheck
  obtain ⟨⟨b, w'⟩, hcall, hnumber⟩ := exists_of_passes hcheck
  have hlive : OnLiveId w.dll (.execute 0 [83]) := of_decide_eq_true hlive
  exact ⟨tr, w, w', b, hrun, hlive, hcall, of_decide_eq_true hnumber, errorNumber_tellsTruth_iff hlive hcall⟩

/-- After a refused connection, a query on a live connection fails with error number `0`. -/
theorem failedExecute_reports_zero :
    ∃ (tr : List (Called Server)) (w w' : World Server) (b : Bool),
      DllRun scriptedHost 8 (Server.fresh []) tr w ∧ OnLiveId w.dll (.execute 0 [83]) ∧
        (call scriptedHost 8 (.execute 0 [83])).run w = .ok (b, w') ∧
          ¬ TellsTruth (.execute 0 [83]) b w'.dll := by
  have hcheck : passes (fun run => decide (run.2.dll.liveConnection 0 ≠ none) &&
        passes (fun reply => !reply.1 && decide (cGetMySqlErrorNumber 0 reply.2.dll = 0))
          ((call scriptedHost 8 (.execute 0 [83])).run run.2))
      (replay (dllStep scriptedHost 8) [.connect .sample, .connect .anonymous]
        (attach (Server.fresh []))) = true := by
    decide +kernel
  obtain ⟨tr, w, hrun, hcheck⟩ := Run.of_passes hcheck
  obtain ⟨hlive, hcheck⟩ := Bool.and_eq_true_iff.mp hcheck
  obtain ⟨⟨b, w'⟩, hcall, hcheck⟩ := exists_of_passes hcheck
  simp only [Bool.and_eq_true, Bool.not_eq_true', decide_eq_true_eq] at hcheck
  have hlive : w.dll.liveConnection 0 ≠ none := of_decide_eq_true hlive
  refine ⟨tr, w, w', b, hrun, hlive, hcall, fun htruth => ?_⟩
  exact (htruth.mpr hcheck.1) hcheck.2

end MqlMySql
