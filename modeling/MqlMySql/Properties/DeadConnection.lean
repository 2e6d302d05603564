import MqlMySql.Spec.Record
import MqlMySql.Spec.Server

/-!
# Calls on dead connection ids

A connection id is dead when it lies outside the table or names a slot which is not live. Rejecting
it means to return the failure value, report error `-2`, call no library function and register
nothing. `cMySqlDisconnect` looks the slot up and rejects every dead id. The other three calls only
compare the id with `-1`, so they reject almost no other dead id.
-/

namespace MqlMySql

open Library

variable {σ : Type} (host : Host σ) (turns : ℕ)

/-- The calls which take a connection id, without the id. -/
inductive ConnectionCall
  | disconnect
  | execute (pQuery : WStr)
  | cursorOpen (pQuery : WStr)
  | rowsAffected
deriving DecidableEq

/-- The exported call on an id. -/
def ConnectionCall.on (p : ℤ) : ConnectionCall → Exported
  | .disconnect => .disconnect p
  | .execute q => .execute p q
  | .cursorOpen q => .cursorOpen p q
  | .rowsAffected => .rowsAffected p

/-- The value which reports failure. -/
def ConnectionCall.failure (p : ℤ) : (c : ConnectionCall) → (c.on p).Reply
  | .disconnect => ()
  | .execute _ => false
  | .cursorOpen _ => (-1 : ℤ)
  | .rowsAffected => (0 : ℤ)

/-- The call rejects the id. -/
structure RejectsId (c : ConnectionCall) (p : ℤ) (w w' : World σ) : Prop where
  returned : (call host turns (c.on p)).run w = .ok (c.failure p, w')
  reported : cGetMySqlErrorNumber p w'.dll = -2
  silent : w'.calls = w.calls ∧ w'.library = w.library
  registered : w'.registry = w.registry

/-- When the code of a call rejects a dead id. -/
def GuardsId (p : ℤ) (w : World σ) : ConnectionCall → Prop
  | .disconnect => True
  | .execute _ | .rowsAffected => p = -1
  | .cursorOpen _ => p = -1 ∨
      0 ≤ p ∧ p < maxConnections ∧ getNewCursorId w.dll = -1 ∧ w.dll.mySqlErrorNumber = -2

variable {host turns}

/-- A rejecting call has not made a library call. -/
theorem RejectsId.quiet {c : ConnectionCall} {p : ℤ} {w w' : World σ} {call : LibraryCall}
    {calls : List LibraryCall} (h : RejectsId host turns c p w w') (hpast : w.calls <:+ calls) :
    ¬ (call :: calls) <:+ w'.calls := by
  intro hsuffix
  have hlength := hsuffix.length_le
  rw [h.silent.1, List.length_cons] at hlength
  have := hpast.length_le
  omega

/-- `cMySqlDisconnect` rejects every dead id. -/
theorem disconnect_rejects {p : ℤ} {w : World σ} (dead : w.dll.liveConnection p = none) :
    ∃ w', RejectsId host turns .disconnect p w w' := by
  have hsame : (clearErrors p w.dll).liveConnection p = w.dll.liveConnection p :=
    liveConnection_congr (clearErrors_id w.dll p) p
  have hafter : (noConnection (clearErrors p w.dll)).liveConnection p = none := by
    rw [← dead, ← hsame]
    exact liveConnection_congr (fun _ => rfl) p
  refine ⟨(w.onDll (clearErrors p)).onDll noConnection, ?_, ?_, ⟨rfl, rfl⟩, by simp⟩
  · simp [call, ConnectionCall.on, ConnectionCall.failure, cMySqlDisconnect, hsame, dead]
  · simpa using cGetMySqlErrorNumber_of_dead hafter

/-- After a query which is too big, the number read for a dead id is `-6`. -/
theorem tooBig_number {d : Dll} {p : ℤ} (dead : d.liveConnection p = none) (text : String) :
    cGetMySqlErrorNumber p ((clearErrors p d).setMySqlError (-6) text) = -6 := by
  refine cGetMySqlErrorNumber_of_dead ?_
  rw [← dead]
  exact liveConnection_congr (fun i => by simp) p

/-- `cMySqlExecute` rejects a dead id only when it is `-1`. -/
theorem execute_rejects_iff {p : ℤ} {q : WStr} {w : World σ}
    (dead : w.dll.liveConnection p = none) :
    (∃ w', RejectsId host turns (.execute q) p w w') ↔ p = -1 := by
  constructor
  · rintro ⟨w', hrej⟩
    have hsent : ∀ i : Fin maxConnections, ¬ (w.sent host i q).calls <:+ w'.calls :=
      fun i hsuffix => hrej.quiet (List.suffix_refl _) ((World.sent_calls host i q w).trans hsuffix)
    cases cMySqlExecute_outcome host hrej.returned with
    | rejected query =>
      cases query with
      | noConnection hp => exact hp
      | tooBig hp big =>
        have hreport := hrej.reported
        rw [World.onDll_dll, tooBig_number dead] at hreport
        omega
      | pending i => exact (hsent i (List.suffix_cons _ _)).elim
    | failed i hp fits quiet drained =>
      refine (hsent i ((drained_calls drained).trans ?_)).elim
      exact ((List.suffix_cons _ _).trans (List.suffix_cons _ _)).trans (List.suffix_cons _ _)
  · rintro rfl
    refine ⟨(w.onDll (clearErrors (-1))).onDll noConnection, ?_, ?_, ⟨rfl, rfl⟩, by simp⟩
    · simp [call, ConnectionCall.on, ConnectionCall.failure, cMySqlExecute]
    · simp [cGetMySqlErrorNumber_of_dead]

/-- `cMySqlRowsAffected` rejects a dead id only when it is `-1`. -/
theorem rowsAffected_rejects_iff {p : ℤ} {w : World σ} :
    (∃ w', RejectsId host turns .rowsAffected p w w') ↔ p = -1 := by
  constructor
  · rintro ⟨w', hrej⟩
    have hout := cMySqlRowsAffected_outcome host hrej.returned
    generalize ConnectionCall.failure p .rowsAffected = r at hout
    cases hout with
    | noConnection hp => exact hp
    | counted i => exact (hrej.quiet (List.suffix_refl _) (List.suffix_refl _)).elim
  · rintro rfl
    refine ⟨w.onDll noConnection, ?_, ?_, ⟨rfl, rfl⟩, by simp⟩
    · simp [call, ConnectionCall.on, ConnectionCall.failure, cMySqlRowsAffected]
    · simp [cGetMySqlErrorNumber_of_dead]

/-- `cMySqlCursorOpen` rejects a dead id when it is `-1`. Apart from that it does so only when no
cursor slot is free, the id is the number of a connection slot, and the DLL-wide number happens to be
`-2` already. -/
theorem cursorOpen_rejects_iff {p : ℤ} {q : WStr} {w : World σ}
    (dead : w.dll.liveConnection p = none) :
    (∃ w', RejectsId host turns (.cursorOpen q) p w w') ↔ GuardsId p w (.cursorOpen q) := by
  constructor
  · rintro ⟨w', hrej⟩
    have hout := cMySqlCursorOpen_outcome host hrej.returned
    generalize ConnectionCall.failure p (.cursorOpen q) = r at hout
    cases hout with
    | noConnection hp => exact Or.inl hp
    | full i hp none_free =>
      have hslot := i.isLt
      refine Or.inr ⟨by omega, by omega, none_free, ?_⟩
      have hne : p ≠ -1 := by omega
      have hreport := hrej.reported
      rwa [cGetMySqlErrorNumber_of_dead (by rw [← dead]; exact liveConnection_congr (by simp) p),
        World.onDll_dll, Dll.setConnectionError_mySqlErrorNumber,
        clearCursorErrors_mySqlErrorNumber, clearErrors_mySqlErrorNumber _ _ hne] at hreport
    | opened i hp k free res store =>
      obtain ⟨made, hmade, hgrown⟩ := store.calls_stored
      exact (hrej.quiet hgrown ⟨[], hmade.symm⟩).elim
    | refused i hp k free store positive =>
      exact (hrej.quiet store.calls (List.suffix_cons _ _)).elim
    | undecided i hp k free store zero =>
      exact (hrej.quiet store.calls (List.suffix_refl _)).elim
  · rintro (rfl | ⟨hlow, hhigh, hfull, hnumber⟩)
    · refine ⟨((w.onDll (clearErrors (-1))).onDll (clearCursorErrors (-1))).onDll noConnection,
        ?_, ?_, ⟨rfl, rfl⟩, by simp⟩
      · simp [call, ConnectionCall.on, ConnectionCall.failure, cMySqlCursorOpen]
      · simp [cGetMySqlErrorNumber_of_dead]
    · have hne : p ≠ -1 := by omega
      obtain ⟨i, hi⟩ : ∃ i : Fin maxConnections, slotIndex maxConnections p = some i :=
        ⟨⟨p.toNat, by omega⟩, slotIndex_eq_some_iff.mpr (by simp only; omega)⟩
      obtain rfl := slotIndex_eq_some_iff.mp hi
      refine ⟨((w.onDll (clearErrors i.val)).onDll (clearCursorErrors (-1))).onDll
        (·.setConnectionError i (-3) "Maximum number of opened cursors was exceeded."),
        ?_, ?_, ⟨rfl, rfl⟩, by simp⟩
      · simp [call, ConnectionCall.on, ConnectionCall.failure, cMySqlCursorOpen, hne,
          getNewCursorId_cleared, hfull, -clearCursorErrors_neg_one, -clearErrors_val]
      · rw [cGetMySqlErrorNumber_of_dead (by rw [← dead]; exact liveConnection_congr (by simp) _)]
        simpa using hnumber

/-- A call rejects a dead id exactly when its code guards against it. -/
theorem deadId_rejected_iff (c : ConnectionCall) {p : ℤ} {w : World σ}
    (dead : w.dll.liveConnection p = none) :
    (∃ w', RejectsId host turns c p w w') ↔ GuardsId p w c := by
  cases c with
  | disconnect => exact iff_of_true (disconnect_rejects dead) trivial
  | execute q => exact execute_rejects_iff dead
  | cursorOpen q => exact cursorOpen_rejects_iff dead
  | rowsAffected => exact rowsAffected_rejects_iff

/-- The id of a connection which was closed is dead, and a query on it is rejected as far as the code guards. -/
theorem deadId_rejected_sample :
    ∃ (tr : List (Called Server)) (w : World Server),
      DllRun scriptedHost 8 (Server.fresh []) tr w ∧ w.dll.liveConnection 0 = none ∧
        ((∃ w', RejectsId scriptedHost 8 (.execute [83]) 0 w w') ↔ GuardsId 0 w (.execute [83])) := by
  have hcheck : passes (fun run => decide (run.2.dll.liveConnection 0 = none))
      (replay (dllStep scriptedHost 8) [.connect .sample, .execute 0 [83], .disconnect 0]
        (attach (Server.fresh []))) = true := by decide +kernel
  obtain ⟨tr, w, hrun, hdead⟩ := Run.of_passes hcheck
  have hdead := of_decide_eq_true hdead
  exact ⟨tr, w, hrun, hdead, deadId_rejected_iff (.execute [83]) hdead⟩

/-- After connecting and disconnecting, the id `0` is dead and a query on it is not rejected. -/
theorem disconnectedId_not_rejected :
    ∃ (tr : List (Called Server)) (w : World Server),
      DllRun scriptedHost 8 (Server.fresh []) tr w ∧ w.dll.liveConnection 0 = none ∧
        ¬ ∃ w', RejectsId scriptedHost 8 (.execute [83]) 0 w w' := by
  have hcheck : passes (fun run => decide (run.2.dll.liveConnection 0 = none))
      (replay (dllStep scriptedHost 8) [.connect .sample, .disconnect 0]
        (attach (Server.fresh []))) = true := by decide +kernel
  obtain ⟨tr, w, hrun, hdead⟩ := Run.of_passes hcheck
  have hdead := of_decide_eq_true hdead
  exact ⟨tr, w, hrun, hdead, fun hrej => absurd ((execute_rejects_iff hdead).mp hrej) (by decide)⟩

end MqlMySql
