import MqlMySql.Spec.ErrorCells
import MqlMySql.Spec.Server

/-!
# Error numbers and their texts

Number and text of an error are written by separate statements. They belong together in every cell, except after a
`cMySqlExecute` whose query was refused and whose result loop ended without an error: `MySqlExecute` has then stored
the number without its text, and nothing completes it.
-/

namespace MqlMySql

open Library

variable {σ : Type} (host : Host σ) (turns : ℕ) (start : σ)

/-- The states to which library functions lead. -/
def LibraryReaches : σ → Prop := Relation.ReflTransGen (fun s s' => ∃ h, LibraryStep host h s s') start

/-- The library, in a state to which it comes, gives the number and the text for one handle. -/
def Gives (number : ℤ) (text : String) : Prop :=
  ∃ h s, LibraryReaches host start s ∧ (host.mysqlErrno h s : ℤ) = number ∧ host.mysqlError h s = text

/-- The number and the text of a cell belong together: both are empty, or they are fixed, or the library gave them. -/
structure TextFits (cell : ErrorCell) (v : ℤ × String) : Prop where
  empty : v.1 = 0 → v.2 = "No errors." ∨ v.2 = ""
  described : v.1 ≠ 0 → v ∈ cell.texts ∨ Gives host start v.1 v.2

/-- They do so in the shared cells, in those of the live connections, and in those of the open cursors. -/
structure CellsPaired (d : Dll) : Prop where
  connections : TextFits host start .connections (d.read .connections)
  cursors : TextFits host start .cursors (d.read .cursors)
  live : ∀ i, (d.connections i).id ≠ -1 → TextFits host start (.connection i) (d.read (.connection i))
  isOpen : ∀ k, (d.cursors k).id ≠ -1 → TextFits host start (.cursor k) (d.read (.cursor k))

/-- The library describes no error by the empty text, a query which succeeded leaves no error, and one which failed
leaves no result set. -/
structure DescribesErrors : Prop where
  message_empty : ∀ h s, host.mysqlErrno h s = 0 → host.mysqlError h s = ""
  query_accepted : ∀ h q n s, (host.mysqlRealQuery h q n s).1 = 0 →
    host.mysqlErrno h (host.mysqlRealQuery h q n s).2 = 0
  query_refused : ∀ h q n s, (host.mysqlRealQuery h q n s).1 ≠ 0 →
    (host.mysqlStoreResult h (host.mysqlRealQuery h q n s).2).1 = none

/-- When `cMySqlExecute` ends its result loop without an error, the query has left none before the loop, or one which
the library describes by the text in the cell. -/
def PairsUp (w : World σ) : Exported → Prop
  | .execute p q => ∀ i : Fin maxConnections, p = i.val → QueryFits q → w.dll.mySqlErrorNumber ≤ 0 →
      ∀ rSet w₂, (drainResults host (w.handle i) turns).run ((w.sent host i q).used host i) = .ok (rSet, w₂) →
        host.mysqlErrno (w.handle i) w₂.library = 0 →
          w.sentErrno host i q = 0 ∨ Gives host start (w.sentErrno host i q) "No errors."
  | _ => True

variable {host turns start} {w w' : World σ}

/-- What library functions lead to is reached, when they start from what is reached. -/
theorem LibrarySteps.reaches {h : Option Mysql} {s s' : σ} (steps : LibrarySteps host h s s')
    (hs : LibraryReaches host start s) : LibraryReaches host start s' :=
  hs.trans (steps.lift id fun _ _ step => ⟨h, step⟩)

/-- Every call leads the library on. -/
theorem LibraryMove.reaches {names : Fin maxConnections → Prop} (h : LibraryMove host names w w')
    (hs : LibraryReaches host start w.library) : LibraryReaches host start w'.library := by
  cases h with
  | released steps => exact LibrarySteps.reaches steps hs
  | allocated _ _ steps => exact LibrarySteps.reaches steps hs
  | commanded _ _ steps => exact LibrarySteps.reaches steps hs

/-- The texts which the DLL writes by itself stand for errors, not for success. -/
theorem ErrorCell.texts_ne_zero {cell : ErrorCell} {v : ℤ × String} (h : v ∈ cell.texts) : v.1 ≠ 0 := by
  have hall : ∀ v ∈ cell.texts, v.1 ≠ 0 := by
    cases cell <;> simp [ErrorCell.texts]
  exact hall v h

/-- The cleared pair fits every cell. -/
theorem textFits_cleared (cell : ErrorCell) : TextFits host start cell (0, "No errors.") where
  empty _ := Or.inl rfl
  described hne := absurd rfl hne

/-- A number which is left with the text of a cleared cell. -/
theorem textFits_uncompleted_iff {i : Fin maxConnections} {n : ℕ} :
    TextFits host start (.connection i) ((n : ℤ), "No errors.") ↔ n = 0 ∨ Gives host start n "No errors." := by
  constructor
  · intro hpaired
    by_cases hn : n = 0
    · exact Or.inl hn
    · refine Or.inr ((hpaired.described (by simpa using hn)).resolve_left ?_)
      simp [ErrorCell.texts]
  · rintro (rfl | hgives)
    · exact textFits_cleared _
    · exact ⟨fun _ => Or.inl rfl, fun _ => Or.inr hgives⟩

section Calls

variable (D : DescribesErrors host)
include D

/-- Where the library describes its errors, every pair which the DLL writes fits. -/
theorem DescribesErrors.accepts (start : σ) : Accepts host (LibraryReaches host start) (TextFits host start) where
  cleared := textFits_cleared
  fixed _ _ hv := ⟨fun hzero => absurd hzero (ErrorCell.texts_ne_zero hv), fun _ => Or.inl hv⟩
  given _ h s hs :=
    ⟨fun hzero => Or.inr (D.message_empty h s (by simpa using hzero)), fun _ => Or.inr ⟨h, s, hs, rfl, rfl⟩⟩

section Own

variable {i : Fin maxConnections} {q : WStr}

omit D in
variable (host) in
/-- After sending a query the cell of the connection has the new number, but the cleared text. -/
theorem World.sent_read (i : Fin maxConnections) (q : WStr) (w : World σ) :
    (w.sent host i q).dll.read (.connection i) = ((w.sentErrno host i q : ℤ), "No errors.") := by
  simp [Dll.read, World.sent, World.sentErrno, Dll.setConnectionError]

variable (reached : LibraryReaches host start w.library)
include reached

/-- After `cMySqlExecute`, number and text in the cell of the connection belong together exactly when the call pairs
them up. -/
theorem ExecuteOutcome.own_iff {b : Bool} (h : ExecuteOutcome host turns i.val q w b w') :
    TextFits host start (.connection i) (w'.dll.read (.connection i)) ↔
      PairsUp host turns start w (.execute i.val q) := by
  have A := D.accepts start
  have hsent : LibraryReaches host start (w.sent host i q).library := (w.sent_steps i q).reaches reached
  simp only [PairsUp, forall_slot_iff]
  cases h with
  | rejected query =>
    cases query with
    | noConnection hp => exact absurd hp (val_ne_neg_one i)
    | tooBig hp big =>
      refine iff_of_true ?_ fun fits => absurd fits big
      simpa [Dll.read, Dll.setConnectionError] using A.cleared (.connection i)
    | pending j hj fits positive =>
      obtain rfl : i = j := Fin.ext (by omega)
      refine iff_of_true ?_ fun _ quiet => absurd positive (not_lt.mpr quiet)
      have hgiven := A.given (.connection i) (w.handle i) _ hsent
      simpa [Dll.read, World.sent_number, World.sentErrno] using hgiven
  | @failed j hj fits quiet rSet w₂ drained positive =>
    obtain rfl : i = j := Fin.ext (by omega)
    have hdrained : LibraryReaches host start w₂.library := (World.drained_steps drained).reaches reached
    refine iff_of_true ?_ fun _ _ rSet' w₂' drained' zero => ?_
    · simpa [Dll.read, Dll.setConnectionError] using A.given (.connection i) (w.handle i) _ hdrained
    · cases drained.symm.trans drained'
      omega
  | @succeeded j hj fits quiet rSet w₂ drained zero =>
    obtain rfl : i = j := Fin.ext (by omega)
    have hread : w₂.dll.read (.connection i) = ((w.sentErrno host i q : ℤ), "No errors.") := by
      rw [drainResults_dll host drained, World.used_dll, World.sent_read]
    simp only [World.commanded_dll, World.inspected_dll, hread, textFits_uncompleted_iff]
    constructor
    · intro hown _ _ _ _ _ _
      exact hown
    · intro hpairs
      exact hpairs fits quiet rSet w₂ drained zero

omit reached in
/-- A record set was stored, so the query had succeeded. -/
theorem StoreOutcome.own_of_some {k : Fin maxCursors} {res : MysqlRes}
    (h : StoreOutcome host i q k w (some res) w') :
    TextFits host start (.connection i) (w'.dll.read (.connection i)) := by
  generalize hrs : some res = rs at h
  cases h with
  | rejected => cases hrs
  | stored fits quiet =>
    have hquery : (w.opening i.val k).sentErrno host i q = 0 := by
      rw [World.sentErrno, World.sent_library, World.opening_handle]
      apply D.query_accepted
      by_contra hrefused
      rw [World.sent_library, World.opening_handle, D.query_refused _ _ _ _ hrefused] at hrs
      cases hrs
    have hread := World.sent_read host i q (w.opening i.val k)
    rw [hquery] at hread
    simp only [World.onDll_dll, World.performed_dll]
    exact hread ▸ textFits_cleared _

omit reached in
/-- Without a record set and without an error, the text of the connection is empty or that of a cleared cell. -/
theorem StoreOutcome.text_of_zero {k : Fin maxCursors} (h : StoreOutcome host i q k w none w')
    (zero : host.mysqlErrno (w.handle i) w'.library = 0) :
    (w'.dll.connections i).mySqlErrorDescription = "No errors." ∨
      (w'.dll.connections i).mySqlErrorDescription = "" := by
  generalize hrs : none = rs at h
  cases h with
  | rejected query =>
    cases query with
    | noConnection hp => exact absurd hp (val_ne_neg_one i)
    | tooBig => exact Or.inl (by simp [Dll.setConnectionError])
    | pending j hj =>
      obtain rfl : i = j := Fin.ext (by omega)
      refine Or.inr ?_
      simpa using D.message_empty _ _ zero
  | stored =>
    have hread := World.sent_read host i q (w.opening i.val k)
    exact Or.inl (congrArg Prod.snd hread)

/-- After `cMySqlCursorOpen`, number and text in the cell of the connection belong together. -/
theorem OpenOutcome.own {r : ℤ} (h : OpenOutcome host i.val q w r w') :
    TextFits host start (.connection i) (w'.dll.read (.connection i)) := by
  have A := D.accepts start
  cases h with
  | noConnection hp => exact absurd hp (val_ne_neg_one i)
  | full j hj =>
    obtain rfl : i = j := Fin.ext (by omega)
    have hfixed := A.fixed (.connection i) (-3, "Maximum number of opened cursors was exceeded.")
      (by simp [ErrorCell.texts])
    simpa [Dll.read, Dll.setConnectionError] using hfixed
  | opened j hj k free res store =>
    obtain rfl : i = j := Fin.ext (by omega)
    exact store.own_of_some D
  | @refused j hj k free w₂ store =>
    obtain rfl : i = j := Fin.ext (by omega)
    have hgiven := A.given (.connection i) (w.handle i) _ (store.steps.reaches reached)
    simpa [Dll.read, World.blamed, store.handle host i] using hgiven
  | @undecided j hj k free w₂ store zero =>
    obtain rfl : i = j := Fin.ext (by omega)
    have htext := store.text_of_zero D zero
    have hread : (w₂.blamed host i).dll.read (.connection i) =
        (0, (w₂.dll.connections i).mySqlErrorDescription) := by
      simp [Dll.read, World.blamed, store.handle host i, zero]
    rw [hread]
    exact ⟨fun _ => htext, fun hne => absurd rfl hne⟩

end Own

/-- With all cells paired before a call on known ids, all are paired after it exactly when the call pairs them up. -/
theorem call_pairs_iff {e : Exported} {r : e.Reply} (h : (call host turns e).run w = .ok (r, w'))
    (known : OnKnownId w.dll e) (paired : w.dll.Pairs (TextFits host start))
    (reached : LibraryReaches host start w.library) :
    w'.dll.Pairs (TextFits host start) ↔ PairsUp host turns start w e := by
  have A := D.accepts start
  cases e with
  | execute p q =>
    rcases known with rfl | live
    · refine iff_of_true ?_ fun i hi => absurd hi.symm (val_ne_neg_one i)
      exact (cMySqlExecute_outcome host h).pairs_unconnected A paired
    · obtain ⟨i, rfl, -⟩ := exists_slot_of_live live
      have houtcome := cMySqlExecute_outcome host h
      rw [(houtcome.elsewhere A (paired.elsewhere i)).iff_own, houtcome.own_iff D reached]
  | cursorOpen p q =>
    refine iff_of_true ?_ trivial
    rcases known with rfl | live
    · exact (cMySqlCursorOpen_outcome host h).pairs_unconnected A paired
    · obtain ⟨i, rfl, -⟩ := exists_slot_of_live live
      have houtcome := cMySqlCursorOpen_outcome host h
      exact (houtcome.elsewhere A (paired.elsewhere i)).iff_own.mpr (houtcome.own D reached)
  | _ =>
    refine iff_of_true ?_ trivial
    exact call_pairs A paired (fun _ _ steps => LibrarySteps.reaches steps reached) h not_false

/-- When the cells which somebody can read are paired after a call, it pairs up those which it writes. -/
theorem pairsUp_of_cells {e : Exported} {r : e.Reply} (h : (call host turns e).run w = .ok (r, w'))
    (known : OnKnownId w.dll e) (reached : LibraryReaches host start w.library)
    (cells : CellsPaired host start w'.dll) : PairsUp host turns start w e := by
  cases e with
  | execute p q =>
    rcases known with rfl | live
    · exact fun i hi => absurd hi.symm (val_ne_neg_one i)
    · obtain ⟨i, rfl, hlive⟩ := exists_slot_of_live live
      have houtcome := cMySqlExecute_outcome host h
      have hstays : (w'.dll.connections i).id ≠ -1 := by rwa [houtcome.connection_id]
      exact (houtcome.own_iff D reached).mp (cells.live i hstays)
  | _ => trivial

/-- In every run of calls whose connection ids are `-1` or live, number and text belong together in all cells after
every call exactly when every call pairs up what it writes. -/
theorem errorCells_paired_iff {library : σ} {tr : List (Called σ)} (h : DllRun host turns library tr w)
    (known : ∀ x ∈ tr, OnKnownId x.before.dll x.label) :
    (∀ past x future, tr = past ++ x :: future → CellsPaired host library x.after.dll) ↔
      ∀ x ∈ tr, PairsUp host turns library x.before x.label := by
  refine Run.forall_correct_iff
    (fun _ w => w.dll.Pairs (TextFits host library) ∧ LibraryReaches host library w.library)
    (fun x => OnKnownId x.before.dll x.label) (fun past x inv hknown hmeets hx => ?_)
    (fun past x inv hknown hx => ?_) h ?_ known
  · exact ⟨(call_pairs_iff D hx hknown inv.1 inv.2).mpr hmeets, (call_libraryMove hx).reaches inv.2⟩
  · refine ⟨pairsUp_of_cells D hx hknown inv.2, fun hmeets => ?_⟩
    have hpaired := (call_pairs_iff D hx hknown inv.1 inv.2).mpr hmeets
    exact ⟨hpaired _, hpaired _, fun i _ => hpaired _, fun k _ => hpaired _⟩
  · refine ⟨fun cell => ?_, .refl⟩
    cases cell <;> exact ⟨fun _ => Or.inr rfl, fun hne => absurd rfl hne⟩

end Calls

/-- The library over `Server`, which after an error gives no result set. -/
def guardedHost : Host Server :=
  { scriptedHost with
    mysqlStoreResult := fun h s =>
      if scriptedHost.mysqlErrno h s = 0 then scriptedHost.mysqlStoreResult h s else (none, s) }

/-- The guarded library has no result where the scripted one has none. -/
theorem guarded_store_none {h : Option Mysql} {s : Server}
    (hnone : scriptedHost.mysqlErrno h s = 0 → (scriptedHost.mysqlStoreResult h s).1 = none) :
    (guardedHost.mysqlStoreResult h s).1 = none := by
  simp only [guardedHost]
  split
  · exact hnone ‹_›
  · rfl

/-- The guarded library describes its errors. -/
theorem guarded_describesErrors : DescribesErrors guardedHost where
  message_empty h s hzero := if_pos hzero
  query_accepted h q n s hquery := by
    cases h with
    | none => rfl
    | some m =>
      simp only [guardedHost, scriptedHost, Option.elim, Server.realQuery] at hquery ⊢
      split at hquery
      · cases hquery
      · split at hquery
        · simp_all
        · cases hquery
  query_refused h q n s hquery := by
    apply guarded_store_none
    cases h with
    | none => exact fun _ => rfl
    | some m =>
      simp only [guardedHost, scriptedHost, Option.elim] at hquery ⊢
      cases hlink : s.links m with
      | none =>
        rw [s.realQuery_of_none hlink, s.storeResult_of_none hlink]
        exact fun _ => rfl
      | some l =>
        rw [Server.realQuery_of_link hlink] at hquery ⊢
        by_cases hready : l = Link.ready
        · rw [if_pos hready] at hquery ⊢
          by_cases hnumber : Server.numberOf s.answer.list = 0
          · exact absurd (if_pos hnumber) hquery
          · intro hzero
            exact absurd (by simpa using hzero) hnumber
        · rw [if_neg hready]
          simp

/-- A query is executed while a cursor is open. -/
theorem errorCells_paired_sample :
    ∃ (tr : List (Called Server)) (w : World Server),
      DllRun guardedHost 8 (Server.fresh [.ofResultSet]) tr w ∧
        tr.map (·.label) = [.connect .sample, .cursorOpen 0 [83], .execute 0 [68]] ∧
          ((∀ past x future, tr = past ++ x :: future →
            CellsPaired guardedHost (Server.fresh [.ofResultSet]) x.after.dll) ↔
              ∀ x ∈ tr, PairsUp guardedHost 8 (Server.fresh [.ofResultSet]) x.before x.label) := by
  have hcheck : passes (fun run => decide (∀ x ∈ run.1, OnKnownId x.before.dll x.label) &&
        decide (run.1.map (·.label) = [.connect .sample, .cursorOpen 0 [83], .execute 0 [68]]))
      (replay (dllStep guardedHost 8) [.connect .sample, .cursorOpen 0 [83], .execute 0 [68]]
        (attach (Server.fresh [.ofResultSet]))) = true := by
    decide +kernel
  obtain ⟨tr, w, hrun, hcheck⟩ := Run.of_passes hcheck
  simp only [Bool.and_eq_true, decide_eq_true_eq] at hcheck
  exact ⟨tr, w, hrun, hcheck.2, errorCells_paired_iff guarded_describesErrors hrun hcheck.1⟩

/-- The outcomes of a procedure call which returns rows. -/
def Outcomes.ofProcedure : Outcomes := ⟨[.resultSet, .done], by simp, by decide⟩

/-- A cursor is opened on a procedure call, whose last outcome stays pending. The next query is refused with error
2014, the result loop clears the error, and the cell keeps 2014 with the text of a cleared cell. -/
theorem refusedQuery_drifts :
    DescribesErrors guardedHost ∧ ∃ (tr : List (Called Server)) (w : World Server),
      DllRun guardedHost 8 (Server.fresh [.ofProcedure]) tr w ∧
        (∀ x ∈ tr, OnKnownId x.before.dll x.label) ∧
          ¬∀ past x future, tr = past ++ x :: future →
            CellsPaired guardedHost (Server.fresh [.ofProcedure]) x.after.dll := by
  have hcheck : passes (fun run => decide (∀ x ∈ run.1, OnKnownId x.before.dll x.label) &&
        decide (run.1 ≠ []) && decide ((run.2.dll.connections firstConnection).id ≠ -1) &&
          decide (run.2.dll.read (.connection firstConnection) = (2014, "No errors.")))
      (replay (dllStep guardedHost 8) [.connect .sample, .cursorOpen 0 [83], .execute 0 [68]]
        (attach (Server.fresh [.ofProcedure]))) = true := by
    decide +kernel
  obtain ⟨tr, w, hrun, hcheck⟩ := Run.of_passes hcheck
  simp only [Bool.and_eq_true, decide_eq_true_eq] at hcheck
  obtain ⟨⟨⟨known, hne⟩, hlive⟩, hread⟩ := hcheck
  refine ⟨guarded_describesErrors, tr, w, hrun, known, fun hall => ?_⟩
  obtain ⟨past, x, rfl, rfl⟩ := hrun.last_step hne
  have hpaired := (hall past x [] rfl).live firstConnection hlive
  rw [hread] at hpaired
  obtain ⟨h, s, -, -, htext⟩ := (hpaired.described (by decide)).resolve_left (by decide)
  simp only [guardedHost, scriptedHost] at htext
  split at htext
  · exact absurd htext (by decide)
  · exact absurd htext (by decide)

end MqlMySql
