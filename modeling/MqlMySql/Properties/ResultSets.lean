import MqlMySql.Spec.LinkSteps
import MqlMySql.Spec.Settlement
import MqlMySql.Spec.Server

/-!
# Every result set is released once

From process attach to process detach, each result set which the library hands out should be passed to
`mysql_free_result` exactly once. `cMySqlExecute` loses the result set which it asked for first, and frees
the one with which its loop ends a second time. `ReleasesAll` says which queries avoid both.
-/

namespace MqlMySql

open Library

variable {σ : Type} {host : Host σ} {link : σ → Mysql → Option Link}
  {outcomes : σ → Mysql → List UInt8 → Outcomes}

/-- When executing a query releases what it obtains: no result set waits when the query has been sent,
and the last outcome before the end or before an error has no rows. -/
def ReleasesAll (link : σ → Mysql → Option Link) (outcomes : σ → Mysql → List UInt8 → Outcomes)
    (w : World σ) : Exported → Prop
  | .execute p q => ∀ i : Fin maxConnections, p = i.val → QueryFits q → w.dll.mySqlErrorNumber ≤ 0 →
      ∀ m ∈ w.handle i, ∀ l ∈ link w.library m,
        (l.afterQuery (outcomes w.library m (sentQuery q)).list).untaken = false ∧
          (l.afterQuery (outcomes w.library m (sentQuery q)).list).endsWithRows = false
  | _ => True

instance (w : World σ) : (e : Exported) → Decidable (ReleasesAll link outcomes w e)
  | .execute _ _ => inferInstanceAs (Decidable (∀ _, _))
  | .connect _ | .disconnect _ | .cursorOpen _ _ | .cursorClose _ | .cursorRows _
  | .cursorFetchRow _ | .getRowField _ _ | .rowsAffected _ => isTrue trivial
  | .getMySqlErrorNumber _ | .getMySqlErrorDescription _ | .getCursorErrorNumber _
  | .getCursorErrorDescription _ => isTrue trivial

/-- No connection is busy, and only the last outcome left on it may be an error. -/
def Link.Calm (l : Link) : Prop := l.Idle ∧ ErrorLast l.rest

/-- A ready link is calm. -/
theorem Link.calm_ready : Link.ready.Calm := ⟨rfl, by simp [Link.ready, ErrorLast]⟩

/-- A query leaves a calm link calm, as its outcomes end with the error if there is one. -/
theorem Link.Calm.afterQuery {l : Link} (h : l.Calm) (os : Outcomes) : (l.afterQuery os.list).Calm :=
  ⟨h.1.afterQuery os.list, Link.errorLast_afterQuery h.2 os⟩

section Steps

variable (P : Protocol host link outcomes) {turns : ℕ} {e : Exported} {r : e.Reply} {w w' : World σ}
include P

/-- Under the condition the links stay calm. -/
theorem calm_step (inv : LinksHold link Link.Calm w) (live : OnLiveId w.dll e)
    (meets : ReleasesAll link outcomes w e) (h : (call host turns e).run w = .ok (r, w')) :
    LinksHold link Link.Calm w' := by
  apply inv.step P (fun l hl => hl.1) (fun l hl => hl.2) Link.calm_ready h live
  intro hquery i m l hon hp
  have hcalm := inv.good hon
  cases e with
  | execute p q =>
    obtain rfl := hp p q (Or.inl rfl)
    obtain ⟨-, l', hl', heffect⟩ :=
      (cMySqlExecute_outcome host h).links P hon.handle hon.linked hcalm.1 hcalm.2
    refine ⟨l', hl', ?_⟩
    by_cases fits : QueryFits q
    · by_cases positive : 0 < w.dll.mySqlErrorNumber
      · rw [heffect.pending fits positive]
        exact hcalm.afterQuery _
      · have quiet := not_lt.mp positive
        rw [heffect.drained fits quiet (meets i rfl fits quiet m hon.handle l hon.linked).1]
        exact Link.calm_ready
    · rw [heffect.unsent fits]
      exact hcalm
  | cursorOpen p q =>
    obtain rfl := hp p q (Or.inr rfl)
    obtain ⟨-, hl'⟩ := (cMySqlCursorOpen_outcome host h).links P hon.handle hon.linked hcalm.1
    refine ⟨_, hl', ?_⟩
    split
    · split
      · exact hcalm.afterQuery _
      · exact hcalm.afterQuery _
    · exact hcalm
  | _ => cases hquery

/-- Under the condition the balance is kept. -/
theorem balanced_step (inv : LinksHold link Link.Calm w) (balance : Balanced w)
    (live : OnLiveId w.dll e) (meets : ReleasesAll link outcomes w e)
    (h : (call host turns e).run w = .ok (r, w')) : Balanced w' := by
  cases e with
  | execute p q =>
    obtain ⟨i, m, l, rfl, hon, hcalm⟩ := inv.onLink live
    have hsent := P.sent_link (q := q) hon.handle hon.linked
    have hcalm' := hcalm.afterQuery (outcomes w.library m (sentQuery q))
    apply (cMySqlExecute_outcome host h).balanced balance
    · intro j hj fits quiet
      obtain rfl : i = j := Fin.ext (by omega)
      obtain ⟨hwaits, -⟩ := meets i rfl fits quiet m hon.handle l hon.linked
      rw [hon.handle]
      exact (P.use_none _ m _ hsent hwaits).1
    · intro j rSet w₂ hj fits quiet drained
      obtain rfl : i = j := Fin.ext (by omega)
      obtain ⟨hwaits, hends⟩ := meets i rfl fits quiet m hon.handle l hon.linked
      have hused : link ((w.sent host i q).used host i).library m =
          some (l.afterQuery (outcomes w.library m (sentQuery q)).list) := by
        simpa [World.used, hon.handle] using (P.use_none _ m _ hsent hwaits).2
      rw [hon.handle] at drained
      have hlast := P.drainResults_last hused hcalm'.1 hcalm'.2 drained
      rwa [hends, Option.isSome_eq_false_iff, Option.isNone_iff_eq_none] at hlast
  | cursorOpen p q => exact (cMySqlCursorOpen_outcome host h).balanced balance
  | cursorClose p => exact (cMySqlCursorClose_outcome host h).balanced balance
  | _ =>
    exact balance.of_same (SameResultSets.of_transfers (call_transfers h trivial (by simp)))
      ((call_refines host h).cursors trivial)

/-- From process attach to process detach, if every call on a live id meets the condition and the library
hands out fresh result sets, each of them is released exactly once. -/
theorem resultSets_released_once {library : σ} {tr : List (Called σ)}
    (h : DllRun host turns library tr w) (live : ∀ x ∈ tr, OnLiveId x.before.dll x.label)
    (meets : ∀ x ∈ tr, ReleasesAll link outcomes x.before x.label)
    (hdetach : (detach host).run w = .ok ((), w')) (fresh : w'.obtained.Nodup) :
    ∀ res ∈ w'.obtained, w'.released.count res = 1 := by
  have hend : LinksHold link Link.Calm w ∧ Balanced w := by
    apply h.keeps (fun w => LinksHold link Link.Calm w ∧ Balanced w) _
      ⟨LinksHold.attached _ library, Balanced.attached library⟩
    rintro x hx hstep ⟨hcalm, hbalance⟩
    exact ⟨calm_step P hcalm (live x hx) (meets x hx) hstep,
      balanced_step P hcalm hbalance (live x hx) (meets x hx) hstep⟩
  rw [eq_detached_of_run host hdetach] at fresh ⊢
  intro res hres
  rw [← hend.2.detached res]
  exact List.count_eq_one_of_mem fresh hres

end Steps

/-- A run in which a statement is executed and a cursor is left open. -/
theorem resultSets_released_sample :
    ∃ (tr : List (Called Server)) (w w' : World Server),
      DllRun scriptedHost 8 (Server.fresh [.ofDone, .ofResultSet]) tr w ∧
        (detach scriptedHost).run w = .ok ((), w') ∧ w'.obtained = [⟨0⟩] ∧
          ∀ res ∈ w'.obtained, w'.released.count res = 1 := by
  have hcheck : passes (fun run => decide ((∀ x ∈ run.1, OnLiveId x.before.dll x.label ∧
        ReleasesAll Server.links (fun s _ _ => s.answer) x.before x.label) ∧
      passes (fun w' => decide (w'.2.obtained = [⟨0⟩])) ((detach scriptedHost).run run.2) = true))
      (replay (dllStep scriptedHost 8) [.connect .sample, .execute 0 [83], .cursorOpen 0 [83]]
        (attach (Server.fresh [.ofDone, .ofResultSet]))) = true := by
    decide +kernel
  obtain ⟨tr, w, hrun, hcheck⟩ := Run.of_passes hcheck
  obtain ⟨hsteps, hdetached⟩ := of_decide_eq_true hcheck
  obtain ⟨⟨⟨⟩, w'⟩, hdetach, hobtained⟩ := exists_of_passes hdetached
  have hobtained : w'.obtained = [⟨0⟩] := of_decide_eq_true hobtained
  refine ⟨tr, w, w', hrun, hdetach, hobtained, ?_⟩
  exact resultSets_released_once scripted_protocol hrun (fun x hx => (hsteps x hx).1)
    (fun x hx => (hsteps x hx).2) hdetach (by simp [hobtained])

/-- The result set of a single query through `cMySqlExecute` is never released. -/
theorem resultSets_not_released_once :
    ∃ (tr : List (Called Server)) (w w' : World Server),
      DllRun scriptedHost 8 (Server.fresh [.ofResultSet]) tr w ∧
        (∀ x ∈ tr, OnLiveId x.before.dll x.label) ∧ (detach scriptedHost).run w = .ok ((), w') ∧
          w'.obtained.Nodup ∧ ¬ ∀ res ∈ w'.obtained, w'.released.count res = 1 := by
  have hcheck : passes (fun run => decide ((∀ x ∈ run.1, OnLiveId x.before.dll x.label) ∧
      passes (fun w' => decide (w'.2.obtained = [⟨0⟩] ∧ w'.2.released = []))
        ((detach scriptedHost).run run.2) = true))
      (replay (dllStep scriptedHost 8) [.connect .sample, .execute 0 [83]]
        (attach (Server.fresh [.ofResultSet]))) = true := by
    decide +kernel
  obtain ⟨tr, w, hrun, hcheck⟩ := Run.of_passes hcheck
  obtain ⟨hlive, hdetached⟩ := of_decide_eq_true hcheck
  obtain ⟨⟨⟨⟩, w'⟩, hdetach, hsets⟩ := exists_of_passes hdetached
  obtain ⟨hobtained, hreleased⟩ : w'.obtained = [⟨0⟩] ∧ w'.released = [] := of_decide_eq_true hsets
  refine ⟨tr, w, w', hrun, hlive, hdetach, by simp [hobtained], fun hall => ?_⟩
  have hone := hall ⟨0⟩ (by simp [hobtained])
  simp [hreleased] at hone

end MqlMySql
