import MqlMySql.Library.Lockstep
import MqlMySql.Spec.SameAnswers
import MqlMySql.Spec.Server

/-!
# Connections and their neighbours

What the queries on one connection give should not depend on the calls made for other connections.
Two runs are compared which make the same queries on a connection, over libraries which answer alike
on its handle. `MySqlExecute` tests the DLL-wide error number, which every failing connect of anybody
sets; the queries give the same results as long as that number has the same sign in both runs.
-/

namespace MqlMySql

open Library

variable {σ : Type}

/-- The call runs a query on the connection. -/
def QueriesOn (c : ℤ) : Exported → Bool
  | .execute p _ | .cursorOpen p _ => decide (p = c)
  | _ => false

/-- The calls which send a query on a connection. -/
theorem queriesOn_iff {c : ℤ} {e : Exported} :
    QueriesOn c e = true ↔ ∃ q, e = .execute c q ∨ e = .cursorOpen c q := by
  cases e with
  | execute p q => simp [QueriesOn]
  | cursorOpen p q => simp [QueriesOn]
  | _ => simp [QueriesOn]

/-- The queries of a run on one connection. -/
def queriesOn (c : ℤ) (tr : List (Called σ)) : List (Called σ) :=
  tr.filter fun x => QueriesOn c x.label

/-- All other calls of a run leave the connection live and the answers on its handle as they are. -/
def Undisturbed (R : σ → σ → Prop) (c : ℤ) (tr : List (Called σ)) : Prop :=
  ∀ x ∈ tr, QueriesOn c x.label = false →
    x.label ≠ .disconnect c ∧ ∀ s, R x.before.library s → R x.after.library s

/-- Two calls run the same query, and for opening either both find a free cursor slot or neither. -/
def SameQuery (x y : Called σ) : Prop :=
  match x.label, y.label with
  | .execute _ q, .execute _ q' => q = q'
  | .cursorOpen _ q, .cursorOpen _ q' =>
    q = q' ∧ (getNewCursorId x.before.dll = -1 ↔ getNewCursorId y.before.dll = -1)
  | _, _ => False

/-- The DLL-wide error number, where the call tests it, has the same sign in both runs. -/
def TestsAlike (x y : Called σ) : Prop :=
  match x.label with
  | .execute _ q => QueryFits q → SignsAgree x.before y.before
  | .cursorOpen _ q =>
    QueryFits q → getNewCursorId x.before.dll ≠ -1 → SignsAgree x.before y.before
  | _ => True

/-- Two queries return the same, up to the number of the cursor. -/
def SameReply : Called σ → Called σ → Prop
  | ⟨_, .execute _ _, (b : Bool), _⟩, ⟨_, .execute _ _, (b' : Bool), _⟩ => b = b'
  | ⟨_, .cursorOpen _ _, (r : ℤ), _⟩, ⟨_, .cursorOpen _ _, (r' : ℤ), _⟩ => r = -1 ↔ r' = -1
  | _, _ => False

/-- Two queries on a connection have the same results: the reply, whether a cursor was opened, and the
error number which is reported then. -/
structure SameResults (c c' : ℤ) (x y : Called σ) : Prop where
  reply : SameReply x y
  opens : OpensCursor x.before x.after ↔ OpensCursor y.before y.after
  number : cGetMySqlErrorNumber c x.after.dll = cGetMySqlErrorNumber c' y.after.dll

variable {host : Host σ} {turns : ℕ} {mysql : Option Mysql} {R : σ → σ → Prop}
  {i i' : Fin maxConnections}

/-- The connection is live on the same handle in both runs, and the answers on it are the same. -/
structure Paired (R : σ → σ → Prop) (mysql : Option Mysql) (i i' : Fin maxConnections)
    (w v : World σ) : Prop where
  left : w.registry.connections i = some mysql
  right : v.registry.connections i' = some mysql
  library : R w.library v.library

/-- A call which does not disconnect the connection keeps it registered. -/
theorem call_keeps_connection {e : Exported} {r : e.Reply} {w w' : World σ}
    (h : (call host turns e).run w = .ok (r, w')) (stays : e ≠ .disconnect i.val)
    (live : w.registry.connections i = some mysql) : w'.registry.connections i = some mysql := by
  cases call_handleStep h with
  | kept connections => rw [connections, live]
  | leaked connections => rw [connections, live]
  | taken j m free connections =>
    have hne : i ≠ j := by
      rintro rfl
      simp [live] at free
    rw [connections, Function.update_of_ne hne, live]
  | dropped j he g hlive connections =>
    have hne : i ≠ j := by
      rintro rfl
      exact stays he
    rw [connections, Function.update_of_ne hne, live]

/-- The number read for a registered connection after one of its queries is the one in its slot. -/
theorem query_number {e : Exported} {r : e.Reply} {w w' : World σ}
    (h : (call host turns e).run w = .ok (r, w')) (hquery : QueriesOn i.val e = true)
    (live : w.registry.connections i = some mysql) :
    cGetMySqlErrorNumber i.val w'.dll = (w'.dll.connections i).mySqlErrorNumber := by
  apply cGetMySqlErrorNumber_of_live
  rw [liveConnection_eq_some_iff]
  refine ⟨rfl, fun hid => ?_⟩
  have hkept : w'.registry.connections i = some mysql := by
    apply call_keeps_connection h _ live
    rintro rfl
    cases hquery
  have hnone : w'.registry.connections i = none := (Dll.registry_connections_eq_none _).mpr hid
  rw [hkept] at hnone
  cases hnone

/-- One query, asked in both runs. -/
theorem query_agree (same : SameAnswers host mysql R) {x y : Called σ}
    (hx : QueriesOn i.val x.label = true) (hy : QueriesOn i'.val y.label = true)
    (hquery : SameQuery x y) (htest : TestsAlike x y)
    (h : dllStep host turns x.label x.before = .ok (x.reply, x.after))
    (h' : dllStep host turns y.label y.before = .ok (y.reply, y.after))
    (start : Paired R mysql i i' x.before y.before) :
    R x.after.library y.after.library ∧ SameResults i.val i'.val x y := by
  obtain ⟨w, e, r, w₁⟩ := x
  obtain ⟨v, e', r', v₁⟩ := y
  have hnumber := query_number h hx start.left
  have hnumber' := query_number h' hy start.right
  have hw := World.handle_of_registry start.left
  have hv := World.handle_of_registry start.right
  obtain ⟨q, rfl | rfl⟩ := queriesOn_iff.mp hx
  · obtain ⟨q', rfl | rfl⟩ := queriesOn_iff.mp hy
    · obtain rfl : q = q' := hquery
      have out := cMySqlExecute_outcome host h
      have out' := cMySqlExecute_outcome host h'
      obtain ⟨hreply, hagree⟩ := out.agree same out' hw hv start.library htest
      refine ⟨hagree.library, hreply, ?_, by rw [hnumber, hnumber', hagree.number]⟩
      exact iff_of_false (not_opensCursor (out.registry host)) (not_opensCursor (out'.registry host))
    · cases hquery
  · obtain ⟨q', rfl | rfl⟩ := queriesOn_iff.mp hy
    · cases hquery
    · obtain ⟨rfl, hslots⟩ := hquery
      obtain ⟨hreply, hagree, hopens⟩ := (cMySqlCursorOpen_outcome host h).agree same
        (cMySqlCursorOpen_outcome host h') hw hv start.library hslots htest
      exact ⟨hagree.library, hreply, hopens, by rw [hnumber, hnumber', hagree.number]⟩

/-- In two runs with the same queries on a connection, over libraries which answer alike on its handle,
all these queries have the same results if the DLL-wide error number has the same sign in both runs
wherever they test it. -/
theorem connections_independent (same : SameAnswers host mysql R) {w w' v v' : World σ}
    {tr tr' : List (Called σ)} (h : Run (dllStep host turns) w tr w')
    (h' : Run (dllStep host turns) v tr' v') (start : Paired R mysql i i' w v)
    (others : Undisturbed R i.val tr) (others' : Undisturbed (flip R) i'.val tr')
    (queries : List.Forall₂ SameQuery (queriesOn i.val tr) (queriesOn i'.val tr'))
    (tests : List.Forall₂ TestsAlike (queriesOn i.val tr) (queriesOn i'.val tr')) :
    List.Forall₂ (SameResults i.val i'.val) (queriesOn i.val tr) (queriesOn i'.val tr') := by
  have hpairs := List.Forall₂.mp (fun x y hq ht => (⟨hq, ht⟩ : SameQuery x y ∧ TestsAlike x y))
    queries tests
  apply Run.lockstep (Paired R mysql i i') h h' _ _ _ start hpairs
  · intro x hx hhidden hstep u hu
    obtain ⟨hstays, hlibrary⟩ := others x hx hhidden
    exact ⟨call_keeps_connection hstep hstays hu.left, hu.right, hlibrary _ hu.library⟩
  · intro y hy hhidden hstep u hu
    obtain ⟨hstays, hlibrary⟩ := others' y hy hhidden
    exact ⟨hu.left, call_keeps_connection hstep hstays hu.right, hlibrary _ hu.library⟩
  · intro x hx y hy hvisible hvisible' hpair hstep hstep' hu
    obtain ⟨hlibrary, hresults⟩ :=
      query_agree same hvisible hvisible' hpair.1 hpair.2 hstep hstep' hu
    have hstays {e : Exported} {j : Fin maxConnections} (hq : QueriesOn j.val e = true) :
        e ≠ .disconnect j.val := by
      rintro rfl
      cases hq
    refine ⟨⟨?_, ?_, hlibrary⟩, hresults⟩
    · exact call_keeps_connection hstep (hstays hvisible) hu.left
    · exact call_keeps_connection hstep' (hstays hvisible') hu.right

/-- Two states of the scripted library which answer alike on a handle. -/
structure Server.AgreeOn (m : Mysql) (s s' : Server) : Prop where
  links : s.links m = s'.links m
  errnos : s.errnos m = s'.errnos m
  script : s.script = s'.script
  results : s.results = s'.results

/-- Moving the handle in the same way keeps the agreement on it. -/
theorem Server.AgreeOn.setLink {m : Mysql} {s s' : Server} (h : Server.AgreeOn m s s') (l : Link)
    (errno : ℕ) (hs : s.links m ≠ none) (hs' : s'.links m ≠ none) :
    Server.AgreeOn m (s.setLink m l errno hs) (s'.setLink m l errno hs') :=
  ⟨by simp, by simp, by simp [h.script], by simp [h.results]⟩

/-- The scripted library answers on a handle by what it knows about the handle. -/
theorem scripted_sameAnswers (m : Mysql) :
    SameAnswers scriptedHost (some m) (Server.AgreeOn m) where
  query {s s'} h q n := by
    have hscript := h.script
    cases hl : s.links m with
    | none => simpa [scriptedHost, s.realQuery_of_none hl, s'.realQuery_of_none (h.links ▸ hl)] using h
    | some l =>
      have hl' : s'.links m = some l := h.links ▸ hl
      simp only [scriptedHost, Option.elim, Server.realQuery_of_link hl, Server.realQuery_of_link hl',
        Server.answer, hscript]
      split
      · exact ⟨by simp, by simp, rfl, h.results⟩
      · exact h.setLink l 2014 (by simp [hl]) (by simp [hl'])
  errno h := h.errnos
  use {s s'} h := by
    have hresults := h.results
    cases hl : s.links m with
    | none => simpa [scriptedHost, s.useResult_of_none hl, s'.useResult_of_none (h.links ▸ hl)] using h
    | some l =>
      have hl' : s'.links m = some l := h.links ▸ hl
      simp only [scriptedHost, Option.elim, Server.useResult_of_link hl, Server.useResult_of_link hl',
        hresults]
      split
      · exact ⟨by simp, by simpa using h.errnos, h.script, rfl⟩
      · split
        · exact h
        · exact h.setLink l 2014 (by simp [hl]) (by simp [hl'])
  store {s s'} h := by
    have hresults := h.results
    cases hl : s.links m with
    | none =>
      simpa [scriptedHost, s.storeResult_of_none hl, s'.storeResult_of_none (h.links ▸ hl)] using h
    | some l =>
      have hl' : s'.links m = some l := h.links ▸ hl
      simp only [scriptedHost, Option.elim, Server.storeResult_of_link hl,
        Server.storeResult_of_link hl', hresults]
      split
      · exact ⟨rfl, by simp, by simpa using h.errnos, h.script, rfl⟩
      · split
        · exact ⟨rfl, h⟩
        · exact ⟨rfl, h.setLink l 2014 (by simp [hl]) (by simp [hl'])⟩
  more h := by
    simp [scriptedHost, Server.moreResults, h.links]
  next {s s'} h := by
    cases hl : s.links m with
    | none => simpa [scriptedHost, s.nextResult_of_none hl, s'.nextResult_of_none (h.links ▸ hl)] using h
    | some l =>
      have hl' : s'.links m = some l := h.links ▸ hl
      simp only [scriptedHost, Option.elim, Server.nextResult_of_link hl,
        Server.nextResult_of_link hl']
      split
      · exact ⟨rfl, h.setLink l 2014 (by simp [hl]) (by simp [hl'])⟩
      · split
        · exact ⟨rfl, h⟩
        · exact ⟨rfl, h.setLink _ _ (by simp [hl]) (by simp [hl'])⟩
  free {s s'} h res := by
    cases res with
    | none => exact h
    | some res =>
      have hlinks : (s.freeResult res).links m = (s'.freeResult res).links m := by
        simp only [Server.freeResult, h.links]
      exact ⟨hlinks, h.errnos, h.script, h.results⟩

instance (m : Mysql) (s s' : Server) : Decidable (Server.AgreeOn m s s') :=
  decidable_of_iff (s.links m = s'.links m ∧ s.errnos m = s'.errnos m ∧ s.script = s'.script ∧
    s.results = s'.results) ⟨fun h => ⟨h.1, h.2.1, h.2.2.1, h.2.2.2⟩,
      fun h => ⟨h.links, h.errnos, h.script, h.results⟩⟩

instance (x y : Called σ) : Decidable (SameQuery x y) := by
  unfold SameQuery
  split <;> infer_instance

instance (x y : Called σ) : Decidable (TestsAlike x y) := by
  unfold TestsAlike
  split <;> infer_instance

instance (x y : Called σ) : Decidable (SameReply x y) := by
  unfold SameReply
  split <;> infer_instance

/-- Agreement on a handle goes both ways. -/
theorem Server.AgreeOn.symm {m : Mysql} {s s' : Server} (h : Server.AgreeOn m s s') :
    Server.AgreeOn m s' s :=
  ⟨h.links.symm, h.errnos.symm, h.script.symm, h.results.symm⟩

/-- Agreement on a handle can be chained. -/
theorem Server.AgreeOn.trans {m : Mysql} {s s' s'' : Server} (h : Server.AgreeOn m s s')
    (h' : Server.AgreeOn m s' s'') : Server.AgreeOn m s s'' :=
  ⟨h.links.trans h'.links, h.errnos.trans h'.errnos, h.script.trans h'.script,
    h.results.trans h'.results⟩

/-- Connect, then run one query with a neighbour connecting before it, and without. -/
def neighbourRuns (c : Credentials) :
    Except Fault ((List (Called Server) × World Server) × (List (Called Server) × World Server) ×
      (List (Called Server) × World Server)) := do
  let start ← replay (dllStep scriptedHost 8) [.connect .sample] (attach (Server.fresh []))
  let left ← replay (dllStep scriptedHost 8) [.connect c, .execute 0 [83]] start.2
  let right ← replay (dllStep scriptedHost 8) [.execute 0 [83]] start.2
  return (start, left, right)

/-- The calls other than the queries leave the answers on the first handle as they are. -/
def Aloof (tr : List (Called Server)) : Prop :=
  ∀ x ∈ tr, QueriesOn firstConnection.val x.label = false →
    x.label ≠ .disconnect firstConnection.val ∧
      Server.AgreeOn ⟨0⟩ x.before.library x.after.library

instance (tr : List (Called Server)) : Decidable (Aloof tr) :=
  inferInstanceAs (Decidable (∀ x ∈ tr, QueriesOn firstConnection.val x.label = false →
    x.label ≠ .disconnect firstConnection.val ∧
      Server.AgreeOn ⟨0⟩ x.before.library x.after.library))

/-- A run aloof from the first connection leaves its handle undisturbed, in both directions. -/
theorem Aloof.undisturbed {tr : List (Called Server)} (h : Aloof tr) :
    Undisturbed (Server.AgreeOn ⟨0⟩) firstConnection.val tr ∧
      Undisturbed (flip (Server.AgreeOn ⟨0⟩)) firstConnection.val tr := by
  constructor
  · intro x hx hhidden
    obtain ⟨hstays, hsame⟩ := h x hx hhidden
    exact ⟨hstays, fun s hs => hsame.symm.trans hs⟩
  · intro x hx hhidden
    obtain ⟨hstays, hsame⟩ := h x hx hhidden
    exact ⟨hstays, fun s hs => Server.AgreeOn.trans hs hsame⟩

/-- The two runs meet what `connections_independent` asks, apart from the tests. -/
structure Comparable (w : World Server) (tr tr' : List (Called Server)) : Prop where
  live : w.registry.connections firstConnection = some (some ⟨0⟩)
  left : Aloof tr
  right : Aloof tr'
  queries : List.Forall₂ SameQuery (queriesOn firstConnection.val tr)
    (queriesOn firstConnection.val tr')

instance (w : World Server) (tr tr' : List (Called Server)) : Decidable (Comparable w tr tr') :=
  decidable_of_iff (w.registry.connections firstConnection = some (some ⟨0⟩) ∧ Aloof tr ∧
    Aloof tr' ∧ List.Forall₂ SameQuery (queriesOn firstConnection.val tr)
      (queriesOn firstConnection.val tr'))
    ⟨fun h => ⟨h.1, h.2.1, h.2.2.1, h.2.2.2⟩, fun h => ⟨h.live, h.left, h.right, h.queries⟩⟩

/-- The runs with and without the neighbour, and what a check of them established. -/
theorem neighbourRuns_spec {c : Credentials} {P : List (Called Server) → List (Called Server) → Prop}
    [∀ tr tr', Decidable (P tr tr')]
    (h : passes (fun runs => decide (Comparable runs.1.2 runs.2.1.1 runs.2.2.1 ∧
      P (queriesOn firstConnection.val runs.2.1.1) (queriesOn firstConnection.val runs.2.2.1)))
        (neighbourRuns c) = true) :
    ∃ (past tr tr' : List (Called Server)) (w w' v' : World Server),
      DllRun scriptedHost 8 (Server.fresh []) past w ∧ Run (dllStep scriptedHost 8) w tr w' ∧
        Run (dllStep scriptedHost 8) w tr' v' ∧ Comparable w tr tr' ∧
          P (queriesOn firstConnection.val tr) (queriesOn firstConnection.val tr') := by
  obtain ⟨⟨⟨past, w⟩, ⟨tr, w'⟩, ⟨tr', v'⟩⟩, hruns, hcheck⟩ := exists_of_passes h
  obtain ⟨hcomparable, hP⟩ := of_decide_eq_true hcheck
  simp only [neighbourRuns] at hruns
  obtain ⟨start, hstart, hruns⟩ := bind_eq_ok_iff.mp hruns
  obtain ⟨left, hleft, hruns⟩ := bind_eq_ok_iff.mp hruns
  obtain ⟨right, hright, hruns⟩ := bind_eq_ok_iff.mp hruns
  cases hruns
  exact ⟨past, tr, tr', w, w', v', Run.of_replay hstart, Run.of_replay hleft, Run.of_replay hright,
    hcomparable, hP⟩

/-- A query after a neighbour has connected, and the same query without it. -/
theorem connections_independent_sample :
    ∃ (tr tr' : List (Called Server)) (w w' v' : World Server),
      Run (dllStep scriptedHost 8) w tr w' ∧ Run (dllStep scriptedHost 8) w tr' v' ∧
        List.Forall₂ (SameResults firstConnection.val firstConnection.val)
          (queriesOn firstConnection.val tr) (queriesOn firstConnection.val tr') := by
  obtain ⟨past, tr, tr', w, w', v', -, hleft, hright, hcomparable, htests⟩ :=
    @neighbourRuns_spec .sample (List.Forall₂ TestsAlike) _ (by decide +kernel)
  refine ⟨tr, tr', w, w', v', hleft, hright, ?_⟩
  exact connections_independent (scripted_sameAnswers ⟨0⟩) hleft hright
    ⟨hcomparable.live, hcomparable.live, ⟨rfl, rfl, rfl, rfl⟩⟩ hcomparable.left.undisturbed.1
    hcomparable.right.undisturbed.2 hcomparable.queries htests

/-- A query which succeeds on its own fails after a neighbour was refused. -/
theorem connections_not_independent :
    ∃ (past tr tr' : List (Called Server)) (w w' v' : World Server),
      DllRun scriptedHost 8 (Server.fresh []) past w ∧ Run (dllStep scriptedHost 8) w tr w' ∧
        Run (dllStep scriptedHost 8) w tr' v' ∧
          SameAnswers scriptedHost (some ⟨0⟩) (Server.AgreeOn ⟨0⟩) ∧
          Paired (Server.AgreeOn ⟨0⟩) (some ⟨0⟩) firstConnection firstConnection w w ∧
          Undisturbed (Server.AgreeOn ⟨0⟩) firstConnection.val tr ∧
          Undisturbed (flip (Server.AgreeOn ⟨0⟩)) firstConnection.val tr' ∧
          List.Forall₂ SameQuery (queriesOn firstConnection.val tr)
            (queriesOn firstConnection.val tr') ∧
          ¬ List.Forall₂ (SameResults firstConnection.val firstConnection.val)
            (queriesOn firstConnection.val tr) (queriesOn firstConnection.val tr') := by
  obtain ⟨past, tr, tr', w, w', v', hpast, hleft, hright, hcomparable, hdiffer⟩ :=
    @neighbourRuns_spec .anonymous (fun l l' => ¬ List.Forall₂ SameReply l l') _ (by decide +kernel)
  refine ⟨past, tr, tr', w, w', v', hpast, hleft, hright, scripted_sameAnswers ⟨0⟩,
    ⟨hcomparable.live, hcomparable.live, ⟨rfl, rfl, rfl, rfl⟩⟩, hcomparable.left.undisturbed.1,
    hcomparable.right.undisturbed.2, hcomparable.queries, fun hsame => hdiffer ?_⟩
  exact hsame.imp fun _ _ h => h.reply

end MqlMySql
