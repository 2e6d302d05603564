import MqlMySql.Spec.Links
import MqlMySql.Spec.Opening

/-!
# What the exported calls do to the links

The links of the live connections under every exported call: executing and opening a cursor work on
the link of their own connection, connecting makes one, and no other call moves any.
-/

namespace MqlMySql

open Library

variable {σ : Type} {host : Host σ} {link : σ → Mysql → Option Link}
  {outcomes : σ → Mysql → List UInt8 → Outcomes}

/-- What executing a query leaves on the link of its connection. `sent` is the link after the query was
sent, and `n` the DLL-wide error number which `MySqlExecute` tests. -/
structure ExecutedLink (l sent : Link) (q : WStr) (n : ℤ) (l' : Link) : Prop where
  unsent : ¬ QueryFits q → l' = l
  pending : QueryFits q → 0 < n → l' = sent
  drained : QueryFits q → n ≤ 0 → sent.untaken = false → l' = Link.ready
  busy : QueryFits q → n ≤ 0 → sent.untaken = true → ¬ l'.Idle

section Queries

variable (P : Protocol host link outcomes) {i : Fin maxConnections} {m : Mysql} {q : WStr} {l : Link}
  {w w' : World σ}
include P

/-- How the result loop of `cMySqlExecute` leaves the link on which the query was sent. -/
theorem Protocol.executed_link (hm : w.handle i = some m) (hl : link w.library m = some l)
    (hidle : l.Idle) (hlast : ErrorLast l.rest) {turns : ℕ} {rSet : Option MysqlRes} {w₂ : World σ}
    (drained : (drainResults host (some m) turns).run (w.used host i) = .ok (rSet, w₂)) :
    (l.untaken = false → link w₂.library m = some Link.ready) ∧
      (l.untaken = true → rSet = none ∧ ∃ l', link w₂.library m = some l' ∧ ¬ l'.Idle) := by
  constructor
  · intro hwaits
    have hused : link (w.used host i).library m = some l := by
      simpa [World.used, hm] using (P.use_none _ m l hl hwaits).2
    exact P.drainResults_link hused hidle hlast drained
  · intro hwaits
    obtain ⟨res, -, huse⟩ := P.use_some _ m l hl hwaits
    have hused : link (w.used host i).library m = some { l.taken with inUse := some res } := by
      simpa [World.used, hm] using huse
    obtain ⟨hnone, hlink⟩ := P.drainResults_busy hused (by simp) rfl drained
    exact ⟨hnone, _, hlink, by simp [Link.Idle]⟩

/-- Executing a query, seen from the links. -/
theorem ExecuteOutcome.links {turns : ℕ} {b : Bool} (h : ExecuteOutcome host turns i.val q w b w')
    (hm : w.handle i = some m) (hl : link w.library m = some l) (hidle : l.Idle)
    (hlast : ErrorLast l.rest) :
    SparesOthers link (some m) w.library w'.library ∧
      ∃ l', link w'.library m = some l' ∧
        ExecutedLink l (l.afterQuery (outcomes w.library m (sentQuery q)).list) q
          w.dll.mySqlErrorNumber l' := by
  have hsent := P.sent_link (q := q) hm hl
  have hspares := P.sent_spares (q := q) hm
  have hhandle : (w.sent host i q).handle i = some m := by rw [World.sent_handle, hm]
  have hidle' := hidle.afterQuery (outcomes w.library m (sentQuery q)).list
  have hlast' := Link.errorLast_afterQuery hlast (outcomes w.library m (sentQuery q))
  generalize l.afterQuery (outcomes w.library m (sentQuery q)).list = sent at *
  have hdrained {rSet : Option MysqlRes} {w₂ : World σ} (fits : QueryFits q)
      (quiet : w.dll.mySqlErrorNumber ≤ 0)
      (drained : (drainResults host (w.handle i) turns).run ((w.sent host i q).used host i) =
        .ok (rSet, w₂)) :
      SparesOthers link (some m) w.library (host.mysqlFreeResult rSet w₂.library) ∧
        ∃ l', link (host.mysqlFreeResult rSet w₂.library) m = some l' ∧
          ExecutedLink l sent q w.dll.mySqlErrorNumber l' := by
    rw [hm] at drained
    have hused : SparesOthers link (some m) (w.sent host i q).library
        ((w.sent host i q).used host i).library := by
      rw [World.used, hhandle]
      exact P.use_spares m _
    have hall := (hspares.trans hused).trans (P.drained_spares drained)
    refine ⟨hall.trans (P.free_spares _ _).of_none, ?_⟩
    obtain ⟨hready, hbusy⟩ := P.executed_link hhandle hsent hidle' hlast' drained
    cases hwaits : sent.untaken with
    | false =>
      have hlink := P.free_spares rSet w₂.library m _ (by simp) (hready hwaits) rfl
      refine ⟨_, hlink, ⟨fun h => absurd fits h, fun _ hn => ?_, fun _ _ _ => rfl, fun _ _ h => ?_⟩⟩
      · omega
      · rw [hwaits] at h
        cases h
    | true =>
      obtain ⟨rfl, l', hl', hnot⟩ := hbusy hwaits
      refine ⟨l', ?_, ⟨fun h => absurd fits h, fun _ hn => ?_, fun _ _ h => ?_, fun _ _ _ => hnot⟩⟩
      · rw [P.free_null, hl']
      · omega
      · rw [hwaits] at h
        cases h
  cases h with
  | rejected query =>
    rw [query.library]
    by_cases fits : QueryFits q
    · rw [if_pos fits]
      refine ⟨hspares, sent, hsent, ⟨fun h => absurd fits h, fun _ _ => rfl, fun _ hn => ?_,
        fun _ hn => ?_⟩⟩
      all_goals
        cases query with
        | noConnection hp => exact absurd hp (val_ne_neg_one i)
        | tooBig _ big => exact absurd fits big
        | pending _ _ _ positive => omega
    · rw [if_neg fits]
      exact ⟨SparesOthers.refl _ _, l, hl, ⟨fun _ => rfl, fun h => absurd h fits,
        fun h => absurd h fits, fun h => absurd h fits⟩⟩
  | failed j hp fits quiet drained =>
    obtain rfl : i = j := Fin.ext (by omega)
    simp only [World.commanded_library, World.onDll_library, World.inspected_library]
    exact hdrained fits quiet drained
  | succeeded j hp fits quiet drained =>
    obtain rfl : i = j := Fin.ext (by omega)
    simp only [World.commanded_library, World.inspected_library]
    exact hdrained fits quiet drained

/-- Opening a cursor, seen from the links: when a slot is free the query is sent, and when it is
accepted the first result is taken. -/
theorem OpenOutcome.links {r : ℤ} (h : OpenOutcome host i.val q w r w')
    (hm : w.handle i = some m) (hl : link w.library m = some l) (hidle : l.Idle) :
    SparesOthers link (some m) w.library w'.library ∧
      link w'.library m = some (if getNewCursorId w.dll ≠ -1 ∧ QueryFits q then
        if 0 < w.dll.mySqlErrorNumber then
          l.afterQuery (outcomes w.library m (sentQuery q)).list
        else (l.afterQuery (outcomes w.library m (sentQuery q)).list).taken
      else l) := by
  have hsent := P.sent_link (q := q) hm hl
  have hspares := P.sent_spares (q := q) hm
  have hidle' := hidle.afterQuery (outcomes w.library m (sentQuery q)).list
  generalize l.afterQuery (outcomes w.library m (sentQuery q)).list = sent at *
  rcases h.result with ⟨hfull, full⟩ | ⟨k, rs, w₂, hfree, store, result⟩
  · rw [full.library, if_neg (by simp [hfull])]
    exact ⟨SparesOthers.refl _ _, hl⟩
  have hslot : getNewCursorId w.dll ≠ -1 := by
    rw [hfree]
    exact val_ne_neg_one k
  have hnumber : (w.opening i.val k).dll.mySqlErrorNumber = w.dll.mySqlErrorNumber := by
    simp [World.opening]
  rw [result.library]
  cases store with
  | rejected query =>
    rw [query.library, World.opening_sent_library, World.opening_library]
    by_cases fits : QueryFits q
    · have positive : 0 < w.dll.mySqlErrorNumber := by
        cases query with
        | noConnection hp => exact absurd hp (val_ne_neg_one i)
        | tooBig _ big => exact absurd fits big
        | pending _ _ _ positive => rwa [hnumber] at positive
      rw [if_pos fits, if_pos ⟨hslot, fits⟩, if_pos positive]
      exact ⟨hspares, hsent⟩
    · rw [if_neg fits, if_neg fun hboth => fits hboth.2]
      exact ⟨SparesOthers.refl _ _, hl⟩
  | stored fits quiet =>
    rw [if_pos ⟨hslot, fits⟩, if_neg (not_lt.mpr quiet)]
    simp only [World.onDll_library, World.performed_library, World.opening_sent_library, hm]
    exact ⟨hspares.trans (P.store_spares m _), P.stored_link hsent hidle'⟩

end Queries

/-- Every open cursor holds a record set. -/
def Registry.Stored (t : Registry) : Prop := ∀ k c, t.cursors k = some c → c.2 ≠ none

/-- A step keeps that every open cursor has a record set. -/
theorem Registry.Step.stored {e : Exported} {r : e.Reply} {t t' : Registry} (h : Registry.Step e r t t')
    (stored : t.Stored) : t'.Stored := by
  cases h with
  | opened i k res free =>
    intro j c hc
    by_cases hjk : j = k
    · subst hjk
      simp only [Registry.openCursor, Function.update_self, Option.some.injEq] at hc
      simp [← hc]
    · simp only [Registry.openCursor, Function.update_of_ne hjk] at hc
      exact stored j c hc
  | closed k isOpen =>
    intro j c hc
    by_cases hjk : j = k
    · simp [Registry.closeCursor, hjk] at hc
    · simp only [Registry.closeCursor, Function.update_of_ne hjk] at hc
      exact stored j c hc
  | connected | notConnected | disconnected | notDisconnected | notOpened | undecided | notClosed
  | kept => exact stored

/-- Every live connection has a handle of its own, and the links of these handles are good. -/
structure LinksHold (link : σ → Mysql → Option Link) (Good : Link → Prop) (w : World σ) : Prop where
  linked : ∀ i h, w.registry.connections i = some h →
    ∃ m l, h = some m ∧ link w.library m = some l ∧ Good l
  distinct : w.registry.connections.Distinct
  stored : w.registry.Stored

/-- At attach there is no connection to have a link. -/
theorem LinksHold.attached (Good : Link → Prop) (library : σ) :
    LinksHold link Good (attach library) where
  linked i h hi := by simp [Registry.empty] at hi
  distinct i j h hi _ := by simp [Registry.empty] at hi
  stored k c hc := by simp [Registry.empty] at hc

section Steps

variable (P : Protocol host link outcomes) {Good : Link → Prop} {w w' : World σ}

/-- A call which works on the link of one handle only has to leave that one good. -/
theorem LinksHold.of_spares (inv : LinksHold link Good w) (idle : ∀ l, Good l → l.Idle)
    {m : Option Mysql} (connections : w'.registry.connections = w.registry.connections)
    (stored : w'.registry.Stored) (spares : SparesOthers link m w.library w'.library)
    (own : ∀ i m', m = some m' → w.registry.connections i = some (some m') →
      ∃ l, link w'.library m' = some l ∧ Good l) : LinksHold link Good w' where
  linked i h hi := by
    rw [connections] at hi
    obtain ⟨m', l, rfl, hl, hgood⟩ := inv.linked i h hi
    by_cases hm : m = some m'
    · obtain ⟨l', hl', hgood'⟩ := own i m' hm hi
      exact ⟨m', l', rfl, hl', hgood'⟩
    · exact ⟨m', l, rfl, spares m' l hm hl (idle l hgood), hgood⟩
  distinct := by
    rw [connections]
    exact inv.distinct
  stored := stored

include P in
/-- While a handle is allocated and connected, no link which exists already moves. -/
theorem Protocol.asked_link {c : Credentials} {mysql m : Mysql} {l : Link}
    (allocated : (host.mysqlInit w.library).1 = some mysql) (hl : link w.library m = some l) :
    m ≠ mysql ∧ link (w.asked host c mysql).library m = some l := by
  have hne : m ≠ mysql := by
    rintro rfl
    rw [P.init_fresh _ _ allocated] at hl
    cases hl
  refine ⟨hne, ?_⟩
  simp only [World.asked, World.performed_library, World.onDll_library]
  rw [P.connect_frame _ _ _ _ hne, P.init_frame, hl]
  rw [allocated]
  simpa using hne.symm

include P in
/-- A new connection has a ready link, and the others keep theirs. -/
theorem ConnectOutcome.linksHold {c : Credentials} {r : ℤ} (h : ConnectOutcome host c w r w')
    (inv : LinksHold link Good w) (ready : Good Link.ready) : LinksHold link Good w' := by
  have hstored := (h.step host).stored inv.stored
  cases h with
  | full => exact ⟨by simpa using inv.linked, by simpa using inv.distinct, hstored⟩
  | unallocated answer =>
    refine ⟨fun i h hi => ?_, by simpa using inv.distinct, hstored⟩
    obtain ⟨m, l, rfl, hl, hgood⟩ := inv.linked i h (by simpa using hi)
    refine ⟨m, l, rfl, ?_, hgood⟩
    simp only [World.onDll_library, World.performed_library]
    rw [P.init_frame _ _ (by simp [answer]), hl]
  | refused i free mysql allocated answer =>
    have hregistry := World.asked_registry host c mysql free (w.connectAnswer host c mysql)
    refine ⟨fun j h hj => ?_, by simpa [hregistry] using inv.distinct, hstored⟩
    obtain ⟨m, l, rfl, hl, hgood⟩ := inv.linked j h (by simpa [hregistry] using hj)
    exact ⟨m, l, rfl, (P.asked_link allocated hl).2, hgood⟩
  | connected i free mysql allocated answer =>
    rw [World.connected_registry host c mysql free] at hstored
    refine ⟨fun j h hj => ?_, ?_, by rw [World.connected_registry host c mysql free]; exact hstored⟩
    · rw [World.connected_registry host c mysql free, Registry.connect] at hj
      by_cases hji : j = i
      · subst hji
        simp only [Function.update_self, Option.some.injEq] at hj
        exact ⟨mysql, Link.ready, hj.symm, P.connect_ready _ _ _ answer, ready⟩
      · simp only [Function.update_of_ne hji] at hj
        obtain ⟨m, l, rfl, hl, hgood⟩ := inv.linked j h hj
        exact ⟨m, l, rfl, (P.asked_link allocated hl).2, hgood⟩
    · rw [World.connected_registry host c mysql free, Registry.connect]
      apply inv.distinct.take
      intro j hj
      obtain ⟨m, l, hm, hl, -⟩ := inv.linked j _ hj
      cases hm
      exact (P.asked_link (c := c) allocated hl).1 rfl

include P in
/-- A disconnect closes one handle; the links of the others are idle and stay. -/
theorem DisconnectOutcome.linksHold {p : ℤ} (h : DisconnectOutcome host p w w')
    (inv : LinksHold link Good w) (idle : ∀ l, Good l → l.Idle) : LinksHold link Good w' := by
  have hstored := (h.step host).stored inv.stored
  cases h with
  | dead => exact ⟨by simpa using inv.linked, by simpa using inv.distinct, hstored⟩
  | closed i hp live =>
    subst hp
    have hi : w.registry.connections i = some (w.handle i) := by
      simp [World.registry, Dll.registry, live, World.handle]
    obtain ⟨m, -, hm, -, -⟩ := inv.linked i _ hi
    have hregistry : ((((w.onDll (clearErrors i.val)).commanded (host.mysqlClose (w.handle i))
        (.close (w.handle i))).onDll (deleteConnection i.val)).registry) =
        w.registry.disconnect i := by
      rw [World.onDll_registry, deleteConnection_val, Dll.registry_disconnect]
      simp
    refine ⟨fun j h hj => ?_, ?_, hstored⟩
    · rw [hregistry, Registry.disconnect] at hj
      have hji : j ≠ i := by
        rintro rfl
        simp at hj
      simp only [Function.update_of_ne hji] at hj
      obtain ⟨m', l, rfl, hl, hgood⟩ := inv.linked j h hj
      refine ⟨m', l, rfl, ?_, hgood⟩
      simp only [World.onDll_library, World.commanded_library, hm]
      refine P.close_spares m _ m' l ?_ hl (idle l hgood)
      rintro ⟨⟩
      rw [hm] at hi
      exact hji (inv.distinct j i _ hj hi)
    · rw [hregistry]
      exact inv.distinct.drop i

/-- The calls which run a query. -/
def RunsQuery : Exported → Prop
  | .execute _ _ | .cursorOpen _ _ => True
  | _ => False

include P in
/-- A call which neither connects nor disconnects nor runs a query moves no link. -/
theorem call_spares {turns : ℕ} {e : Exported} {r : e.Reply}
    (h : (call host turns e).run w = .ok (r, w')) (stored : w.registry.Stored)
    (keeps : Registry.KeepsConnections e) (quiet : ¬ RunsQuery e) :
    SparesOthers link none w.library w'.library := by
  cases e with
  | connect c => cases keeps
  | disconnect p => cases keeps
  | execute p q => exact absurd trivial quiet
  | cursorOpen p q => exact absurd trivial quiet
  | cursorClose p =>
    cases cMySqlCursorClose_outcome host h with
    | wrong => exact SparesOthers.refl _ _
    | closed k => exact P.free_spares _ _
  | cursorRows p =>
    cases cMySqlCursorRows_outcome host h <;> exact SparesOthers.refl _ _
  | cursorFetchRow p =>
    have hfetch {k : Fin maxCursors} (isOpen : (w.dll.cursors k).id ≠ -1) :
        SparesOthers link none w.library (host.mysqlFetchRow (w.recordSet k) w.library).2 := by
      have hsome : (w.dll.cursors k).recordSet ≠ none :=
        stored k _ (World.cursor_of_registry isOpen)
      obtain ⟨res, hres⟩ := Option.ne_none_iff_exists'.mp hsome
      rw [World.recordSet, hres]
      exact P.fetch_spares res _
    cases cMySqlCursorFetchRow_outcome host h with
    | wrong => exact SparesOthers.refl _ _
    | fetched k hp isOpen => simpa [World.fetched] using hfetch isOpen
    | ended k hp isOpen => simpa [World.fetched] using hfetch isOpen
  | getRowField p f =>
    have hsame : w'.library = w.library := by
      cases cMySqlGetRowField_outcome host h <;> simp [World.measured]
    rw [hsame]
    exact SparesOthers.refl _ _
  | rowsAffected p =>
    cases cMySqlRowsAffected_outcome host h <;> exact SparesOthers.refl _ _
  | getMySqlErrorNumber p | getMySqlErrorDescription p | getCursorErrorNumber p
  | getCursorErrorDescription p =>
    cases h
    exact SparesOthers.refl _ _

/-- A live connection, its handle, and the link of that handle. -/
structure OnLink (link : σ → Mysql → Option Link) (w : World σ) (i : Fin maxConnections) (m : Mysql)
    (l : Link) : Prop where
  live : w.registry.connections i = some (some m)
  linked : link w.library m = some l

/-- The slot of a connection on a link holds the handle of that link. -/
theorem OnLink.handle {i : Fin maxConnections} {m : Mysql} {l : Link} (h : OnLink link w i m l) :
    w.handle i = some m :=
  World.handle_of_registry h.live

/-- The link of a live connection is good. -/
theorem LinksHold.good (inv : LinksHold link Good w) {i : Fin maxConnections} {m : Mysql} {l : Link}
    (h : OnLink link w i m l) : Good l := by
  obtain ⟨m', l', hm, hl', hgood⟩ := inv.linked i _ h.live
  cases hm
  rwa [Option.some.inj (h.linked.symm.trans hl')]

/-- A statement about the slot with a given number and its handle is a statement about these two. -/
theorem forall_handle_iff {i : Fin maxConnections} {m : Mysql} (hm : w.handle i = some m)
    {X : Fin maxConnections → Mysql → Prop} :
    (∀ j m', (i.val : ℤ) = j.val → w.handle j = some m' → X j m') ↔ X i m := by
  constructor
  · intro hall
    exact hall i m rfl hm
  · intro hX j m' hij hm'
    obtain rfl : i = j := Fin.ext (by omega)
    rw [hm, Option.some.injEq] at hm'
    rwa [← hm']

/-- A live id has a link. -/
theorem LinksHold.onLink (inv : LinksHold link Good w) {p : ℤ} (live : w.dll.liveConnection p ≠ none) :
    ∃ i m l, p = i.val ∧ OnLink link w i m l ∧ Good l := by
  obtain ⟨i, rfl, hid⟩ := exists_slot_of_live live
  have hreg : w.registry.connections i = some (w.handle i) := by
    simp [World.registry, Dll.registry, hid, World.handle]
  obtain ⟨m, l, hm, hl, hgood⟩ := inv.linked i _ hreg
  rw [hm] at hreg
  exact ⟨i, m, l, rfl, ⟨hreg, hl⟩, hgood⟩

include P in
/-- The links stay good under every call which leaves the link of its own query good. -/
theorem LinksHold.step {turns : ℕ} {e : Exported} {r : e.Reply} (inv : LinksHold link Good w)
    (idle : ∀ l, Good l → l.Idle) (last : ∀ l, Good l → ErrorLast l.rest) (ready : Good Link.ready)
    (h : (call host turns e).run w = .ok (r, w')) (live : OnLiveId w.dll e)
    (own : RunsQuery e → ∀ i m l, OnLink link w i m l →
      (∀ p q, e = .execute p q ∨ e = .cursorOpen p q → p = i.val) →
        ∃ l', link w'.library m = some l' ∧ Good l') : LinksHold link Good w' := by
  have hstep := call_refines host h
  have hstored := hstep.stored inv.stored
  cases e with
  | connect c => exact (cMySqlConnect_outcome host h).linksHold P inv ready
  | disconnect p => exact (cMySqlDisconnect_outcome host h).linksHold P inv idle
  | execute p q =>
    obtain ⟨i, m, l, rfl, hon, hgood⟩ := inv.onLink live
    obtain ⟨hspares, -⟩ := (cMySqlExecute_outcome host h).links P hon.handle hon.linked
      (idle l hgood) (last l hgood)
    refine inv.of_spares idle (hstep.connections trivial) hstored hspares ?_
    rintro j m' ⟨⟩ hj
    obtain rfl := inv.distinct j i _ hj hon.live
    exact own trivial j m l hon (by simp)
  | cursorOpen p q =>
    obtain ⟨i, m, l, rfl, hon, hgood⟩ := inv.onLink live
    obtain ⟨hspares, -⟩ := (cMySqlCursorOpen_outcome host h).links P hon.handle hon.linked
      (idle l hgood)
    refine inv.of_spares idle (hstep.connections trivial) hstored hspares ?_
    rintro j m' ⟨⟩ hj
    obtain rfl := inv.distinct j i _ hj hon.live
    exact own trivial j m l hon (by simp)
  | _ =>
    exact inv.of_spares idle (hstep.connections trivial) hstored
      (call_spares P h inv.stored trivial not_false) (by simp)

end Steps

end MqlMySql
