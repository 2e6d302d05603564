import MqlMySql.Spec.Answers
import MqlMySql.Spec.LostResults

/-!
# The connections refine their abstract model

Every exported call on live ids moves the standings of the live connections as one event of the abstract model, so every
run of the DLL is a trail of it. The result set which keeps a connection busy is lost, so no other call frees it.
-/

namespace MqlMySql

open Library

variable {σ : Type} {host : Host σ} {link : σ → Mysql → Option Link}
  {outcomes : σ → Mysql → List UInt8 → Outcomes} {columnless : σ → Mysql → Prop} {turns : ℕ} {w w' : World σ}

/-- A link as the DLL leaves it: it is proper, and the result set which is in use on it is lost. -/
structure Speaks (w : World σ) (l : Link) : Prop where
  proper : l.Proper
  lost : ∀ res, l.inUse = some res → Lost w res

/-- The links of the live connections are as the DLL leaves them, and every open cursor has a result set of its own. -/
structure Conversing (link : σ → Mysql → Option Link) (w : World σ) : Prop where
  links : LinksHold link (Speaks w) w
  owns : OwnsResults w

/-- Where the live connections stand. -/
def World.standings (link : σ → Mysql → Option Link) (w : World σ) : Standings :=
  fun i => ((w.registry.connections i).bind fun h => h.bind (link w.library)).map Link.standing

/-- Links which are good are good in a weaker sense. -/
theorem LinksHold.mono {Good Good' : Link → Prop} (h : LinksHold link Good w) (weaker : ∀ l, Good l → Good' l) :
    LinksHold link Good' w where
  linked i g hi := by
    obtain ⟨m, l, hm, hl, hgood⟩ := h.linked i g hi
    exact ⟨m, l, hm, hl, weaker l hgood⟩
  distinct := h.distinct
  stored := h.stored

/-- Nobody is connected at process attach. -/
theorem Conversing.attached (library : σ) : Conversing link (attach library) where
  links := LinksHold.attached _ library
  owns := OwnsResults.attached library

/-- At attach no connection stands anywhere. -/
theorem standings_attached (library : σ) : (attach library).standings link = fun _ => none := by
  funext i
  simp [World.standings, Registry.empty]

/-- Two slots with one number are the same. -/
theorem slot_of_val {n : ℕ} {i j : Fin n} (h : (i.val : ℤ) = j.val) : j = i := Fin.ext (by omega)

section Links

variable {i : Fin maxConnections} {m : Mysql} {l : Link}

/-- A connection on a link stands as the link does. -/
theorem OnLink.standing (hon : OnLink link w i m l) : w.standings link i = some l.standing := by
  simp [World.standings, hon.live, hon.linked]

/-- A connection which stands somewhere has a link. -/
theorem onLink_of_stands {s : Standing} (stands : w.standings link i = some s) :
    ∃ m l, OnLink link w i m l ∧ l.standing = s := by
  rw [World.standings, Option.map_eq_some_iff] at stands
  obtain ⟨l, hl, hs⟩ := stands
  obtain ⟨h, hlive, hl⟩ := Option.bind_eq_some_iff.mp hl
  obtain ⟨m, rfl, hl⟩ := Option.bind_eq_some_iff.mp hl
  exact ⟨m, l, ⟨hlive, hl⟩, hs⟩

/-- A connection on a link is live. -/
theorem OnLink.liveConnection (hon : OnLink link w i m l) : w.dll.liveConnection i.val = some i := by
  refine liveConnection_eq_some_iff.mpr ⟨rfl, fun hid => ?_⟩
  have hlive := hon.live
  rw [← World.dll_registry, w.dll.registry_connections_eq_none.mpr hid] at hlive
  cases hlive

end Links

section Links

variable (P : Protocol host link outcomes) {i : Fin maxConnections} {m : Mysql} {l : Link}
include P

/-- A call which does not name a connection leaves its link alone, as long as nobody but the connection has the result
set which is in use on it. -/
theorem Protocol.call_waiting {e : Exported} {r : e.Reply} (hcall : (call host turns e).run w = .ok (r, w'))
    (inv : Conversing link w) (hon : OnLink link w i m l) (names : ¬ NamesConnection i e) (onLive : OnLiveId w.dll e)
    (fresh : FreshLog w'.transfers) : link w'.library m = some l := by
  have hl := hon.linked
  have hwaits : Waiting link m l w := ⟨hl, fun res hres => ((inv.links.good hon).lost res hres).waits⟩
  -- the handle of a live connection which the call names is another one
  have hother {p : ℤ} (hp : w.dll.liveConnection p ≠ none) (hne : p ≠ i.val) :
      ∃ (j : Fin maxConnections) (m' : Mysql), p = j.val ∧ w.handle j = some m' ∧ m ≠ m' := by
    obtain ⟨j, rfl, hid⟩ := exists_slot_of_live hp
    have hj : w.registry.connections j = some (w.handle j) := by
      simp [World.registry, Dll.registry, hid, World.handle]
    obtain ⟨m', l', hm', -⟩ := inv.links.linked j _ hj
    refine ⟨j, m', rfl, hm', ?_⟩
    rintro rfl
    rw [hm'] at hj
    obtain rfl := inv.links.distinct j i _ hj hon.live
    exact hne rfl
  -- a result set of an open cursor is not the one which is in use
  have hcursor {k : Fin maxCursors} (isOpen : (w.dll.cursors k).id ≠ -1) :
      ∃ res, w.recordSet k = some res ∧ l.inUse ≠ some res := by
    have hk := World.cursor_of_registry isOpen
    obtain ⟨res, hres⟩ := Option.ne_none_iff_exists'.mp (inv.owns.stored k _ hk)
    refine ⟨res, hres, fun hin => ((inv.links.good hon).lost res hin).nowhere k ?_⟩
    rw [Registry.results, hk, Option.bind_some]
    exact hres
  cases e with
  | connect c =>
    cases cMySqlConnect_outcome host hcall with
    | full => exact hl
    | unallocated answer =>
      simp only [World.onDll_library, World.performed_library]
      rw [P.init_frame _ _ (by simp [answer]), hl]
    | refused j free mysql allocated answer => exact (P.asked_link allocated hl).2
    | connected j free mysql allocated answer => exact (P.asked_link allocated hl).2
  | disconnect p =>
    cases cMySqlDisconnect_outcome host hcall with
    | dead => exact hl
    | closed j hp hid =>
      obtain ⟨j', m', hp', hm', hne⟩ := hother onLive names
      obtain rfl : j = j' := Fin.ext (by omega)
      simp only [World.onDll_library, World.commanded_library, hm']
      rw [P.close_frame _ _ _ hne, hl]
  | execute p q =>
    obtain ⟨j, m', rfl, hm', hne⟩ := hother onLive names
    exact P.execute_waiting hwaits hm' hne (cMySqlExecute_outcome host hcall) fresh
  | cursorOpen p q =>
    obtain ⟨j, m', rfl, hm', hne⟩ := hother onLive names
    exact P.open_waiting hl hm' hne (cMySqlCursorOpen_outcome host hcall)
  | cursorClose p =>
    cases cMySqlCursorClose_outcome host hcall with
    | wrong => exact hl
    | closed k hp isOpen =>
      obtain ⟨res, hres, hin⟩ := hcursor isOpen
      simp only [World.onDll_library, World.commanded_library]
      rw [hres]
      exact P.free_stored _ _ _ _ hl hin
  | cursorFetchRow p =>
    have hfetched {k : Fin maxCursors} (isOpen : (w.dll.cursors k).id ≠ -1) :
        link (host.mysqlFetchRow (w.recordSet k) w.library).2 m = some l := by
      obtain ⟨res, hres, hin⟩ := hcursor isOpen
      rw [hres]
      exact P.fetch_stored _ _ _ _ hl hin
    cases cMySqlCursorFetchRow_outcome host hcall with
    | wrong => exact hl
    | fetched k hp isOpen => simpa [World.fetched] using hfetched isOpen
    | ended k hp isOpen => simpa [World.fetched] using hfetched isOpen
  | cursorRows p => cases cMySqlCursorRows_outcome host hcall <;> exact hl
  | getRowField p f => cases cMySqlGetRowField_outcome host hcall <;> simpa [World.measured] using hl
  | rowsAffected p => cases cMySqlRowsAffected_outcome host hcall <;> exact hl
  | getMySqlErrorNumber p | getMySqlErrorDescription p | getCursorErrorNumber p | getCursorErrorDescription p =>
    cases hcall
    exact hl

/-- A connection which the call does not name and which it does not make stays as it is. -/
theorem Conversing.keeps {e : Exported} {r : e.Reply} (inv : Conversing link w)
    (hcall : (call host turns e).run w = .ok (r, w')) (onLive : OnLiveId w.dll e) (fresh : FreshLog w'.transfers)
    (names : ¬ NamesConnection i e) (kept : w'.registry.connections i = w.registry.connections i) :
    w'.standings link i = w.standings link i ∧ ∀ h, w'.registry.connections i = some h →
      ∃ m l, h = some m ∧ link w'.library m = some l ∧ Speaks w' l := by
  cases hi : w.registry.connections i with
  | none =>
    rw [hi] at kept
    exact ⟨by simp [World.standings, hi, kept], by simp [kept]⟩
  | some h =>
    obtain ⟨m, l, rfl, hl, hspeaks⟩ := inv.links.linked i h hi
    have hlink := P.call_waiting hcall inv ⟨hi, hl⟩ names onLive fresh
    rw [hi] at kept
    refine ⟨by simp [World.standings, hi, kept, hl, hlink], ?_⟩
    rintro h' hh'
    rw [kept, Option.some.injEq] at hh'
    exact ⟨m, l, hh'.symm, hlink, hspeaks.proper, fun res hres => (hspeaks.lost res hres).step hcall fresh⟩

/-- A call which names no connection moves none. -/
theorem Conversing.stays {e : Exported} {r : e.Reply} (inv : Conversing link w)
    (hcall : (call host turns e).run w = .ok (r, w')) (onLive : OnLiveId w.dll e) (fresh : FreshLog w'.transfers)
    (names : ∀ i, ¬ NamesConnection i e) (kept : w'.registry.connections = w.registry.connections) :
    Conversing link w' ∧ w'.standings link = w.standings link := by
  have hkeeps := fun i => inv.keeps P hcall onLive fresh (names i) (congrFun kept i)
  have howns := inv.owns.step hcall fresh
  exact ⟨⟨⟨fun i => (hkeeps i).2, kept ▸ inv.links.distinct, howns.stored⟩, howns⟩, funext fun i => (hkeeps i).1⟩

omit P in
/-- Only one connection is moved or made. -/
theorem Conversing.of_slot (others : ∀ j, j ≠ i → w'.standings link j = w.standings link j ∧
      ∀ h, w'.registry.connections j = some h → ∃ m l, h = some m ∧ link w'.library m = some l ∧ Speaks w' l)
    (distinct : w'.registry.connections.Distinct) (owns : OwnsResults w') (hon : OnLink link w' i m l)
    (speaks : Speaks w' l) :
    Conversing link w' ∧ w'.standings link = Function.update (w.standings link) i (some l.standing) := by
  refine ⟨⟨⟨fun j h hj => ?_, distinct, owns.stored⟩, owns⟩, funext fun j => ?_⟩
  · by_cases hji : j = i
    · subst hji
      rw [hon.live, Option.some.injEq] at hj
      exact ⟨m, l, hj.symm, hon.linked, speaks⟩
    · exact (others j hji).2 h hj
  · by_cases hji : j = i
    · subst hji
      rw [Function.update_self, hon.standing]
    · rw [Function.update_of_ne hji, (others j hji).1]

/-- A query moves its own connection only. -/
theorem Conversing.moves {e : Exported} {r : e.Reply} (inv : Conversing link w)
    (hcall : (call host turns e).run w = .ok (r, w')) (onLive : OnLiveId w.dll e) (fresh : FreshLog w'.transfers)
    (names : ∀ j, j ≠ i → ¬ NamesConnection j e) (kept : w'.registry.connections = w.registry.connections)
    (hon : OnLink link w i m l) {l' : Link} (hl' : link w'.library m = some l') (hspeaks : Speaks w' l') :
    Conversing link w' ∧ w'.standings link = Function.update (w.standings link) i (some l'.standing) := by
  have hlive : w'.registry.connections i = some (some m) := by rw [kept, hon.live]
  exact Conversing.of_slot (fun j hji => inv.keeps P hcall onLive fresh (names j hji) (congrFun kept j))
    (kept ▸ inv.links.distinct) (inv.owns.step hcall fresh) ⟨hlive, hl'⟩ hspeaks

/-- A query which is not sent moves no connection. -/
theorem Conversing.rests {e : Exported} {r : e.Reply} (inv : Conversing link w)
    (hcall : (call host turns e).run w = .ok (r, w')) (onLive : OnLiveId w.dll e) (fresh : FreshLog w'.transfers)
    (names : ∀ j, j ≠ i → ¬ NamesConnection j e) (kept : w'.registry.connections = w.registry.connections)
    (hon : OnLink link w i m l) (unsent : w'.library = w.library) :
    Conversing link w' ∧ w'.standings link = w.standings link := by
  have hspeaks := inv.links.good hon
  have hlink : link w'.library m = some l := by rw [unsent, hon.linked]
  obtain ⟨hinv, hmoved⟩ := inv.moves P hcall onLive fresh names kept hon hlink
    ⟨hspeaks.proper, fun res hres => (hspeaks.lost res hres).step hcall fresh⟩
  refine ⟨hinv, ?_⟩
  rw [hmoved, ← hon.standing, Function.update_eq_self]

end Links

/-- The slot and the handle on which a query is sent, when it fits and the id is live. -/
def World.sends (w : World σ) (p : ℤ) (q : WStr) : Option (Fin maxConnections × Mysql) :=
  if QueryFits q then (w.dll.liveConnection p).bind fun i => (w.handle i).map fun m => (i, m) else none

/-- On a connection with a link a query which fits is sent on the handle of the link. -/
theorem OnLink.sends {i : Fin maxConnections} {m : Mysql} {l : Link} {q : WStr} (hon : OnLink link w i m l)
    (fits : QueryFits q) : w.sends i.val q = some (i, m) := by
  simp [World.sends, fits, hon.liveConnection, hon.handle]

/-- What an exported call is for the abstract model. A query which does not fit is not sent, and neither is one for a
cursor when no slot is free. -/
def callEvent (outcomes : σ → Mysql → List UInt8 → Outcomes) (w : World σ) : (e : Exported) → e.Reply → World σ → Event
  | .connect _, r, _ => (slotIndex maxConnections r).elim .other .connected
  | .disconnect p, _, _ => (w.dll.liveConnection p).elim .other .disconnected
  | .execute p q, b, w' => (w.sends p q).elim .other fun s =>
    .executed s.1 (outcomes w.library s.2 (sentQuery q)) (0 < w.dll.mySqlErrorNumber) ⟨b, cGetMySqlErrorNumber p w'.dll⟩
  | .cursorOpen p q, r, w' => if getNewCursorId w.dll = -1 then .other else (w.sends p q).elim .other fun s =>
    .opened s.1 (outcomes w.library s.2 (sentQuery q)) (0 < w.dll.mySqlErrorNumber)
      ⟨decide (r ≠ -1), cGetMySqlErrorNumber p w'.dll⟩
  | _, _, _ => .other

section Events

variable {i : Fin maxConnections}

/-- A call which is no disconnect of the connection does not end it. -/
theorem callEvent_ne_disconnected {e : Exported} {r : e.Reply} (h : e ≠ .disconnect i.val) :
    callEvent outcomes w e r w' ≠ .disconnected i := by
  intro hevent
  cases e with
  | connect c => cases hslot : slotIndex maxConnections r <;> simp [callEvent, hslot] at hevent
  | disconnect p =>
    cases hlive : w.dll.liveConnection p with
    | none => simp [callEvent, hlive] at hevent
    | some j =>
      obtain ⟨rfl, -⟩ := liveConnection_eq_some_iff.mp hlive
      obtain rfl : j = i := by simpa [callEvent, hlive] using hevent
      exact h rfl
  | execute p q => cases hsends : w.sends p q <;> simp [callEvent, hsends] at hevent
  | cursorOpen p q =>
    by_cases full : getNewCursorId w.dll = -1
    · simp [callEvent, full] at hevent
    · cases hsends : w.sends p q <;> simp [callEvent, full, hsends] at hevent
  | _ => cases hevent

/-- A query is sent on the connection which it is for. -/
theorem sends_slot {p : ℤ} {q : WStr} {s : Fin maxConnections × Mysql} (h : w.sends p q = some s) : p = s.1.val := by
  rw [World.sends] at h
  split at h
  · obtain ⟨i, hi, h⟩ := Option.bind_eq_some_iff.mp h
    obtain ⟨m, -, rfl⟩ := Option.map_eq_some_iff.mp h
    exact (liveConnection_eq_some_iff.mp hi).1
  · cases h

/-- A call which does not name the connection is no query on it. -/
theorem callEvent_spares {e : Exported} {r : e.Reply} (h : ¬ NamesConnection i e) :
    (callEvent outcomes w e r w').Spares i := by
  cases e with
  | connect c => cases hslot : slotIndex maxConnections r <;> simp [callEvent, hslot, Event.Spares]
  | disconnect p =>
    cases hlive : w.dll.liveConnection p with
    | none => simp [callEvent, hlive, Event.Spares]
    | some j =>
      obtain ⟨rfl, -⟩ := liveConnection_eq_some_iff.mp hlive
      simp only [callEvent, hlive, Option.elim_some, Event.Spares]
      rintro rfl
      exact h rfl
  | execute p q =>
    cases hsends : w.sends p q with
    | none => simp [callEvent, hsends, Event.Spares]
    | some s =>
      simp only [callEvent, hsends, Option.elim_some, Event.Spares]
      rintro rfl
      exact h (sends_slot hsends)
  | cursorOpen p q =>
    by_cases full : getNewCursorId w.dll = -1
    · simp [callEvent, full, Event.Spares]
    · cases hsends : w.sends p q with
      | none => simp [callEvent, full, hsends, Event.Spares]
      | some s =>
        simp only [callEvent, if_neg full, hsends, Option.elim_some, Event.Spares]
        rintro rfl
        exact h (sends_slot hsends)
  | _ => trivial

end Events

/-- What is fresh at the end of a run was fresh all along. -/
theorem fresh_along {tr : List (Called σ)} (h : Run (dllStep host turns) w tr w') (fresh : FreshLog w'.transfers) :
    FreshLog w.transfers ∧ ∀ x ∈ tr, FreshLog x.after.transfers := by
  induction h with
  | nil => exact ⟨fresh, by simp⟩
  | cons head _ ih =>
    obtain ⟨hmiddle, hall⟩ := ih fresh
    obtain ⟨made, hmade⟩ := call_transfers_grow head
    exact ⟨FreshLog.past (hmade ▸ hmiddle), List.forall_mem_cons.mpr ⟨hmiddle, hall⟩⟩

section Steps

variable (P : Protocol host link outcomes) (E : ReportsErrors host link outcomes columnless)
  (R : ReportsRefusals host link)
include P E R

/-- Executing a query. -/
theorem Conversing.execute {p : ℤ} {q : WStr} {b : Bool} (inv : Conversing link w)
    (hcall : (call host turns (.execute p q)).run w = .ok (b, w')) (live : w.dll.liveConnection p ≠ none)
    (fresh : FreshLog w'.transfers) : Conversing link w' ∧
      (w.standings link).Step (callEvent outcomes w (.execute p q) b w') (w'.standings link) := by
  have hstep := call_refines host hcall
  have hconnections := hstep.connections trivial
  have hout := cMySqlExecute_outcome host hcall
  obtain ⟨i, m, l, rfl, hon, hspeaks⟩ := inv.links.onLink live
  have hnames : ∀ j, j ≠ i → ¬ NamesConnection j (.execute i.val q) := fun j hji hname => hji (slot_of_val hname)
  have hslot := hon.liveConnection
  by_cases fits : QueryFits q
  · obtain ⟨l', hl', hproper, ⟨strict, hanswer⟩, hlost⟩ :=
      hout.standing P E R fits hon.handle hon.linked hspeaks.proper
    have hspeaks' : Speaks w' l' := by
      refine ⟨hproper, fun res hres => ?_⟩
      rcases hlost res hres with hkept | hmade
      · exact (hspeaks.lost res hkept).step hcall fresh
      · rw [hmade] at fresh
        refine ⟨hmade ▸ List.mem_cons_self, fun k => ?_⟩
        rw [Registry.results, hstep.cursors trivial]
        exact inv.owns.owned.ne_of_fresh fresh.1 k
    obtain ⟨hinv, hmoved⟩ := inv.moves P hcall live fresh hnames hconnections hon hl' hspeaks'
    refine ⟨hinv, ?_⟩
    have hlive : w'.dll.liveConnection i.val = some i := (liveConnection_of_registry hconnections _).trans hslot
    have hevent : callEvent outcomes w (.execute i.val q) b w' =
        .executed i (outcomes w.library m (sentQuery q)) (0 < w.dll.mySqlErrorNumber)
          ⟨b, (w'.dll.connections i).mySqlErrorNumber⟩ := by
      simp [callEvent, hon.sends fits, cGetMySqlErrorNumber_of_live hlive]
    rw [hmoved, hevent]
    exact .executed hon.standing hanswer.symm
  · have hunsent : w'.library = w.library := by
      cases hout with
      | rejected query => rw [query.library, if_neg fits]
      | failed _ _ fits' => exact absurd fits' fits
      | succeeded _ _ fits' => exact absurd fits' fits
    obtain ⟨hinv, hsame⟩ := inv.rests P hcall live fresh hnames hconnections hon hunsent
    refine ⟨hinv, ?_⟩
    have hevent : callEvent outcomes w (.execute i.val q) b w' = .other := by simp [callEvent, World.sends, fits]
    rw [hsame, hevent]
    exact .other

/-- Opening a cursor. -/
theorem Conversing.cursorOpen {p r : ℤ} {q : WStr} (inv : Conversing link w)
    (hcall : (call host turns (.cursorOpen p q)).run w = .ok (r, w')) (live : w.dll.liveConnection p ≠ none)
    (fresh : FreshLog w'.transfers) : Conversing link w' ∧
      (w.standings link).Step (callEvent outcomes w (.cursorOpen p q) r w') (w'.standings link) := by
  have hconnections := (call_refines host hcall).connections trivial
  have hout := cMySqlCursorOpen_outcome host hcall
  obtain ⟨i, m, l, rfl, hon, hspeaks⟩ := inv.links.onLink live
  have hnames : ∀ j, j ≠ i → ¬ NamesConnection j (.cursorOpen i.val q) := fun j hji hname => hji (slot_of_val hname)
  have hslot := hon.liveConnection
  by_cases sent : QueryFits q ∧ getNewCursorId w.dll ≠ -1
  · obtain ⟨fits, free⟩ := sent
    obtain ⟨l', hl', hproper, hin, hanswer⟩ := hout.standing P E R fits free hon.handle hon.linked hspeaks.proper
    have hspeaks' : Speaks w' l' :=
      ⟨hproper, fun res hres => (hspeaks.lost res (hin ▸ hres)).step hcall fresh⟩
    obtain ⟨hinv, hmoved⟩ := inv.moves P hcall live fresh hnames hconnections hon hl' hspeaks'
    refine ⟨hinv, ?_⟩
    have hlive : w'.dll.liveConnection i.val = some i := (liveConnection_of_registry hconnections _).trans hslot
    have hevent : callEvent outcomes w (.cursorOpen i.val q) r w' =
        .opened i (outcomes w.library m (sentQuery q)) (0 < w.dll.mySqlErrorNumber)
          ⟨decide (r ≠ -1), (w'.dll.connections i).mySqlErrorNumber⟩ := by
      simp [callEvent, hon.sends fits, free, cGetMySqlErrorNumber_of_live hlive]
    rw [hmoved, hevent]
    exact .opened hon.standing hanswer.symm
  · have hunsent : w'.library = w.library := by
      rcases hout.result with ⟨-, full⟩ | ⟨k, rs, w₂, hfree, store, result⟩
      · exact full.library
      · have hfits : ¬ QueryFits q := fun fits => sent ⟨fits, hfree ▸ val_ne_neg_one k⟩
        rw [result.library]
        cases store with
        | rejected query => rw [query.library, if_neg hfits, World.opening_library]
        | stored fits => exact absurd fits hfits
    obtain ⟨hinv, hsame⟩ := inv.rests P hcall live fresh hnames hconnections hon hunsent
    refine ⟨hinv, ?_⟩
    have hevent : callEvent outcomes w (.cursorOpen i.val q) r w' = .other := by
      by_cases free : getNewCursorId w.dll = -1
      · simp [callEvent, free]
      · simp [callEvent, World.sends, free, show ¬ QueryFits q from fun fits => sent ⟨fits, free⟩]
    rw [hsame, hevent]
    exact .other

omit E R in
/-- Connecting. -/
theorem Conversing.connect {c : Credentials} {r : ℤ} (inv : Conversing link w)
    (hcall : (call host turns (.connect c)).run w = .ok (r, w')) (fresh : FreshLog w'.transfers) :
    Conversing link w' ∧ (w.standings link).Step (callEvent outcomes w (.connect c) r w') (w'.standings link) := by
  have hnames : ∀ j, ¬ NamesConnection j (.connect c) := fun j => not_false
  have hquiet (kept : w'.registry.connections = w.registry.connections) (hr : r = -1) :
      Conversing link w' ∧ (w.standings link).Step (callEvent outcomes w (.connect c) r w') (w'.standings link) := by
    obtain ⟨hinv, hsame⟩ := inv.stays P hcall trivial fresh hnames kept
    have hevent : callEvent outcomes w (.connect c) r w' = .other := by simp [callEvent, hr]
    rw [hsame, hevent]
    exact ⟨hinv, .other⟩
  have hout := cMySqlConnect_outcome host hcall
  have hdistinct := (hout.linksHold P (inv.links.mono fun _ _ => trivial) trivial).distinct
  cases hout with
  | full => exact hquiet (by simp) rfl
  | unallocated => exact hquiet (by simp) rfl
  | refused i free mysql allocated answer =>
    exact hquiet (by simp [World.asked_registry host c mysql free (w.connectAnswer host c mysql)]) rfl
  | connected i free mysql allocated answer =>
    have hconnections := congrArg Registry.connections (World.connected_registry host c mysql free)
    have hfree : w.registry.connections i = none :=
      w.dll.registry_connections_eq_none.mpr (getNewConnectionId_free free)
    obtain ⟨hinv, hmade⟩ := Conversing.of_slot
      (fun j hji => inv.keeps P hcall trivial fresh (hnames j)
        ((congrFun hconnections j).trans (Function.update_of_ne hji _ _)))
      hdistinct (inv.owns.step hcall fresh)
      ⟨(congrFun hconnections i).trans (Function.update_self ..), P.connect_ready _ _ _ answer⟩
      ⟨Link.Proper.ready, by rintro res ⟨⟩⟩
    have hevent (w' : World σ) : callEvent outcomes w (.connect c) i.val w' = .connected i := by simp [callEvent]
    refine ⟨hinv, ?_⟩
    rw [hmade, hevent]
    exact .connected i (by simp [World.standings, hfree])

omit E R in
/-- Disconnecting. -/
theorem Conversing.disconnect {p : ℤ} {r : Unit} (inv : Conversing link w)
    (hcall : (call host turns (.disconnect p)).run w = .ok (r, w')) (live : w.dll.liveConnection p ≠ none)
    (fresh : FreshLog w'.transfers) :
    Conversing link w' ∧ (w.standings link).Step (callEvent outcomes w (.disconnect p) r w') (w'.standings link) := by
  obtain ⟨i, m, l, rfl, hon, -⟩ := inv.links.onLink live
  have hslot := hon.liveConnection
  have hconnections : w'.registry.connections = Function.update w.registry.connections i none := by
    rcases (call_refines host hcall).disconnect_cases with ⟨j, hj, -, hregistry⟩ | ⟨hdead, -⟩
    · rw [hregistry, slot_of_val hj]
      rfl
    · have hlive := hon.live
      rw [hdead i rfl] at hlive
      cases hlive
  have hothers : ∀ j, j ≠ i → _ := fun j hji => inv.keeps P hcall live fresh (fun hname => hji (slot_of_val hname))
    (by rw [hconnections, Function.update_of_ne hji])
  have hgone : w'.registry.connections i = none := by rw [hconnections, Function.update_self]
  have howns := inv.owns.step hcall fresh
  refine ⟨⟨⟨fun j h hj => ?_, ?_, howns.stored⟩, howns⟩, ?_⟩
  · have hji : j ≠ i := by
      rintro rfl
      rw [hgone] at hj
      cases hj
    exact (hothers j hji).2 h hj
  · rw [hconnections]
    exact inv.links.distinct.drop i
  · have hended : w'.standings link = Function.update (w.standings link) i none := by
      funext j
      by_cases hji : j = i
      · subst hji
        simp [World.standings, hgone]
      · rw [Function.update_of_ne hji, (hothers j hji).1]
    have hevent : callEvent outcomes w (.disconnect i.val) r w' = .disconnected i := by simp [callEvent, hslot]
    rw [hended, hevent]
    exact .disconnected i (by simp [hon.standing])

/-- Every exported call on live ids is an event on the standings of the connections. -/
theorem Conversing.step {e : Exported} {r : e.Reply} (inv : Conversing link w)
    (hcall : (call host turns e).run w = .ok (r, w')) (onLive : OnLiveId w.dll e) (fresh : FreshLog w'.transfers) :
    Conversing link w' ∧ (w.standings link).Step (callEvent outcomes w e r w') (w'.standings link) := by
  cases e with
  | connect c => exact inv.connect P hcall fresh
  | disconnect p => exact inv.disconnect P hcall onLive fresh
  | execute p q => exact inv.execute P E R hcall onLive fresh
  | cursorOpen p q => exact inv.cursorOpen P E R hcall onLive fresh
  | _ =>
    obtain ⟨hinv, hsame⟩ := inv.stays P hcall onLive fresh (fun _ => not_false)
      ((call_refines host hcall).connections trivial)
    rw [hsame]
    exact ⟨hinv, .other⟩

/-- A run on live ids is a trail of the abstract model, as long as the library hands out fresh result sets. -/
theorem Conversing.trail {tr : List (Called σ)} (inv : Conversing link w) (h : Run (dllStep host turns) w tr w')
    (live : ∀ x ∈ tr, OnLiveId x.before.dll x.label) (fresh : FreshLog w'.transfers) :
    Conversing link w' ∧ Trail Standings.Step (w.standings link)
      (tr.map fun x => callEvent outcomes x.before x.label x.reply x.after) (w'.standings link) := by
  have hpast := (fresh_along h fresh).2
  have hrefines : ∃ S, Trail Standings.Step (w.standings link)
      (tr.map fun x => callEvent outcomes x.before x.label x.reply x.after) S ∧
        (Conversing link w' ∧ S = w'.standings link) := by
    refine h.trail _ (fun w S => Conversing link w ∧ S = w.standings link) ?_ ⟨inv, rfl⟩
    rintro x hx hcall _ ⟨hinv, rfl⟩
    obtain ⟨hinv', hstep⟩ := hinv.step P E R hcall (live x hx) (hpast x hx)
    exact ⟨_, hstep, hinv', rfl⟩
  obtain ⟨_, htrail, hinv, rfl⟩ := hrefines
  exact ⟨hinv, htrail⟩

end Steps

end MqlMySql
