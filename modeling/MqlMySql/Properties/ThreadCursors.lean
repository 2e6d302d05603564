import MqlMySql.Spec.Order
import MqlMySql.Spec.Server

/-!
# Result sets of cursors in every interleaving

`cMySqlCursorOpen` and `cMySqlCursorClose` run inside the mutex. Whatever the order in which the accesses of the threads
come, `cMySqlCursorClose` releases the record set with which the slot was opened, once for every opening, and no slot is
opened again before.
-/

namespace MqlMySql

open Library

variable {T σ : Type} {past : List (Threaded T σ)} {x y : Threaded T σ} {k : Fin maxCursors}

/-- A thread marks a cursor slot as open. -/
def Registers (k : Fin maxCursors) (t : T) (x : Threaded T σ) : Prop :=
  ∃ id : ℤ, id ≠ -1 ∧ Stores t (.cursorId k) id x

/-- A thread inside `cMySqlCursorClose` of a slot calls `mysql_free_result`. -/
def Releases (k : Fin maxCursors) (res : Option MysqlRes) (t : T) (x : Threaded T σ) : Prop :=
  x.label = .advance t ∧ x.reply = .made (.library (.freeResult res)) () ∧
    ∃ p, x.before.running t = some ⟨.cursorClose k.val, p⟩

/-- An access which marks a slot as open. -/
theorem Leads.opens {e : Exported} {from_ q : Phase} {id : ℤ} {r : Unit}
    (h : Leads e from_ (.store (.cursorId k) id) r q) (hid : id ≠ -1) :
    from_ = .inside (.foundCursor k) ∧ q = .inside (.gaveCursor k) ∧ id = k.val := by
  cases h with
  | first r locks plain => exact plain.elim
  | apart r locks plain => exact plain.elim
  | plain stage r locks plain => exact plain.elim
  | giveCursor k opens => exact ⟨rfl, rfl, rfl⟩
  | keepCursor k opens => exact absurd rfl hid
  | closeCursor k closes => exact absurd rfl hid

/-- An access which marks a slot as free, though it may be free already. -/
theorem Leads.frees {e : Exported} {from_ q : Phase} {id : ℤ} {r : Unit}
    (h : Leads e from_ (.store (.cursorId k) id) r q) (hid : id = -1) :
    from_ = .inside (.foundCursor k) ∨ from_ = .inside (.freedResult k) := by
  cases h with
  | first r locks plain => exact plain.elim
  | apart r locks plain => exact plain.elim
  | plain stage r locks plain => exact plain.elim
  | giveCursor k opens => exact .inl rfl
  | keepCursor k opens => exact .inl rfl
  | closeCursor k closes => exact .inr rfl

/-- A record set is stored in a free slot. -/
theorem Leads.stores {e : Exported} {from_ q : Phase} {res : Option MysqlRes} {r : Unit}
    (h : Leads e from_ (.store (.recordSet k) res) r q) : from_ = .inside (.foundCursor k) := by
  cases h with
  | first r locks plain => exact plain.elim
  | apart r locks plain => exact plain.elim
  | plain stage r locks plain => exact plain.elim
  | storeResult k res opens => rfl

/-- `cMySqlCursorClose` releases the record set of its slot. -/
theorem Leads.releases {from_ q : Phase} {res : Option MysqlRes} {r : Unit}
    (h : Leads (.cursorClose k.val) from_ (.library (.freeResult res)) r q) :
    from_ = .inside (.tookResult k res) ∧ q = .inside (.freedResult k) := by
  generalize he : Exported.cursorClose k.val = e at h
  cases h with
  | first r locks plain =>
    obtain ⟨p, q, rfl⟩ := plain
    cases he
  | apart r locks plain =>
    obtain ⟨p, q, rfl⟩ := plain
    cases he
  | plain stage r locks plain =>
    obtain ⟨p, q, rfl⟩ := plain
    cases he
  | freeResult k' res closes =>
    rw [closes] at he
    obtain rfl : k = k' := by
      simpa [Fin.ext_iff] using he
    exact ⟨rfl, rfl⟩

/-- A thread which has released the record set of a slot only has to mark the slot as free. -/
theorem Leads.from_freed {e : Exported} {q : Phase} {a : Access} {r : a.Reply}
    (h : Leads e (.inside (.freedResult k)) a r q) :
    q = .inside (.freedResult k) ∨ a = .store (.cursorId k) (-1 : ℤ) := by
  cases h with
  | plain stage r locks plain => exact .inl rfl
  | unlock stage settled => exact settled.elim
  | closeCursor k closes => exact .inr rfl

/-- Nothing else leads there. -/
theorem Leads.to_freed {e : Exported} {from_ : Phase} {a : Access} {r : a.Reply}
    (h : Leads e from_ a r (.inside (.freedResult k))) :
    from_ = .inside (.freedResult k) ∨
      e = .cursorClose k.val ∧ ∃ res, a = .library (.freeResult res) := by
  cases h with
  | plain stage r locks plain => exact .inl rfl
  | freeResult k res closes => exact .inr ⟨closes, res, rfl⟩

/-- The slot was opened, with the record set which it has, and this has been released since then exactly when a thread
is about to mark the slot as free. -/
def Matched (k : Fin maxCursors) (past : List (Threaded T σ)) (s : Shared T σ) (phase : T → Phase) : Prop :=
  (s.dll.cursors k).id ≠ -1 →
    ∃ (first : List (Threaded T σ)) (x : Threaded T σ) (own : List (Threaded T σ)),
      past = first ++ x :: own ∧ (∃ t, Registers k t x) ∧
      (x.after.shared.dll.cursors k).recordSet = (s.dll.cursors k).recordSet ∧ (∀ z ∈ own, ∀ t, ¬ Registers k t z) ∧
      ((∃ z ∈ own, ∃ res t, Releases k res t z) ↔ ∃ t, phase t = .inside (.freedResult k))

section Matched

variable {phase phase' : T → Phase} {s₁ s₂ : Shared T σ}

/-- A step which neither opens the slot nor releases anything there. -/
theorem Matched.skip (h : Matched k past s₁ phase) (id : (s₂.dll.cursors k).id ≠ -1 → (s₁.dll.cursors k).id ≠ -1)
    (recordSet : (s₂.dll.cursors k).id ≠ -1 → (s₂.dll.cursors k).recordSet = (s₁.dll.cursors k).recordSet)
    (opens : ∀ t, ¬ Registers k t x) (releases : ∀ res t, ¬ Releases k res t x)
    (freed : (s₂.dll.cursors k).id ≠ -1 →
      ((∃ t, phase' t = .inside (.freedResult k)) ↔ ∃ t, phase t = .inside (.freedResult k))) :
    Matched k (past ++ [x]) s₂ phase' := by
  intro hopen
  obtain ⟨first, y, own, rfl, hy, hrecord, hown, hreleased⟩ := h (id hopen)
  refine ⟨first, y, own ++ [x], by simp, hy, hrecord.trans (recordSet hopen).symm, ?_, ?_⟩
  · intro z hz
    rcases List.mem_append.mp hz with hz | hz
    · exact hown z hz
    · obtain rfl := List.mem_singleton.mp hz
      exact opens
  · rw [freed hopen, ← hreleased]
    constructor
    · rintro ⟨z, hz, res, t, hrel⟩
      rcases List.mem_append.mp hz with hz | hz
      · exact ⟨z, hz, res, t, hrel⟩
      · obtain rfl := List.mem_singleton.mp hz
        exact absurd hrel (releases res t)
    · rintro ⟨z, hz, hrel⟩
      exact ⟨z, List.mem_append_left _ hz, hrel⟩

/-- The step which releases the record set of the slot. -/
theorem Matched.release (h : Matched k past s₁ phase) {t : T} {res : Option MysqlRes} (hx : Releases k res t x)
    (same : s₂.dll = s₁.dll) (freed : phase' t = .inside (.freedResult k)) : Matched k (past ++ [x]) s₂ phase' := by
  intro hopen
  rw [same] at hopen ⊢
  obtain ⟨first, y, own, rfl, hy, hrecord, hown, -⟩ := h hopen
  refine ⟨first, y, own ++ [x], by simp, hy, hrecord, ?_, ?_⟩
  · intro z hz
    rcases List.mem_append.mp hz with hz | hz
    · exact hown z hz
    · obtain rfl := List.mem_singleton.mp hz
      rintro u ⟨id, -, -, hreply⟩
      rw [hx.2.1] at hreply
      cases hreply
  · exact iff_of_true ⟨x, by simp, res, t, hx⟩ ⟨t, freed⟩

/-- The step which opens the slot. -/
theorem Matched.begin {t : T} (hx : Registers k t x) (none : ∀ t, phase' t ≠ .inside (.freedResult k)) :
    Matched k (past ++ [x]) x.after.shared phase' := by
  intro _
  refine ⟨past, x, [], rfl, ⟨t, hx⟩, rfl, by simp, ?_⟩
  simp [none]

end Matched

variable [DecidableEq T] {host : Host σ} {turns : ℕ} {library : σ} {tr mid future : List (Threaded T σ)}
  {s : Threads T σ} {phase : T → Phase}

/-- One access keeps the record sets matched with their openings. -/
theorem Matched.made {t : T} {e : Exported} {a : Access} {rest : a.Reply → Code e.Reply} {r : a.Reply} {q : Phase}
    (h : Matched k past x.before.shared phase) (orderly : Orderly x.before.shared phase) (label : x.label = .advance t)
    (reply : x.reply = .made a r) (runs : x.before.running t = some ⟨e, .call a rest⟩)
    (ok : accessStep host t a x.before.shared = .ok (r, x.after.shared)) (leads : Leads e (phase t) a r q) :
    Matched k (past ++ [x]) x.after.shared (Function.update phase t q) := by
  by_cases hopens : ∃ id : ℤ, id ≠ -1 ∧ a = .store (.cursorId k) id
  · obtain ⟨id, hid, rfl⟩ := hopens
    obtain ⟨hfound, rfl, -⟩ := leads.opens hid
    refine Matched.begin ⟨id, hid, label, reply⟩ fun u hu => ?_
    by_cases hut : u = t
    · subst hut
      simp at hu
    · rw [Function.update_of_ne hut] at hu
      exact hut (orderly.alone hu hfound)
  by_cases hreleases : e = .cursorClose k.val ∧ ∃ res, a = .library (.freeResult res)
  · obtain ⟨rfl, res, rfl⟩ := hreleases
    refine h.release ⟨label, reply, _, runs⟩ (answered ok) ?_
    rw [Function.update_self]
    exact leads.releases.2
  have hid : (x.after.shared.dll.cursors k).id ≠ -1 → (x.before.shared.dll.cursors k).id ≠ -1 := by
    intro hopen
    rcases access_cell ok (.cursorId k) with hsame | ⟨id, rfl, hstored⟩
    · exact fun hfree => hopen (hsame.trans hfree)
    · exact absurd ⟨id, fun hfree => hopen (hstored.trans hfree), rfl⟩ hopens
  refine h.skip hid (fun hopen => ?_) (fun u hu => ?_) (fun res u hu => ?_) fun hopen => ⟨?_, ?_⟩
  · rcases access_cell ok (.recordSet k) with hsame | ⟨res, rfl, -⟩
    · exact hsame
    · exact absurd (orderly.facts t _ leads.stores) (hid hopen)
  · obtain ⟨id, hne, hlabel, hreply⟩ := hu
    rw [reply] at hreply
    cases hreply
    exact hopens ⟨id, hne, rfl⟩
  · obtain ⟨hlabel, hreply, p, hp⟩ := hu
    rw [label] at hlabel
    cases hlabel
    rw [reply] at hreply
    cases hreply
    rw [runs] at hp
    cases hp
    exact hreleases ⟨rfl, res, rfl⟩
  · rintro ⟨u, hu⟩
    by_cases hut : u = t
    · subst hut
      rw [Function.update_self] at hu
      subst hu
      rcases leads.to_freed with hfreed | hrel
      · exact ⟨u, hfreed⟩
      · exact absurd hrel hreleases
    · rw [Function.update_of_ne hut] at hu
      exact ⟨u, hu⟩
  · rintro ⟨u, hu⟩
    by_cases hut : u = t
    · subst hut
      rw [hu] at leads
      rcases leads.from_freed with hq | rfl
      · exact ⟨u, by rw [Function.update_self, hq]⟩
      · exact absurd (stored ok) hopen
    · exact ⟨u, by rw [Function.update_of_ne hut, hu]⟩

omit [DecidableEq T] in
/-- So does a step in which no access is made. -/
theorem Matched.rest (h : Matched k past x.before.shared phase) {phase' : T → Phase}
    (other : ∀ a r, x.reply ≠ .made a r)
    (freed : ∀ t, phase' t = .inside (.freedResult k) ↔ phase t = .inside (.freedResult k)) :
    Matched k (past ++ [x]) x.before.shared phase' := by
  refine h.skip id (fun _ => rfl) (fun t hx => ?_) (fun res t hx => ?_) fun _ => exists_congr freed
  · obtain ⟨id, -, -, hreply⟩ := hx
    exact other _ _ hreply
  · exact other _ _ hx.2.1

theorem matched_upholds (host : Host σ) (turns : ℕ) (k : Fin maxCursors) :
    Upholds conduct Ends .fresh (code host turns) (accessStep (T := T) host)
      fun past s phase => Orderly s phase ∧ Matched k past s phase where
  obeys := obeys_code host turns
  onward _ _ _ _ _ := Leads.ne_fresh
  enters past x phase t c h _ reply := by
    refine ⟨h.1, h.2.rest (fun a r hmade => ?_) fun _ => Iff.rfl⟩
    rw [reply] at hmade
    cases hmade
  keeps past x phase t c l rest r q h label reply runs ok _ leads :=
    ⟨h.1.step leads ok, h.2.made h.1 label reply runs ok leads⟩
  leaves past x phase t c v h _ reply ends := by
    refine ⟨h.1.home ends, h.2.rest (fun a r hmade => ?_) fun u => ?_⟩
    · rw [reply] at hmade
      cases hmade
    · by_cases hut : u = t
      · subst hut
        rw [Function.update_self]
        refine iff_of_false nofun fun hinside => ?_
        rw [hinside] at ends
        exact not_ends_inside ends
      · rw [Function.update_of_ne hut]

/-- At every step of a run, what a cursor slot holds belongs to the last opening of the slot. -/
theorem ThreadRun.matched (h : ThreadRun host turns library tr s) (k : Fin maxCursors) :
    ∃ phase, InOrder host turns s phase ∧ Matched k tr s.shared phase := by
  obtain ⟨phase, hconforms, horderly, hmatched⟩ := Run.conforms h (matched_upholds host turns k)
    (conforms_start host turns library) ⟨orderly_start library, fun hopen => absurd rfl hopen⟩
  exact ⟨phase, ⟨hconforms, horderly⟩, hmatched⟩

/-- What `cMySqlCursorClose` releases is the record set with which the slot was opened, and was not released since. -/
theorem ThreadRun.released {t : T} {res : Option MysqlRes} (h : ThreadRun host turns library (past ++ y :: future) s)
    (hy : Releases k res t y) :
    ∃ (first : List (Threaded T σ)) (x : Threaded T σ) (own : List (Threaded T σ)),
      past = first ++ x :: own ∧ (∃ u, Registers k u x) ∧ (x.after.shared.dll.cursors k).recordSet = res ∧
        ∀ z ∈ own, ∀ u, ¬ Registers k u z ∧ ∀ res', ¬ Releases k res' u z := by
  obtain ⟨hpast, hstep, -⟩ := Run.split_at h
  obtain ⟨phase, hphase, hmatched⟩ := ThreadRun.matched hpast k
  obtain ⟨hlabel, hreply, p, hp⟩ := hy
  obtain ⟨e, rest, next, hruns, hleads, -⟩ := hphase.made hstep hlabel hreply
  rw [hruns] at hp
  cases hp
  obtain ⟨htook, -⟩ := hleads.releases
  obtain ⟨hopen, hres⟩ := hphase.orderly.facts t _ htook
  obtain ⟨first, x, own, hsplit, hx, hrecord, hown, hreleased⟩ := hmatched hopen
  refine ⟨first, x, own, hsplit, hx, hrecord.trans hres, fun z hz u => ⟨hown z hz u, fun res' hz' => ?_⟩⟩
  obtain ⟨v, hv⟩ := hreleased.mp ⟨z, hz, res', u, hz'⟩
  obtain rfl := hphase.orderly.alone hv htook
  rw [hv] at htook
  cases htook

/-- A slot is opened while it is free, with its own number. -/
theorem ThreadRun.opens {t : T} (h : ThreadRun host turns library (past ++ x :: future) s) (hx : Registers k t x) :
    (x.before.shared.dll.cursors k).id = -1 ∧ (x.after.shared.dll.cursors k).id = k.val := by
  obtain ⟨id, hid, hlabel, hreply⟩ := hx
  obtain ⟨e, rest, phase, next, -, hphase, hleads, hok⟩ := h.made hlabel hreply
  obtain ⟨hfound, -, rfl⟩ := hleads.opens hid
  exact ⟨hphase.orderly.facts t _ hfound, stored hok⟩

/-- What comes after the last of some elements comes after each of them. -/
theorem mem_after {α : Type} {first own past mid : List α} {x₀ x z : α}
    (h : past ++ x :: mid = first ++ x₀ :: own) (hx : x ∉ own) (hz : z ∈ own) : z ∈ mid := by
  rcases List.append_eq_append_iff.mp h with ⟨as, rfl, has⟩ | ⟨bs, rfl, hbs⟩
  · cases as with
    | nil =>
      obtain ⟨-, rfl⟩ := List.cons.inj has
      exact hz
    | cons a as =>
      obtain ⟨-, rfl⟩ := List.cons.inj has
      simp [hz]
  · cases bs with
    | nil =>
      obtain ⟨-, rfl⟩ := List.cons.inj hbs
      exact hz
    | cons b bs =>
      obtain ⟨-, rfl⟩ := List.cons.inj hbs
      simp at hx

/-- Before a slot is opened again, its record set is released. -/
theorem ThreadRun.released_between {t u : T} (h : ThreadRun host turns library (past ++ x :: (mid ++ y :: future)) s)
    (hx : Registers k t x) (hy : Registers k u y) : ∃ z ∈ mid, ∃ v res, Releases k res v z := by
  have hafter : (x.after.shared.dll.cursors k).id ≠ -1 := by
    rw [(h.opens hx).2]
    exact val_ne_neg_one k
  have hbefore : (y.before.shared.dll.cursors k).id = -1 := by
    have hfull : ThreadRun host turns library ((past ++ x :: mid) ++ y :: future) s := by simpa using h
    exact (hfull.opens hy).1
  obtain ⟨-, -, hrest⟩ := Run.split_at h
  obtain ⟨hmid, -, -⟩ := hrest.split_at
  obtain ⟨before, z, after, rfl, hopen, hfree⟩ :=
    hmid.flips (fun s => (s.shared.dll.cursors k).id ≠ -1) hafter (not_not.mpr hbefore)
  have hsplit : ThreadRun host turns library ((past ++ x :: before) ++ z :: (after ++ y :: future)) s := by
    simpa using h
  obtain ⟨v, id, ⟨hlabel, hreply⟩, hstored⟩ := (hsplit.cell (.cursorId k)).resolve_left
    fun hsame => hfree fun hclosed => hopen (hsame.symm.trans hclosed)
  have hid : id = -1 := hstored.symm.trans (not_not.mp hfree)
  obtain ⟨hpast, hstep, -⟩ := Run.split_at hsplit
  obtain ⟨phase, hphase, hmatched⟩ := ThreadRun.matched hpast k
  obtain ⟨e, rest, next, -, hleads, -⟩ := hphase.made hstep hlabel hreply
  have hfreed : phase v = .inside (.freedResult k) :=
    (hleads.frees hid).resolve_left fun hfound => hopen (hphase.orderly.facts v _ hfound)
  obtain ⟨first, x₀, own, hown, -, -, hopens, hreleased⟩ := hmatched hopen
  obtain ⟨z', hz', res, w, hrel⟩ := hreleased.mpr ⟨v, hfreed⟩
  have hlater := mem_after hown (fun hmem => hopens x hmem t hx) hz'
  exact ⟨z', List.mem_append_left _ hlater, w, res, hrel⟩

/-- In every interleaving, each opening of a cursor slot is followed by one release of its record set before the slot
is opened again: `cMySqlCursorClose` releases the record set of the last opening, which has not been released since,
and between two openings there is such a release. -/
theorem ThreadRun.released_once (h : ThreadRun host turns library tr s) :
    (∀ past y future k res t, tr = past ++ y :: future → Releases k res t y →
      ∃ (first : List (Threaded T σ)) (x : Threaded T σ) (own : List (Threaded T σ)),
        past = first ++ x :: own ∧ (∃ u, Registers k u x) ∧ (x.after.shared.dll.cursors k).recordSet = res ∧
          ∀ z ∈ own, ∀ u, ¬ Registers k u z ∧ ∀ res', ¬ Releases k res' u z) ∧
    ∀ past x mid y future k t u, tr = past ++ x :: (mid ++ y :: future) → Registers k t x → Registers k u y →
      ∃ z ∈ mid, ∃ v res, Releases k res v z := by
  constructor
  · rintro past y future k res t rfl hy
    exact h.released hy
  · rintro past x mid y future k t u rfl hx hy
    exact h.released_between hx hy

/-- One thread opens a cursor and another closes it. -/
theorem released_once_sample :
    ∃ (tr : List (Threaded ℕ Server)) (s : Threads ℕ Server),
      ThreadRun scriptedHost 8 (Server.fresh [.ofResultSet]) tr s ∧
        (s.shared.dll.cursors ⟨0, by decide⟩).recordSet ≠ none ∧
        (s.shared.dll.cursors ⟨0, by decide⟩).id = -1 ∧
        ∀ past y future k res t, tr = past ++ y :: future → Releases k res t y →
          ∃ (first : List (Threaded ℕ Server)) (x : Threaded ℕ Server) (own : List (Threaded ℕ Server)),
            past = first ++ x :: own ∧ (∃ u, Registers k u x) ∧ (x.after.shared.dll.cursors k).recordSet = res ∧
              ∀ z ∈ own, ∀ u, ¬ Registers k u z ∧ ∀ res', ¬ Releases k res' u z := by
  have hcheck : passes (fun run => decide ((run.2.shared.dll.cursors ⟨0, by decide⟩).recordSet ≠ none ∧
        (run.2.shared.dll.cursors ⟨0, by decide⟩).id = -1))
      (replay (threadStep (T := ℕ) scriptedHost 8)
        (.enter 0 (.connect .sample) :: List.replicate 11 (.advance 0) ++ .enter 0 (.cursorOpen 0 [83]) ::
          List.replicate 21 (.advance 0) ++ .enter 1 (.cursorClose 0) :: List.replicate 2 (.advance 0) ++
            List.replicate 9 (.advance 1)) (Threads.start ℕ (Server.fresh [.ofResultSet]))) = true := by
    decide +kernel
  obtain ⟨tr, s, hrun, hslot⟩ := Run.of_passes hcheck
  obtain ⟨hset, hid⟩ := of_decide_eq_true hslot
  exact ⟨tr, s, hrun, hset, hid, (ThreadRun.released_once hrun).1⟩

end MqlMySql
