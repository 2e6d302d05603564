import MqlMySql.Spec.Conduct

/-!
# What holds while threads go on in any order

At most one thread is inside the mutex, and what it found out about a slot there stays true until it changes the
slot itself: the functions without the mutex only ever free connection slots.
-/

namespace MqlMySql

open Library

variable {T σ : Type} [DecidableEq T] {host : Host σ}

/-- What a thread inside the mutex knows about the tables. -/
def Stage.Fact : Stage → Dll → Prop
  | .foundConnection i, d => (d.connections i).id = -1
  | .foundCursor k, d => (d.cursors k).id = -1
  | .foundOpen k, d | .freedResult k, d => (d.cursors k).id ≠ -1
  | .tookResult k res, d => (d.cursors k).id ≠ -1 ∧ (d.cursors k).recordSet = res
  | _, _ => True

/-- The thread inside the mutex owns it, no thread has taken it twice, and what it knows is true. -/
structure Orderly (s : Shared T σ) (phase : T → Phase) : Prop where
  owner : ∀ t, (∃ stage, phase t = .inside stage) ↔ s.mutex = some (t, 0)
  once : ∀ t again, s.mutex = some (t, again) → again = 0
  facts : ∀ t stage, phase t = .inside stage → stage.Fact s.dll

section Plain

variable {e : Exported} {a : Access} {r : a.Reply} {s s' : Shared T σ} {t : T}

/-- A plain access leaves the mutex alone. -/
theorem Access.Plain.mutex (plain : a.Plain e) (ok : accessStep host t a s = .ok (r, s')) : s'.mutex = s.mutex := by
  cases a with
  | lock => exact plain.elim
  | unlock => exact plain.elim
  | load c => cases ok; rfl
  | store c v => cases ok; rfl
  | library q => cases ok; rfl
  | fail fault => exact r.elim

/-- It changes neither the id nor the record set of a cursor. -/
theorem Access.Plain.cursor (plain : a.Plain e) (ok : accessStep host t a s = .ok (r, s')) (k : Fin maxCursors) :
    (s'.dll.cursors k).id = (s.dll.cursors k).id ∧ (s'.dll.cursors k).recordSet = (s.dll.cursors k).recordSet := by
  cases a with
  | lock => exact plain.elim
  | unlock => exact plain.elim
  | load c => cases ok; exact ⟨rfl, rfl⟩
  | store c v =>
    cases ok
    cases c <;> simp only [Dll.store, Dll.setConnection_cursors, Dll.setCursor_cursors, and_self] <;>
      first
      | exact plain.elim
      | split <;> simp_all
  | library q => cases ok; exact ⟨rfl, rfl⟩
  | fail fault => exact r.elim

/-- A connection id stays or becomes `-1`. -/
theorem Access.Plain.connection (plain : a.Plain e) (ok : accessStep host t a s = .ok (r, s'))
    (i : Fin maxConnections) :
    (s'.dll.connections i).id = (s.dll.connections i).id ∨ (s'.dll.connections i).id = -1 := by
  cases a with
  | lock => exact plain.elim
  | unlock => exact plain.elim
  | load c => cases ok; exact .inl rfl
  | store c v =>
    cases ok
    cases c <;> simp only [Dll.store, Dll.setConnection_connections, Dll.setCursor_connections, true_or] <;>
      split <;> simp_all [Access.Plain]
  | library q => cases ok; exact .inl rfl
  | fail fault => exact r.elim

/-- So what is known about the tables stays true. -/
theorem Access.Plain.fact (plain : a.Plain e) (ok : accessStep host t a s = .ok (r, s')) {stage : Stage}
    (h : stage.Fact s.dll) : stage.Fact s'.dll := by
  cases stage with
  | foundConnection i =>
    rcases plain.connection ok i with hsame | hfree
    · exact hsame.trans h
    · exact hfree
  | foundCursor k => exact (plain.cursor ok k).1.trans h
  | foundOpen k => exact fun hfree => h ((plain.cursor ok k).1.symm.trans hfree)
  | freedResult k => exact fun hfree => h ((plain.cursor ok k).1.symm.trans hfree)
  | tookResult k res =>
    exact ⟨fun hfree => h.1 ((plain.cursor ok k).1.symm.trans hfree), (plain.cursor ok k).2.trans h.2⟩
  | _ => trivial

end Plain

namespace Orderly

variable {s s' : Shared T σ} {phase : T → Phase} {t u : T} {stage stage' : Stage}

omit [DecidableEq T] in
/-- Two threads are never inside together. -/
theorem alone (h : Orderly s phase) (ht : phase t = .inside stage) (hu : phase u = .inside stage') : t = u := by
  have ht := (h.owner t).mp ⟨stage, ht⟩
  have hu := (h.owner u).mp ⟨stage', hu⟩
  rw [ht] at hu
  simpa using hu

/-- A thread goes on without taking or releasing the mutex. -/
theorem go (h : Orderly s phase) {q : Phase} (mutex : s'.mutex = s.mutex)
    (same : (∃ stage, q = .inside stage) ↔ ∃ stage, phase t = .inside stage)
    (own : ∀ stage, q = .inside stage → stage.Fact s'.dll)
    (others : ∀ u stage, u ≠ t → phase u = .inside stage → stage.Fact s'.dll) :
    Orderly s' (Function.update phase t q) := by
  refine ⟨fun u => ?_, fun u again hu => h.once u again (mutex ▸ hu), fun u stage hu => ?_⟩
  · rw [mutex]
    by_cases hut : u = t
    · subst hut
      rw [Function.update_self, same]
      exact h.owner u
    · rw [Function.update_of_ne hut]
      exact h.owner u
  · by_cases hut : u = t
    · subst hut
      rw [Function.update_self] at hu
      exact own stage hu
    · rw [Function.update_of_ne hut] at hu
      exact others u stage hut hu

/-- The thread inside goes on there. -/
theorem go_inside (h : Orderly s phase) (ht : phase t = .inside stage) (mutex : s'.mutex = s.mutex)
    (fact : stage'.Fact s'.dll) : Orderly s' (Function.update phase t (.inside stage')) := by
  refine h.go mutex ⟨fun _ => ⟨stage, ht⟩, fun _ => ⟨stage', rfl⟩⟩ ?_ ?_
  · rintro _ ⟨⟩
    exact fact
  · intro u stage'' hut hu
    exact absurd (h.alone hu ht) hut

/-- A thread outside goes on there. -/
theorem go_outside (h : Orderly s phase) {q : Phase} (ht : ∀ stage, phase t ≠ .inside stage)
    (hq : ∀ stage, q ≠ .inside stage) (mutex : s'.mutex = s.mutex)
    (facts : ∀ stage : Stage, stage.Fact s.dll → stage.Fact s'.dll) : Orderly s' (Function.update phase t q) := by
  refine h.go mutex ⟨fun ⟨stage, hs⟩ => absurd hs (hq stage), fun ⟨stage, hs⟩ => absurd hs (ht stage)⟩ ?_ ?_
  · intro stage hs
    exact absurd hs (hq stage)
  · intro u stage _ hu
    exact facts stage (h.facts u stage hu)

/-- A thread which takes the mutex is the only one inside. -/
theorem lock (h : Orderly s phase) (ht : phase t = .fresh) (ok : accessStep host t .lock s = .ok ((), s')) :
    Orderly s' (Function.update phase t (.inside .begun)) := by
  have hfree : s.mutex = none ∧ s' = { s with mutex := some (t, 0) } := by
    cases hm : s.mutex with
    | none =>
      simp only [accessStep, hm] at ok
      cases ok
      exact ⟨rfl, rfl⟩
    | some held =>
      obtain ⟨owner, again⟩ := held
      simp only [accessStep, hm] at ok
      split at ok
      · rename_i howner
        subst howner
        obtain rfl := h.once owner again hm
        obtain ⟨stage, hs⟩ := (h.owner owner).mpr hm
        rw [ht] at hs
        cases hs
      · cases ok
  obtain ⟨hnone, rfl⟩ := hfree
  have hnobody : ∀ u stage, phase u ≠ .inside stage := by
    intro u stage hu
    have hm := (h.owner u).mp ⟨stage, hu⟩
    rw [hnone] at hm
    cases hm
  refine ⟨fun u => ?_, fun u again hu => ?_, fun u stage hu => ?_⟩
  · by_cases hut : u = t
    · subst hut
      simp
    · rw [Function.update_of_ne hut]
      constructor
      · rintro ⟨stage, hu⟩
        exact absurd hu (hnobody u stage)
      · intro hu
        simp only [Option.some.injEq, Prod.mk.injEq] at hu
        exact absurd hu.1.symm hut
  · simp only [Option.some.injEq, Prod.mk.injEq] at hu
    exact hu.2.symm
  · by_cases hut : u = t
    · subst hut
      rw [Function.update_self] at hu
      cases hu
      trivial
    · rw [Function.update_of_ne hut] at hu
      exact absurd hu (hnobody u stage)

/-- A thread which releases the mutex leaves nobody inside. -/
theorem unlock (h : Orderly s phase) (ht : phase t = .inside stage)
    (ok : accessStep host t .unlock s = .ok ((), s')) : Orderly s' (Function.update phase t (.left stage)) := by
  have hm := (h.owner t).mp ⟨stage, ht⟩
  simp only [accessStep, hm, if_true] at ok
  cases ok
  have hnobody : ∀ u stage', Function.update phase t (.left stage) u ≠ .inside stage' := by
    intro u stage' hu
    by_cases hut : u = t
    · subst hut
      rw [Function.update_self] at hu
      cases hu
    · rw [Function.update_of_ne hut] at hu
      exact hut (h.alone hu ht)
  refine ⟨fun u => ?_, fun u again hu => ?_, fun u stage' hu => absurd hu (hnobody u stage')⟩
  · constructor
    · rintro ⟨stage', hu⟩
      exact absurd hu (hnobody u stage')
    · intro hu
      cases hu
  · cases hu

end Orderly

/-- Loading changes nothing and tells what is there. -/
theorem loaded {c : Cell} {v : c.Value} {s s' : Shared T σ} {t : T}
    (ok : accessStep host t (.load c) s = .ok (v, s')) : s.dll.load c = v ∧ s' = s := by
  cases ok
  exact ⟨rfl, rfl⟩

/-- What is stored is there. -/
theorem stored {c : Cell} {v : c.Value} {s s' : Shared T σ} {t : T} {r : Unit}
    (ok : accessStep host t (.store c v) s = .ok (r, s')) : s'.dll.load c = v := by
  cases ok
  exact Dll.load_store_self ..

/-- A function outside the DLL leaves its variables alone. -/
theorem answered {q : Request} {r : q.Reply} {s s' : Shared T σ} {t : T}
    (ok : accessStep host t (.library q) s = .ok (r, s')) : s'.dll = s.dll := by
  cases ok
  rfl

/-- One access which the rules allow keeps the order. -/
theorem Orderly.step {e : Exported} {s s' : Shared T σ} {phase : T → Phase} {t : T} {a : Access} {r : a.Reply}
    {q : Phase} (h : Orderly s phase) (leads : Leads e (phase t) a r q)
    (ok : accessStep host t a s = .ok (r, s')) : Orderly s' (Function.update phase t q) := by
  generalize ht : phase t = from_ at leads
  cases leads with
  | first r locks plain =>
    exact h.go_outside (by simp [ht]) nofun (plain.mutex ok) fun _ => plain.fact ok
  | apart r locks plain =>
    exact h.go_outside (by simp [ht]) nofun (plain.mutex ok) fun _ => plain.fact ok
  | lock locks => exact h.lock ht ok
  | plain stage r locks plain => exact h.go_inside ht (plain.mutex ok) (plain.fact ok (h.facts t stage ht))
  | unlock stage settled => exact h.unlock ht ok
  | read stage k v reads =>
    cases ok
    exact h.go_outside (by simp [ht]) nofun rfl fun _ => id
  | findConnection i connects =>
    obtain ⟨hid, rfl⟩ := loaded ok
    exact h.go_inside ht rfl hid
  | giveConnection i connects =>
    cases ok
    exact h.go_inside ht rfl trivial
  | findCursor k opens =>
    obtain ⟨hid, rfl⟩ := loaded ok
    exact h.go_inside ht rfl hid
  | storeResult k res opens =>
    have hfree : (s.dll.cursors k).id = -1 := h.facts t _ ht
    cases ok
    exact h.go_inside ht rfl (by simpa [Stage.Fact, Dll.store] using hfree)
  | giveCursor k opens =>
    cases ok
    exact h.go_inside ht rfl trivial
  | keepCursor k opens =>
    cases ok
    exact h.go_inside ht rfl (by simp [Stage.Fact, Dll.store])
  | findOpen k id used closes =>
    obtain ⟨rfl, rfl⟩ := loaded ok
    exact h.go_inside ht rfl used
  | takeResult k res closes =>
    obtain ⟨hres, rfl⟩ := loaded ok
    exact h.go_inside ht rfl ⟨h.facts t _ ht, hres⟩
  | freeResult k res closes =>
    cases ok
    exact h.go_inside ht rfl (h.facts t _ ht).1
  | closeCursor k closes =>
    cases ok
    exact h.go_inside ht rfl trivial

/-- A function does not return from inside. -/
theorem not_ends_inside {e : Exported} {stage : Stage} {v : e.Reply} : ¬ Ends e (.inside stage) v := by
  cases e <;> simp [Ends]

/-- A thread which returns is not inside. -/
theorem Orderly.home {s : Shared T σ} {phase : T → Phase} {t : T} {e : Exported} {v : e.Reply} (h : Orderly s phase)
    (ends : Ends e (phase t) v) : Orderly s (Function.update phase t .fresh) := by
  have hout : ∀ stage, phase t ≠ .inside stage := by
    intro stage hs
    rw [hs] at ends
    exact not_ends_inside ends
  exact h.go_outside hout nofun rfl fun _ => id

/-- No access leads back to where a call begins. -/
theorem Leads.ne_fresh {e : Exported} {from_ q : Phase} {a : Access} {r : a.Reply} (h : Leads e from_ a r q) :
    q ≠ .fresh := by
  cases h <;> nofun

/-- Whatever the threads do, they stay in order. -/
theorem orderly_upholds (host : Host σ) (turns : ℕ) :
    Upholds conduct Ends .fresh (code host turns) (accessStep (T := T) host) fun _ s phase => Orderly s phase where
  obeys := obeys_code host turns
  onward _ _ _ _ _ := Leads.ne_fresh
  enters _ _ _ _ _ h _ _ := h
  keeps _ _ _ _ _ _ _ _ _ h _ _ _ ok _ leads := h.step leads ok
  leaves _ _ _ _ _ _ h _ _ ends := h.home ends

section Runs

variable {turns : ℕ} {library : σ} {tr : List (Threaded T σ)} {s : Threads T σ}

/-- The threads obey the rules of the functions which they are in, and are in order. -/
structure InOrder (host : Host σ) (turns : ℕ) (s : Threads T σ) (phase : T → Phase) : Prop where
  conforms : s.Conforms conduct Ends .fresh (code host turns) phase
  orderly : Orderly s.shared phase

omit [DecidableEq T] in
theorem conforms_start (host : Host σ) (turns : ℕ) (library : σ) :
    (Threads.start T library).Conforms conduct Ends .fresh (code host turns) fun _ => .fresh where
  outside _ _ := rfl
  inside := by simp [Threads.start]
  fresh := by simp [Threads.start]

omit [DecidableEq T] in
theorem orderly_start (library : σ) : Orderly (Threads.start T library).shared fun _ => .fresh where
  owner := by simp [Threads.start]
  once := by simp [Threads.start]
  facts := by simp

/-- In every state of every run the threads are in order. -/
theorem ThreadRun.inOrder (h : ThreadRun host turns library tr s) : ∃ phase, InOrder host turns s phase := by
  obtain ⟨phase, hconforms, horderly⟩ :=
    Run.conforms h (orderly_upholds host turns) (conforms_start host turns library) (orderly_start library)
  exact ⟨phase, hconforms, horderly⟩

variable {past future : List (Threaded T σ)} {x : Threaded T σ} {t : T}

/-- An access is one which the rules allow in the phase of its thread. -/
theorem InOrder.made {phase : T → Phase} {a : Access} {r : a.Reply} (hphase : InOrder host turns x.before phase)
    (step : threadStep host turns x.label x.before = .ok (x.reply, x.after)) (label : x.label = .advance t)
    (reply : x.reply = .made a r) :
    ∃ e rest next, x.before.running t = some ⟨e, .call a rest⟩ ∧ Leads e (phase t) a r next ∧
      accessStep host t a x.before.shared = .ok (r, x.after.shared) := by
  obtain ⟨before, m, happening, after⟩ := x
  dsimp only at step label reply hphase ⊢
  subst label reply
  cases poolStep_cases step with
  | @made _ e _ rest _ _ runs ok =>
    obtain ⟨next, hleads, -⟩ := (hphase.conforms.inside t e _ runs).2 r
    exact ⟨e, rest, next, runs, hleads, ok⟩

/-- Every access of a run is one which the rules allow. -/
theorem ThreadRun.made {a : Access} {r : a.Reply} (h : ThreadRun host turns library (past ++ x :: future) s)
    (label : x.label = .advance t) (reply : x.reply = .made a r) :
    ∃ e rest phase next, x.before.running t = some ⟨e, .call a rest⟩ ∧ InOrder host turns x.before phase ∧
      Leads e (phase t) a r next ∧ accessStep host t a x.before.shared = .ok (r, x.after.shared) := by
  obtain ⟨hpast, hstep, -⟩ := Run.split_at h
  obtain ⟨phase, hphase⟩ := ThreadRun.inOrder hpast
  obtain ⟨e, rest, next, hmade⟩ := hphase.made hstep label reply
  exact ⟨e, rest, phase, next, hmade.1, hphase, hmade.2⟩

/-- A variable changes only when a thread stores it. -/
theorem access_cell {a : Access} {r : a.Reply} {s s' : Shared T σ} (ok : accessStep host t a s = .ok (r, s'))
    (c : Cell) : s'.dll.load c = s.dll.load c ∨ ∃ v, a = .store c v ∧ s'.dll.load c = v := by
  cases a with
  | lock =>
    simp only [accessStep] at ok
    split at ok
    · cases ok; exact .inl rfl
    · split at ok
      · cases ok; exact .inl rfl
      · cases ok
  | unlock =>
    simp only [accessStep] at ok
    split at ok
    · cases ok
    · split at ok
      · cases ok; exact .inl rfl
      · cases ok
    · split at ok
      · cases ok; exact .inl rfl
      · cases ok
  | load c' => cases ok; exact .inl rfl
  | store c' v =>
    cases ok
    by_cases hc : c = c'
    · subst hc
      exact .inr ⟨v, rfl, Dll.load_store_self ..⟩
    · exact .inl (Dll.load_store_of_ne _ hc v)
  | library q => cases ok; exact .inl rfl
  | fail fault => exact r.elim

/-- Nothing else changes what is shared. -/
theorem ThreadRun.shared_eq (h : ThreadRun host turns library (past ++ x :: future) s)
    (other : ∀ t a r, x.label = .advance t → x.reply ≠ .made a r) : x.after.shared = x.before.shared := by
  obtain ⟨-, hstep, -⟩ := Run.split_at h
  obtain ⟨before, m, happening, after⟩ := x
  dsimp only at hstep other ⊢
  cases poolStep_cases hstep with
  | entered idle => rfl
  | @made t _ a _ r _ _ _ => exact absurd rfl (other t a r rfl)
  | returned runs => rfl

/-- A call which returns has been entered and has made its accesses since then. -/
theorem ThreadRun.returned {e : Exported} {v : e.Reply} (h : ThreadRun host turns library (past ++ x :: future) s)
    (label : x.label = .advance t) (reply : x.reply = .returned e v) :
    ∃ (first : List (Threaded T σ)) (y : Threaded T σ) (own : List (Threaded T σ)),
      past = first ++ y :: own ∧ y.label = .enter t e ∧ (∀ z ∈ own, ∀ d, z.label ≠ .enter t d) ∧
      (code host turns e).Path (own.filterMap (Moved.access t)) (.done v) := by
  obtain ⟨hpast, hstep, -⟩ := Run.split_at h
  obtain ⟨before, m, happening, after⟩ := x
  dsimp only at hstep label reply hpast ⊢
  subst label reply
  cases poolStep_cases hstep with
  | returned runs => exact hpast.path rfl runs

/-- A step in which a thread stores a variable. -/
def Stores (t : T) (c : Cell) (v : c.Value) (x : Threaded T σ) : Prop :=
  x.label = .advance t ∧ x.reply = .made (.store c v) ()

/-- A step changes a variable only by storing it. -/
theorem ThreadRun.cell (h : ThreadRun host turns library (past ++ x :: future) s) (c : Cell) :
    x.after.shared.dll.load c = x.before.shared.dll.load c ∨
      ∃ t v, Stores t c v x ∧ x.after.shared.dll.load c = v := by
  by_cases hmade : ∃ t a r, x.label = .advance t ∧ x.reply = .made a r
  · obtain ⟨t, a, r, hlabel, hreply⟩ := hmade
    obtain ⟨-, -, -, -, -, -, -, hok⟩ := h.made hlabel hreply
    rcases access_cell hok c with hsame | ⟨v, rfl, hv⟩
    · exact .inl hsame
    · exact .inr ⟨t, v, ⟨hlabel, hreply⟩, hv⟩
  · rw [h.shared_eq fun t a r hlabel hreply => hmade ⟨t, a, r, hlabel, hreply⟩]
    exact .inl rfl

end Runs

end MqlMySql
