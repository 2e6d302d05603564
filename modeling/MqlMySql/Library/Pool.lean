import MqlMySql.Library.Conduct
import Mathlib.Logic.Function.Basic

/-!
# Threads which run programs over a shared state

Every thread enters calls, one after the other, and runs the program of each to its end; the steps of the threads
are interleaved in any order. A step makes one labelled call on the shared state, which may have to wait.

When the program of every call obeys a rule, an invariant between the shared state and the phases of the threads
is kept by every run if it is kept by every single call which the rule allows.
-/

namespace Library

universe u v w

variable {T : Type v} {C L S ε : Type u} {R : L → Type u} {V : C → Type u}

/-- The shared state, and for every thread inside a call what remains of its program. -/
structure Pool (T : Type v) (S : Type u) {C L : Type u} (R : L → Type u) (V : C → Type u) where
  shared : S
  running : T → Option (Σ c, Program L R (V c))

/-- What a thread does next. -/
inductive Move (T : Type v) (C : Type u)
  | enter (t : T) (c : C)
  | advance (t : T)
deriving DecidableEq

/-- What happens in a step. -/
inductive Happening {C L : Type u} (R : L → Type u) (V : C → Type u)
  | entered
  | made (l : L) (r : R l)
  | returned (c : C) (v : V c)

/-- Why there is no such step. -/
inductive Halt (ε : Type u)
  /-- The thread is inside a call already. -/
  | busy
  /-- The thread is in no call. -/
  | idle
  | inCall (e : ε)

namespace Pool

/-- The pool after one thread has gone on. -/
def moved [DecidableEq T] (s : Pool T S R V) (shared : S) (t : T)
    (rest : Option (Σ c, Program L R (V c))) : Pool T S R V :=
  ⟨shared, Function.update s.running t rest⟩

section Moved

variable [DecidableEq T] (s : Pool T S R V) (shared : S) (t : T) (rest : Option (Σ c, Program L R (V c)))

/-- After a move the shared state is the new one. -/
@[simp] theorem moved_shared : (s.moved shared t rest).shared = shared := rfl

/-- After a move the thread runs what is left. -/
@[simp] theorem moved_running : (s.moved shared t rest).running t = rest := Function.update_self ..

/-- A move of one thread leaves what the others run. -/
theorem moved_running_of_ne {u : T} (hut : u ≠ t) : (s.moved shared t rest).running u = s.running u :=
  Function.update_of_ne hut ..

/-- Two moves of one thread are one. -/
@[simp] theorem moved_moved (shared' : S) (rest' : Option (Σ c, Program L R (V c))) :
    (s.moved shared t rest).moved shared' t rest' = s.moved shared' t rest' := by
  simp [moved]

/-- A move which changes nothing. -/
theorem moved_eq_self (runs : s.running t = rest) : s.moved s.shared t rest = s := by
  rw [moved, ← runs, Function.update_eq_self]

end Moved

end Pool

variable [DecidableEq T] (code : (c : C) → Program L R (V c))
  (next : T → (l : L) → S → Except ε (R l × S))

/-- One step of one thread. -/
def poolStep : Move T C → Pool T S R V → Except (Halt ε) (Happening R V × Pool T S R V)
  | .enter t c, s =>
    match s.running t with
    | some _ => .error .busy
    | none => .ok (.entered, s.moved s.shared t (some ⟨c, code c⟩))
  | .advance t, s =>
    match s.running t with
    | none => .error .idle
    | some ⟨c, .done v⟩ => .ok (.returned c v, s.moved s.shared t none)
    | some ⟨c, .call l rest⟩ =>
      match next t l s.shared with
      | .error e => .error (.inCall e)
      | .ok (r, shared) => .ok (.made l r, s.moved shared t (some ⟨c, rest r⟩))

section Advance

variable {code : (c : C) → Program L R (V c)} {next : T → (l : L) → S → Except ε (R l × S)} {s : Pool T S R V}
  {t : T} {c : C}

/-- At the end of its program a thread returns and is idle. -/
theorem poolStep_of_done {v : V c} (runs : s.running t = some ⟨c, .done v⟩) :
    poolStep code next (.advance t) s = .ok (.returned c v, s.moved s.shared t none) := by
  simp [poolStep, runs]

/-- A thread makes the next access of its program. -/
theorem poolStep_of_ok {l : L} {rest : R l → Program L R (V c)} {r : R l} {shared : S}
    (runs : s.running t = some ⟨c, .call l rest⟩) (ok : next t l s.shared = .ok (r, shared)) :
    poolStep code next (.advance t) s = .ok (.made l r, s.moved shared t (some ⟨c, rest r⟩)) := by
  simp [poolStep, runs, ok]

/-- An access which fails ends the run of the pool. -/
theorem poolStep_of_error {l : L} {rest : R l → Program L R (V c)} {e : ε}
    (runs : s.running t = some ⟨c, .call l rest⟩) (error : next t l s.shared = .error e) :
    poolStep code next (.advance t) s = .error (.inCall e) := by
  simp [poolStep, runs, error]

/-- A thread which is not disturbed makes the steps of a part of its call. -/
theorem Run.advances {α : Type u} {a : α} {shared : S} (p : Program L R α) (f : α → Program L R (V c))
    (runs : s.running t = some ⟨c, p >>= f⟩) (ok : p.run (next t) s.shared = .ok (a, shared)) :
    ∃ more, Run (poolStep code next) s more (s.moved shared t (some ⟨c, f a⟩)) := by
  induction p generalizing s with
  | done b =>
    cases ok
    rw [Program.done_bind] at runs
    rw [Pool.moved_eq_self s _ _ runs]
    exact ⟨[], .nil s⟩
  | call l rest ih =>
    obtain ⟨r, middle, hcall, hrest⟩ := Program.run_call_eq_ok_iff.mp ok
    have hstep : poolStep code next (.advance t) s = _ := poolStep_of_ok runs hcall
    obtain ⟨more, hmore⟩ := ih r (s := s.moved middle t (some ⟨c, rest r >>= f⟩)) (by simp) hrest
    rw [Pool.moved_moved] at hmore
    exact ⟨_, .cons hstep hmore⟩

/-- So it does from the start of a call. -/
theorem Run.enters {α : Type u} {a : α} {shared : S} {p : Program L R α} {f : α → Program L R (V c)}
    (idle : s.running t = none) (hcode : code c = p >>= f) (ok : p.run (next t) s.shared = .ok (a, shared)) :
    ∃ more, Run (poolStep code next) s more (s.moved shared t (some ⟨c, f a⟩)) := by
  have hstep : poolStep code next (.enter t c) s = .ok (.entered, s.moved s.shared t (some ⟨c, p >>= f⟩)) := by
    simp [poolStep, idle, hcode]
  obtain ⟨more, hmore⟩ : ∃ more, Run (poolStep code next) _ more _ := Run.advances p f (s.moved_running ..) ok
  rw [Pool.moved_moved] at hmore
  exact ⟨_, .cons hstep hmore⟩

/-- What keeps a thread from going on inside a call is an access. -/
theorem poolStep_error {e : ε} (h : poolStep code next (.advance t) s = .error (.inCall e)) :
    ∃ c l rest, s.running t = some ⟨c, .call l rest⟩ ∧ next t l s.shared = .error e := by
  simp only [poolStep] at h
  split at h
  · cases h
  · cases h
  · rename_i c l rest hruns
    split at h
    · rename_i e' herror
      cases h
      exact ⟨c, l, rest, hruns, herror⟩
    · cases h

end Advance

/-- A recorded step of a pool. -/
abbrev Moved (T : Type v) (S : Type u) {C L : Type u} (R : L → Type u) (V : C → Type u) :=
  Recorded (Pool T S R V) (Move T C) fun _ => Happening R V

variable {code next} {s s' : Pool T S R V} {m : Move T C} {a : Happening R V}

/-- What a step is. -/
inductive PoolStep (code : (c : C) → Program L R (V c)) (next : T → (l : L) → S → Except ε (R l × S))
    (s : Pool T S R V) : Move T C → Happening R V → Pool T S R V → Prop
  | entered {t : T} {c : C} (idle : s.running t = none) :
      PoolStep code next s (.enter t c) .entered (s.moved s.shared t (some ⟨c, code c⟩))
  | made {t : T} {c : C} {l : L} {rest : R l → Program L R (V c)} {r : R l} {shared : S}
      (runs : s.running t = some ⟨c, .call l rest⟩) (ok : next t l s.shared = .ok (r, shared)) :
      PoolStep code next s (.advance t) (.made l r) (s.moved shared t (some ⟨c, rest r⟩))
  | returned {t : T} {c : C} {v : V c} (runs : s.running t = some ⟨c, .done v⟩) :
      PoolStep code next s (.advance t) (.returned c v) (s.moved s.shared t none)

/-- A move is one of these. -/
theorem poolStep_cases (h : poolStep code next m s = .ok (a, s')) : PoolStep code next s m a s' := by
  cases m with
  | enter t c =>
    simp only [poolStep] at h
    split at h
    · cases h
    · rename_i hidle
      cases h
      exact .entered hidle
  | advance t =>
    simp only [poolStep] at h
    split at h
    · cases h
    · rename_i c v hruns
      cases h
      exact .returned hruns
    · rename_i c l rest hruns
      split at h
      · cases h
      · rename_i r shared hnext
        cases h
        exact .made hruns hnext

section Conforms

variable {P : Type w} (rules : C → Rules P R) (Ends : (c : C) → P → V c → Prop) (home : P)
  (code : (c : C) → Program L R (V c))

/-- Every thread is in a phase from which it obeys the rules of its call. Threads which have made no call yet are at
home. -/
structure Pool.Conforms (s : Pool T S R V) (phase : T → P) : Prop where
  outside : ∀ t, s.running t = none → phase t = home
  inside : ∀ t c p, s.running t = some ⟨c, p⟩ → Obeys (rules c) (Ends c) p (phase t)
  fresh : ∀ t c p, s.running t = some ⟨c, p⟩ → phase t = home → p = code c

/-- The rules keep an invariant between what has happened, what is shared, and the phases of the threads. -/
structure Upholds (next : T → (l : L) → S → Except ε (R l × S))
    (Inv : List (Moved T S R V) → S → (T → P) → Prop) : Prop where
  obeys : ∀ c, Obeys (rules c) (Ends c) (code c) home
  onward : ∀ c phase l r q, (rules c).leads phase l r q → q ≠ home
  enters : ∀ past x phase t c, Inv past x.before.shared phase → x.label = .enter t c → x.reply = .entered →
    Inv (past ++ [x]) x.before.shared phase
  keeps : ∀ past x phase t c l rest r q, Inv past x.before.shared phase → x.label = .advance t →
    x.reply = .made l r → x.before.running t = some ⟨c, .call l rest⟩ →
    next t l x.before.shared = .ok (r, x.after.shared) → (rules c).may (phase t) l →
    (rules c).leads (phase t) l r q → Inv (past ++ [x]) x.after.shared (Function.update phase t q)
  leaves : ∀ past x phase t c v, Inv past x.before.shared phase → x.label = .advance t →
    x.reply = .returned c v → Ends c (phase t) v →
    Inv (past ++ [x]) x.before.shared (Function.update phase t home)

variable {rules Ends home code} {phase : T → P}

/-- A thread which goes on in its own phase leaves all others in theirs. -/
theorem Pool.Conforms.moved (h : s.Conforms rules Ends home code phase) {shared : S} {t : T}
    {rest : Option (Σ c, Program L R (V c))} {q : P} (outside : rest = none → q = home)
    (inside : ∀ c p, rest = some ⟨c, p⟩ → Obeys (rules c) (Ends c) p q)
    (fresh : ∀ c p, rest = some ⟨c, p⟩ → q = home → p = code c) :
    (s.moved shared t rest).Conforms rules Ends home code (Function.update phase t q) := by
  refine ⟨fun u hu => ?_, fun u c p hu => ?_, fun u c p hu => ?_⟩
  all_goals by_cases hut : u = t
  · subst hut
    rw [Function.update_self]
    exact outside (by simpa using hu)
  · rw [s.moved_running_of_ne shared t rest hut] at hu
    rw [Function.update_of_ne hut]
    exact h.outside u hu
  · subst hut
    rw [Function.update_self]
    exact inside c p (by simpa using hu)
  · rw [s.moved_running_of_ne shared t rest hut] at hu
    rw [Function.update_of_ne hut]
    exact h.inside u c p hu
  · subst hut
    rw [Function.update_self]
    exact fresh c p (by simpa using hu)
  · rw [s.moved_running_of_ne shared t rest hut] at hu
    rw [Function.update_of_ne hut]
    exact h.fresh u c p hu

variable {Inv : List (Moved T S R V) → S → (T → P) → Prop} {past : List (Moved T S R V)}

/-- One step keeps the pool in conformance, and the invariant. -/
theorem Pool.Conforms.step (h : s.Conforms rules Ends home code phase)
    (upholds : Upholds rules Ends home code next Inv) (inv : Inv past s.shared phase)
    (hs : PoolStep code next s m a s') :
    ∃ phase', s'.Conforms rules Ends home code phase' ∧
      Inv (past ++ [(⟨s, m, a, s'⟩ : Moved T S R V)]) s'.shared phase' := by
  cases hs with
  | @entered t c idle =>
    have hphase : Function.update phase t home = phase := by rw [← h.outside t idle, Function.update_eq_self]
    refine ⟨Function.update phase t home, h.moved (by simp) ?_ ?_, ?_⟩
    · rintro c' p ⟨⟩
      exact upholds.obeys c
    · rintro c' p ⟨⟩ -
      rfl
    · rw [hphase]
      exact upholds.enters past ⟨_, _, _, _⟩ phase t c inv rfl rfl
  | @made t c l rest r shared runs ok =>
    obtain ⟨hmay, hreplies⟩ := h.inside t c _ runs
    obtain ⟨q, hleads, hrest⟩ := hreplies r
    refine ⟨Function.update phase t q, h.moved (by simp) ?_ ?_, ?_⟩
    · rintro c' p ⟨⟩
      exact hrest
    · rintro c' p ⟨⟩ hq
      exact absurd hq (upholds.onward c _ l r q hleads)
    · exact upholds.keeps past ⟨_, _, _, _⟩ phase t c l rest r q inv rfl rfl runs ok hmay hleads
  | @returned t c v runs =>
    have hends : Ends c (phase t) v := h.inside t c _ runs
    refine ⟨Function.update phase t home, h.moved (fun _ => rfl) (by simp) (by simp), ?_⟩
    exact upholds.leaves past ⟨_, _, _, _⟩ phase t c v inv rfl rfl hends

/-- After every run the pool conforms, and the invariant holds. -/
theorem Run.conforms {tr : List (Moved T S R V)} (h : Run (poolStep code next) s tr s')
    (upholds : Upholds rules Ends home code next Inv) (start : s.Conforms rules Ends home code phase)
    (inv : Inv [] s.shared phase) :
    ∃ phase', s'.Conforms rules Ends home code phase' ∧ Inv tr s'.shared phase' := by
  induction tr using List.reverseRecOn generalizing s' with
  | nil =>
    cases h
    exact ⟨phase, start, inv⟩
  | append_singleton past x ih =>
    obtain ⟨hpast, hx, hlast⟩ := h.split_at
    cases hlast
    obtain ⟨middle, hconforms, hinv⟩ := ih hpast
    exact hconforms.step upholds hinv (poolStep_cases hx)

end Conforms

section Calls

variable {s₀ : Pool T S R V} {t : T} {c : C} {p : Program L R (V c)} {tr : List (Moved T S R V)}

/-- The call which a thread makes in a step, with its reply. -/
def Moved.access (t : T) (x : Moved T S R V) : Option (Σ l, R l) :=
  match x.label, x.reply with
  | .advance u, .made l r => if u = t then some ⟨l, r⟩ else none
  | _, _ => none

/-- Only the advance of a thread makes an access of it. -/
theorem Moved.access_eq_some {x : Moved T S R V} {l : L} {r : R l} (h : x.access t = some ⟨l, r⟩) :
    x.label = .advance t ∧ x.reply = .made l r := by
  obtain ⟨before, m, a, after⟩ := x
  cases m with
  | enter u d => simp [Moved.access] at h
  | advance u =>
    cases a with
    | entered => simp [Moved.access] at h
    | returned d v => simp [Moved.access] at h
    | made l' r' =>
      simp only [Moved.access] at h
      split at h
      · rename_i hut
        subst hut
        simpa using h
      · cases h

/-- A step which is none of the thread's own leaves its path as it is. -/
theorem Program.Path.skip {own : List (Moved T S R V)} {x : Moved T S R V}
    (path : (code c).Path (own.filterMap (Moved.access t)) p) (other : x.access t = none) :
    (code c).Path ((own ++ [x]).filterMap (Moved.access t)) p := by
  simpa [other] using path

/-- A thread inside a call has entered it, and has made some of its steps since then. -/
theorem Run.path (h : Run (poolStep code next) s₀ tr s) (idle : s₀.running t = none)
    (runs : s.running t = some ⟨c, p⟩) :
    ∃ (past : List (Moved T S R V)) (x : Moved T S R V) (own : List (Moved T S R V)),
      tr = past ++ x :: own ∧ x.label = .enter t c ∧ (∀ y ∈ own, ∀ d, y.label ≠ .enter t d) ∧
      (code c).Path (own.filterMap (Moved.access t)) p := by
  induction tr using List.reverseRecOn generalizing s c p with
  | nil =>
    cases h
    rw [idle] at runs
    cases runs
  | append_singleton past x ih =>
    obtain ⟨hpast, hx, hlast⟩ := h.split_at
    cases hlast
    have later : ∀ p', x.before.running t = some ⟨c, p'⟩ → (∀ d, x.label ≠ .enter t d) →
        (∀ own : List (Moved T S R V), (code c).Path (own.filterMap (Moved.access t)) p' →
          (code c).Path ((own ++ [x]).filterMap (Moved.access t)) p) →
        ∃ (first : List (Moved T S R V)) (y : Moved T S R V) (own : List (Moved T S R V)),
          past ++ [x] = first ++ y :: own ∧ y.label = .enter t c ∧ (∀ z ∈ own, ∀ d, z.label ≠ .enter t d) ∧
            (code c).Path (own.filterMap (Moved.access t)) p := by
      intro p' hp' hlabel hpath
      obtain ⟨first, y, own, rfl, hy, hown, path⟩ := ih hpast hp'
      refine ⟨first, y, own ++ [x], by simp, hy, fun z hz => ?_, hpath own path⟩
      rcases List.mem_append.mp hz with hz | hz
      · exact hown z hz
      · obtain rfl := List.mem_singleton.mp hz
        exact hlabel
    obtain ⟨before, m, a, after⟩ := x
    dsimp only at runs hx later
    cases poolStep_cases hx with
    | @entered u d idle' =>
      by_cases hut : t = u
      · subst hut
        rw [before.moved_running] at runs
        cases runs
        exact ⟨past, _, [], rfl, rfl, by simp, .nil _⟩
      · rw [before.moved_running_of_ne _ _ _ hut] at runs
        refine later p runs (by simp [Ne.symm hut]) fun own path => path.skip ?_
        simp [Moved.access]
    | @made u d l rest r shared runs' ok =>
      by_cases hut : t = u
      · subst hut
        rw [before.moved_running] at runs
        cases runs
        refine later _ runs' (by simp) fun own path => ?_
        simpa [Moved.access] using path.snoc r
      · rw [before.moved_running_of_ne _ _ _ hut] at runs
        refine later p runs (by simp) fun own path => path.skip ?_
        simp [Moved.access, Ne.symm hut]
    | @returned u d v runs' =>
      by_cases hut : t = u
      · subst hut
        rw [before.moved_running] at runs
        cases runs
      · rw [before.moved_running_of_ne _ _ _ hut] at runs
        refine later p runs (by simp) fun own path => path.skip ?_
        simp [Moved.access]

end Calls

end Library
