import MqlMySql.Library.Pool

/-!
# Interleaved runs which are runs of whole calls

A thread is in the middle of a call when it has made some of its steps and not all. When no thread makes a step while
another is in the middle of a call, the run is one of whole calls, each of them made at once, in the order in which
the threads made their last steps. Nothing is said here about how this is achieved: by a mutex, or because only one
thread is there.
-/

namespace Library

universe u v

variable {T : Type v} {C L S ε : Type u} {R : L → Type u} {V : C → Type u} [DecidableEq T]

section Definitions

variable (code : (c : C) → Program L R (V c)) (next : T → (l : L) → S → Except ε (R l × S))

/-- A whole call of a thread as one step. -/
def wholeCall (x : T × C) (s : S) : Except ε (V x.2 × S) := (code x.2).run (next x.1) s

/-- The thread has made some of the steps of its call, and not all. -/
def Pool.InMiddle (s : Pool T S R V) (t : T) : Prop :=
  ∃ c p, s.running t = some ⟨c, p⟩ ∧ p ≠ code c ∧ ∀ v, p ≠ .done v

/-- The thread which makes a step. -/
def Move.thread : Move T C → T
  | .enter t _ => t
  | .advance t => t

/-- The call which has made its last step here, with what it will return. -/
def Moved.completes (x : Moved T S R V) : Option (Σ y : T × C, V y.2) :=
  match x.after.running x.label.thread with
  | some ⟨c, .done v⟩ => some ⟨(x.label.thread, c), v⟩
  | _ => none

end Definitions

variable {code : (c : C) → Program L R (V c)} {next : T → (l : L) → S → Except ε (R l × S)}

/-- What is shared is what whole calls have left, up to the part of the one call in whose middle a thread is. -/
structure Pool.Amounts (code : (c : C) → Program L R (V c)) (next : T → (l : L) → S → Except ε (R l × S))
    (s : Pool T S R V) (base : S) : Prop where
  reached : ∀ t c p, s.running t = some ⟨c, p⟩ → p = code c ∨ Relation.TransGen Program.Next p (code c)
  between : (∀ t, ¬ s.InMiddle code t) → s.shared = base
  within : ∀ t c p, s.running t = some ⟨c, p⟩ → s.InMiddle code t →
    p.run (next t) s.shared = (code c).run (next t) base ∧ ∀ u, u ≠ t → ¬ s.InMiddle code u

section Step

variable {s s' : Pool T S R V} {base : S} {t : T} {c : C}

/-- A move of one thread puts no other into the middle of its program, and takes none out of it. -/
theorem Pool.moved_inMiddle_of_ne {shared : S} {rest : Option (Σ c, Program L R (V c))} {u : T} (hut : u ≠ t) :
    (s.moved shared t rest).InMiddle code u ↔ s.InMiddle code u := by
  simp only [Pool.InMiddle, s.moved_running_of_ne shared t rest hut]

/-- Only the thread which goes on can get into the middle of a call, or out of it. -/
theorem Pool.Amounts.outside (h : s.Amounts code next base) {rest : Option (Σ c, Program L R (V c))}
    (out : ¬ s.InMiddle code t) (out' : ¬ (s.moved s.shared t rest).InMiddle code t)
    (reached : ∀ c p, rest = some ⟨c, p⟩ → p = code c ∨ Relation.TransGen Program.Next p (code c)) :
    (s.moved s.shared t rest).Amounts code next base := by
  have same : ∀ u, (s.moved s.shared t rest).InMiddle code u ↔ s.InMiddle code u := by
    intro u
    by_cases hut : u = t
    · subst hut
      exact iff_of_false out' out
    · exact Pool.moved_inMiddle_of_ne hut
  refine ⟨fun u c p hu => ?_, fun hall => h.between fun u => (same u).not.mp (hall u), fun u c p hu hmid => ?_⟩
  · by_cases hut : u = t
    · subst hut
      exact reached c p (by simpa using hu)
    · exact h.reached u c p (by rwa [s.moved_running_of_ne _ _ _ hut] at hu)
  · have hut : u ≠ t := by
      rintro rfl
      exact out' hmid
    obtain ⟨hrun, hothers⟩ := h.within u c p (by rwa [s.moved_running_of_ne _ _ _ hut] at hu) ((same u).mp hmid)
    exact ⟨hrun, fun x hx => (same x).not.mpr (hothers x hx)⟩

/-- A thread which makes a step while no other is in the middle of a call goes on from where whole calls have led. -/
theorem Pool.Amounts.run_eq (h : s.Amounts code next base) {p : Program L R (V c)}
    (runs : s.running t = some ⟨c, p⟩) (going : ∀ v, p ≠ .done v)
    (exclusive : ∀ u, u ≠ t → ¬ s.InMiddle code u) : p.run (next t) s.shared = (code c).run (next t) base := by
  by_cases hmid : s.InMiddle code t
  · exact (h.within t c p runs hmid).1
  · have hfresh : p = code c := by
      by_contra hne
      exact hmid ⟨c, p, runs, hne, going⟩
    have hshared : s.shared = base := by
      refine h.between fun u => ?_
      by_cases hut : u = t
      · rwa [hut]
      · exact exclusive u hut
    rw [hfresh, hshared]

/-- After a step, the thread is in the middle of its call or not, according to what remains. -/
theorem Pool.moved_inMiddle {shared : S} {p : Program L R (V c)} (after : Relation.TransGen Program.Next p (code c)) :
    (s.moved shared t (some ⟨c, p⟩)).InMiddle code t ↔ ∀ v, p ≠ .done v := by
  constructor
  · rintro ⟨c', p', hp, -, going⟩
    rw [s.moved_running] at hp
    cases hp
    exact going
  · intro going
    exact ⟨c, p, s.moved_running .., Program.ne_of_after after, going⟩

/-- A call before its first step. -/
theorem Pool.moved_fresh_not_inMiddle {shared : S} : ¬ (s.moved shared t (some ⟨c, code c⟩)).InMiddle code t := by
  rintro ⟨c', p', hp, hne, -⟩
  rw [s.moved_running] at hp
  cases hp
  exact hne rfl

omit [DecidableEq T] in
/-- A thread which is idle is not in the middle of a program. -/
theorem Pool.not_inMiddle_of_idle (idle : s.running t = none) : ¬ s.InMiddle code t := by
  rintro ⟨c, p, hp, -⟩
  rw [idle] at hp
  cases hp

omit [DecidableEq T] in
/-- A thread at the end of its program is not in the middle of it. -/
theorem Pool.not_inMiddle_of_done {v : V c} (runs : s.running t = some ⟨c, .done v⟩) : ¬ s.InMiddle code t := by
  rintro ⟨c', p', hp, -, going⟩
  rw [runs] at hp
  cases hp
  exact going v rfl

/-- A step of a thread, made while no other is in the middle of a call, is the last one of a call or not. -/
theorem Pool.Amounts.made (h : s.Amounts code next base) {l : L} {rest : R l → Program L R (V c)} {r : R l}
    {shared : S} (runs : s.running t = some ⟨c, .call l rest⟩) (ok : next t l s.shared = .ok (r, shared))
    (exclusive : ∀ u, u ≠ t → ¬ s.InMiddle code u) :
    (∃ v, rest r = .done v ∧ wholeCall code next (t, c) base = .ok (v, shared) ∧
      (s.moved shared t (some ⟨c, rest r⟩)).Amounts code next shared) ∨
    (∀ v, rest r ≠ .done v) ∧ (s.moved shared t (some ⟨c, rest r⟩)).Amounts code next base := by
  have hrun := h.run_eq runs (by simp) exclusive
  rw [Program.run, ok, ok_bind] at hrun
  have hafter : Relation.TransGen Program.Next (rest r) (code c) := by
    rcases h.reached t c _ runs with hfresh | hafter
    · rw [← hfresh]
      exact .single (.intro rest r)
    · exact hafter.head (.intro rest r)
  have hreached : ∀ u c' p, (s.moved shared t (some ⟨c, rest r⟩)).running u = some ⟨c', p⟩ →
      p = code c' ∨ Relation.TransGen Program.Next p (code c') := by
    intro u c' p hu
    by_cases hut : u = t
    · subst hut
      rw [s.moved_running] at hu
      cases hu
      exact .inr hafter
    · exact h.reached u c' p (by rwa [s.moved_running_of_ne _ _ _ hut] at hu)
  have hothers : ∀ u, u ≠ t → ¬ (s.moved shared t (some ⟨c, rest r⟩)).InMiddle code u := by
    intro u hut
    rw [Pool.moved_inMiddle_of_ne hut]
    exact exclusive u hut
  by_cases hdone : ∃ v, rest r = .done v
  · obtain ⟨v, hv⟩ := hdone
    have hnone : ∀ u, ¬ (s.moved shared t (some ⟨c, rest r⟩)).InMiddle code u := by
      intro u
      by_cases hut : u = t
      · subst hut
        rw [Pool.moved_inMiddle hafter]
        exact fun going => going v hv
      · exact hothers u hut
    rw [hv, Program.run_done] at hrun
    exact .inl ⟨v, hv, hrun.symm, hreached, fun _ => rfl, fun u c' p _ hmid => absurd hmid (hnone u)⟩
  · have hgoing : ∀ v, rest r ≠ .done v := fun v hv => hdone ⟨v, hv⟩
    refine .inr ⟨hgoing, hreached, fun hall => ?_, fun u c' p hu hmid => ?_⟩
    · exact absurd ((Pool.moved_inMiddle hafter).mpr hgoing) (hall t)
    · have hut : u = t := by
        by_contra hne
        exact hothers u hne hmid
      subst hut
      rw [s.moved_running] at hu
      cases hu
      exact ⟨hrun, hothers⟩

/-- A step is the last one of a call, which is then made as a whole, or it is not. -/
theorem Pool.Amounts.step {m : Move T C} {a : Happening R V} (h : s.Amounts code next base)
    (hs : PoolStep code next s m a s')
    (exclusive : ∀ t l r, m = .advance t → a = .made l r → ∀ u, u ≠ t → ¬ s.InMiddle code u) :
    (Moved.completes ⟨s, m, a, s'⟩ = none ∧ s'.Amounts code next base) ∨
    ∃ y v base', wholeCall code next y base = .ok (v, base') ∧
      Moved.completes ⟨s, m, a, s'⟩ = some ⟨y, v⟩ ∧ s'.Amounts code next base' := by
  cases hs with
  | @entered t c idle =>
    have hamounts : (s.moved s.shared t (some ⟨c, code c⟩)).Amounts code next base := by
      refine h.outside (Pool.not_inMiddle_of_idle idle) Pool.moved_fresh_not_inMiddle ?_
      rintro c' p ⟨⟩
      exact .inl rfl
    cases hc : code c with
    | done v =>
      rw [hc] at hamounts
      exact .inr ⟨(t, c), v, base, by simp [wholeCall, hc], by simp [Moved.completes, Move.thread], hamounts⟩
    | call l rest =>
      rw [hc] at hamounts
      exact .inl ⟨by simp [Moved.completes, Move.thread], hamounts⟩
  | @made t c l rest r shared runs ok =>
    rcases h.made runs ok (exclusive t l r rfl rfl) with ⟨v, hv, hwhole, hamounts⟩ | ⟨hgoing, hamounts⟩
    · exact .inr ⟨(t, c), v, shared, hwhole, by simp [Moved.completes, Move.thread, hv], hamounts⟩
    · refine .inl ⟨?_, hamounts⟩
      cases hrest : rest r with
      | done v => exact absurd hrest (hgoing v)
      | call l' rest' => simp [Moved.completes, Move.thread]
  | @returned t c v runs =>
    refine .inl ⟨by simp [Moved.completes, Move.thread], h.outside (Pool.not_inMiddle_of_done runs) ?_ (by simp)⟩
    exact Pool.not_inMiddle_of_idle (s.moved_running ..)

/-- The calls which have made their last step form a run of whole calls. -/
theorem Run.amounts {start : Pool T S R V} {tr : List (Moved T S R V)}
    (h : Run (poolStep code next) start tr s) (idle : ∀ t, start.running t = none)
    (exclusive : ∀ x ∈ tr, ∀ t l r, x.label = .advance t → x.reply = .made l r →
      ∀ u, u ≠ t → ¬ x.before.InMiddle code u) :
    ∃ calls base, Run (wholeCall code next) start.shared calls base ∧
      calls.map (fun y => (⟨y.label, y.reply⟩ : Σ y : T × C, V y.2)) = tr.filterMap Moved.completes ∧
      s.Amounts code next base := by
  induction tr using List.reverseRecOn generalizing s with
  | nil =>
    cases h
    refine ⟨[], _, Run.nil _, rfl, ?_, fun _ => rfl, ?_⟩
    · intro t c p ht
      rw [idle t] at ht
      cases ht
    · intro t c p ht
      rw [idle t] at ht
      cases ht
  | append_singleton past x ih =>
    obtain ⟨hpast, hx, hlast⟩ := h.split_at
    cases hlast
    obtain ⟨calls, base, hcalls, hmap, hbase⟩ := ih hpast fun y hy => exclusive y (by simp [hy])
    rcases hbase.step (poolStep_cases hx) (exclusive x (by simp)) with
      ⟨hnone, hafter⟩ | ⟨y, v, base', hwhole, hsome, hafter⟩
    · exact ⟨calls, base, hcalls, by simpa [hnone] using hmap, hafter⟩
    · refine ⟨calls ++ [⟨base, y, v, base'⟩], base', hcalls.append (.cons hwhole (.nil _)), ?_, hafter⟩
      simp [hmap, hsome]

/-- When calls are entered only while no thread is inside one, there is one thread inside at most. -/
theorem Run.one_inside {start : Pool T S R V} {tr : List (Moved T S R V)} (h : Run (poolStep code next) start tr s)
    (idle : ∀ t, start.running t = none)
    (serial : ∀ x ∈ tr, ∀ t c, x.label = .enter t c → ∀ u, x.before.running u = none) :
    ∀ t u, s.running t ≠ none → s.running u ≠ none → t = u := by
  refine h.keeps (fun s => ∀ t u, s.running t ≠ none → s.running u ≠ none → t = u) (fun y hy hstep inv => ?_)
    fun t _ ht _ => absurd (idle t) ht
  have hserial := serial y hy
  obtain ⟨before, m, a, after⟩ := y
  dsimp only at hstep inv hserial ⊢
  cases poolStep_cases hstep with
  | @entered v c _ =>
    have honly : ∀ t, (before.moved before.shared v (some ⟨c, code c⟩)).running t ≠ none → t = v := by
      intro t ht
      by_contra htv
      rw [before.moved_running_of_ne _ _ _ htv] at ht
      exact ht (hserial v c rfl t)
    intro t u ht hu
    rw [honly t ht, honly u hu]
  | @made v c l rest r shared runs _ =>
    have hstill : ∀ t, (before.moved shared v (some ⟨c, rest r⟩)).running t ≠ none → before.running t ≠ none := by
      intro t ht
      by_cases htv : t = v
      · simp [htv, runs]
      · rwa [before.moved_running_of_ne _ _ _ htv] at ht
    exact fun t u ht hu => inv t u (hstill t ht) (hstill u hu)
  | @returned v c r runs =>
    have hstill : ∀ t, (before.moved before.shared v none).running t ≠ none → before.running t ≠ none := by
      intro t ht
      by_cases htv : t = v
      · simp [htv, runs]
      · rwa [before.moved_running_of_ne _ _ _ htv] at ht
    exact fun t u ht hu => inv t u (hstill t ht) (hstill u hu)

/-- So no thread makes a step while another is in the middle of a call. -/
theorem Run.exclusive_of_serial {start : Pool T S R V} {tr : List (Moved T S R V)}
    (h : Run (poolStep code next) start tr s) (idle : ∀ t, start.running t = none)
    (serial : ∀ x ∈ tr, ∀ t c, x.label = .enter t c → ∀ u, x.before.running u = none) :
    ∀ x ∈ tr, ∀ t l r, x.label = .advance t → x.reply = .made l r → ∀ u, u ≠ t → ¬ x.before.InMiddle code u := by
  intro x hx t l r hlabel hreply u hut hmid
  obtain ⟨past, future, rfl⟩ := List.append_of_mem hx
  obtain ⟨hpast, hstep, -⟩ := h.split_at
  have hone := hpast.one_inside idle fun y hy => serial y (by simp [hy])
  obtain ⟨c, p, hp, -⟩ := hmid
  refine hut (hone u t (by simp [hp]) fun hnone => ?_)
  obtain ⟨before, m, a, after⟩ := x
  dsimp only at hstep hlabel hreply hnone
  subst hlabel hreply
  simp [poolStep, hnone] at hstep

end Step

end Library
