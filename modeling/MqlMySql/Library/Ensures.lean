import MqlMySql.Library.Pool
import Mathlib.Logic.Relation

/-!
# What a program ensures while others go on

A program makes its calls one by one, and before each of them others may change the state, within limits which may
depend on the calls the program has made so far. `Ensures` says what holds at its end whatever the others do, with the
faults in which it may stop before. In a pool this is what a thread ensures in every run in which the other threads
keep to the limits.
-/

namespace Library

universe u v

variable {L S ε : Type u} {R : L → Type u} {α β : Type u}

/-- The calls which a program has made, each with the state before and after. -/
abbrev Own (S L : Type u) (R : L → Type u) := List (Recorded S L R)

/-- Whatever the others do within their limits, the program comes to its end with `Post`, or stops in a fault which is
allowed. -/
def Program.Ensures (other : Own S L R → S → S → Prop) (next : (l : L) → S → Except ε (R l × S)) (Allowed : ε → Prop)
    (Post : α → Own S L R → S → Prop) : Program L R α → Own S L R → S → Prop
  | .done a, own, s => Post a own s
  | .call l rest, own, s => ∀ s₁, Relation.ReflTransGen (other own) s s₁ →
      (∀ e, next l s₁ = .error e → Allowed e) ∧
        ∀ r s₂, next l s₁ = .ok (r, s₂) → (rest r).Ensures other next Allowed Post (own ++ [⟨s₁, l, r, s₂⟩]) s₂

variable {other : Own S L R → S → S → Prop} {next : (l : L) → S → Except ε (R l × S)} {Allowed Allowed' : ε → Prop}
  {Post : α → Own S L R → S → Prop} {Mid : β → Own S L R → S → Prop} {own : Own S L R} {s : S}

namespace Program.Ensures

/-- A call: what holds before it is left alone by the others. -/
theorem call {l : L} {rest : R l → Program L R α} (A : S → Prop) (holds : A s)
    (stable : ∀ s s', other own s s' → A s → A s') (faults : ∀ s₁ e, A s₁ → next l s₁ = .error e → Allowed e)
    (goes : ∀ s₁ r s₂, A s₁ → next l s₁ = .ok (r, s₂) →
      (rest r).Ensures other next Allowed Post (own ++ [⟨s₁, l, r, s₂⟩]) s₂) :
    (Program.call l rest).Ensures other next Allowed Post own s := by
  intro s₁ others
  have kept : A s₁ := by
    induction others with
    | refl => exact holds
    | tail _ hstep ih => exact stable _ _ hstep ih
  exact ⟨fun e => faults s₁ e kept, fun r s₂ => goes s₁ r s₂ kept⟩

/-- A sequence. -/
theorem bind {p : Program L R β} {f : β → Program L R α} (first : p.Ensures other next Allowed Mid own s)
    (rest : ∀ b own s, Mid b own s → (f b).Ensures other next Allowed Post own s) :
    (p >>= f).Ensures other next Allowed Post own s := by
  induction p generalizing own s with
  | done b => exact rest b own s first
  | call l next ih =>
    intro s₁ others
    obtain ⟨hfaults, hgoes⟩ := first s₁ others
    exact ⟨hfaults, fun r s₂ ok => ih r (hgoes r s₂ ok)⟩

/-- Less may be said of the end, and more faults may be allowed. -/
theorem mono {Post' : α → Own S L R → S → Prop} {p : Program L R α} (first : p.Ensures other next Allowed Post own s)
    (allowed : ∀ e, Allowed e → Allowed' e) (looser : ∀ a own s, Post a own s → Post' a own s) :
    p.Ensures other next Allowed' Post' own s := by
  induction p generalizing own s with
  | done a => exact looser a own s first
  | call l next ih =>
    intro s₁ others
    obtain ⟨hfaults, hgoes⟩ := first s₁ others
    exact ⟨fun e he => allowed e (hfaults e he), fun r s₂ ok => ih r (hgoes r s₂ ok)⟩

/-- Two things are ensured when each of them is. -/
theorem and {Post' : α → Own S L R → S → Prop} {p : Program L R α} (h : p.Ensures other next Allowed Post own s)
    (h' : p.Ensures other next Allowed' Post' own s) :
    p.Ensures other next Allowed (fun a own s => Post a own s ∧ Post' a own s) own s := by
  induction p generalizing own s with
  | done a => exact ⟨h, h'⟩
  | call l rest ih =>
    intro s₁ others
    obtain ⟨hfaults, hgoes⟩ := h s₁ others
    exact ⟨hfaults, fun r s₂ ok => ih r (hgoes r s₂ ok) ((h' s₁ others).2 r s₂ ok)⟩

/-- Every program ensures what is always so. -/
theorem of_forall {p : Program L R α} (h : ∀ a own s, Post a own s) :
    p.Ensures other next (fun _ => True) Post own s := by
  induction p generalizing own s with
  | done a => exact h a own s
  | call l rest ih => exact fun s₁ _ => ⟨fun _ _ => trivial, fun r s₂ _ => ih r⟩

end Program.Ensures

section Threads

variable {T : Type v} {C : Type u} {V : C → Type u} [DecidableEq T] {code : (c : C) → Program L R (V c)}
  {next : T → (l : L) → S → Except ε (R l × S)} {start last : Pool T S R V} {t : T} {c : C}
  {Post : V c → Own S L R → S → Prop}

/-- The call which a thread makes in a step, with what is shared before and after. -/
def Moved.ownCall (t : T) (x : Moved T S R V) : Option (Recorded S L R) :=
  match x.label, x.reply with
  | .advance u, .made l r => if u = t then some ⟨x.before.shared, l, r, x.after.shared⟩ else none
  | _, _ => none

/-- Only the advance of a thread makes a call of its own. -/
theorem Moved.ownCall_eq_some {x : Moved T S R V} {y : Recorded S L R} (h : x.ownCall t = some y) :
    x.label = .advance t ∧ x.reply = .made y.label y.reply := by
  obtain ⟨before, m, a, after⟩ := x
  cases m with
  | enter u d => simp [Moved.ownCall] at h
  | advance u =>
    cases a with
    | entered => simp [Moved.ownCall] at h
    | returned d v => simp [Moved.ownCall] at h
    | made l r =>
      simp only [Moved.ownCall] at h
      split at h
      · rename_i hut
        cases h
        exact ⟨congrArg _ hut, rfl⟩
      · cases h

/-- The calls which a thread makes in a run. -/
def ownCalls (t : T) (tr : List (Moved T S R V)) : Own S L R := tr.filterMap (Moved.ownCall t)

/-- The own calls after one more move. -/
theorem ownCalls_snoc (t : T) (tr : List (Moved T S R V)) (x : Moved T S R V) :
    ownCalls t (tr ++ [x]) = ownCalls t tr ++ (x.ownCall t).toList := by
  cases hx : x.ownCall t <;> simp [ownCalls, hx]

/-- In a run the other threads keep to the limits of a thread. -/
def WithinLimits (other : Own S L R → S → S → Prop) (t : T) (tr : List (Moved T S R V)) : Prop :=
  ∀ past x future u l r, tr = past ++ x :: future → u ≠ t → x.label = .advance u → x.reply = .made l r →
    other (ownCalls t past) x.before.shared x.after.shared

/-- A run within the limits was so before its last move. -/
theorem WithinLimits.of_snoc {tr : List (Moved T S R V)} {x : Moved T S R V}
    (h : WithinLimits other t (tr ++ [x])) : WithinLimits other t tr := by
  intro past y future u l r heq
  exact h past y (future ++ [x]) u l r (by simp [heq])

/-- A thread which has entered a program and not come to its end ensures the rest of it. -/
theorem Run.ensures {since : List (Moved T S R V)} (h : Run (poolStep code next) start since last)
    (enters : start.running t = some ⟨c, code c⟩)
    (ensures : (code c).Ensures other (next t) Allowed Post [] start.shared)
    (stays : ∀ x ∈ since, ∀ d, x.label ≠ .enter t d) (limits : WithinLimits other t since)
    (inside : last.running t ≠ none) :
    ∃ q s₁, last.running t = some ⟨c, q⟩ ∧ q.Ensures other (next t) Allowed Post (ownCalls t since) s₁ ∧
      Relation.ReflTransGen (other (ownCalls t since)) s₁ last.shared := by
  induction since using List.reverseRecOn generalizing last with
  | nil =>
    cases h
    exact ⟨code c, _, enters, ensures, .refl⟩
  | append_singleton past x ih =>
    obtain ⟨hpast, hx, hlast⟩ := h.split_at
    cases hlast
    have before (hbefore : x.before.running t ≠ none) := ih hpast
      (fun y hy => stays y (List.mem_append_left _ hy)) limits.of_snoc hbefore
    rw [ownCalls_snoc]
    have hlimits := limits past x [] 
    have hstays := stays x (by simp)
    obtain ⟨b, m, a, after⟩ := x
    dsimp only at hx before inside hlimits hstays ⊢
    cases poolStep_cases hx with
    | @entered u d idle =>
      have hut : t ≠ u := by
        rintro rfl
        exact hstays d rfl
      rw [b.moved_running_of_ne _ _ _ hut] at inside ⊢
      simpa [Moved.ownCall] using before inside
    | @made u d l rest r shared runs ok =>
      by_cases hut : t = u
      · subst hut
        obtain ⟨q, s₁, hq, hensures, hothers⟩ := before (by simp [runs])
        rw [runs] at hq
        cases hq
        refine ⟨rest r, shared, b.moved_running .., ?_, .refl⟩
        simpa [Moved.ownCall] using (hensures b.shared hothers).2 r shared ok
      · rw [b.moved_running_of_ne _ _ _ hut] at inside ⊢
        obtain ⟨q, s₁, hq, hensures, hothers⟩ := before inside
        refine ⟨q, s₁, hq, ?_⟩
        have hown : Moved.ownCall t (⟨b, .advance u, .made l r, b.moved shared u (some ⟨d, rest r⟩)⟩ : Moved T S R V) =
            none := by simp [Moved.ownCall, Ne.symm hut]
        rw [hown, Option.toList_none, List.append_nil]
        exact ⟨hensures, hothers.tail (hlimits u l r rfl (Ne.symm hut) rfl rfl)⟩
    | @returned u d v runs =>
      have hut : t ≠ u := by
        rintro rfl
        exact inside (b.moved_running ..)
      rw [b.moved_running_of_ne _ _ _ hut] at inside ⊢
      simpa [Moved.ownCall] using before inside

/-- So it does when it comes to the end. -/
theorem Run.returns {tr since : List (Moved T S R V)} {x y : Moved T S R V} {v : V c}
    (h : Run (poolStep code next) start (tr ++ x :: since ++ [y]) last) (enter : x.label = .enter t c)
    (ensures : (code c).Ensures other (next t) Allowed Post [] x.before.shared)
    (stays : ∀ z ∈ since, ∀ d, z.label ≠ .enter t d) (limits : WithinLimits other t since)
    (label : y.label = .advance t) (reply : y.reply = .returned c v) :
    ∃ s, Post v (ownCalls t since) s := by
  obtain ⟨hpast, hy, -⟩ := Run.split_at h
  obtain ⟨-, hx, hsince⟩ := hpast.split_at
  obtain ⟨b, m, a, after⟩ := x
  obtain ⟨b', m', a', after'⟩ := y
  dsimp only at *
  subst enter label reply
  cases poolStep_cases hx with
  | entered idle =>
    cases poolStep_cases hy with
    | returned runs =>
      obtain ⟨q, s, hq, hends, -⟩ := hsince.ensures (b.moved_running ..) ensures stays limits (by simp [runs])
      rw [runs] at hq
      cases hq
      exact ⟨s, hends⟩

end Threads

end Library
