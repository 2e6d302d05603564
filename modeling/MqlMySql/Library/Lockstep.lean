import MqlMySql.Library.Run
import Mathlib.Data.List.Forall2

/-!
# Two runs in lockstep

Two recorded runs are compared on the steps which are visible; the others may differ in number and
kind. When hidden steps of either run keep a relation between the two states, and a pair of visible
steps keeps it and agrees, then all visible steps agree pairwise.
-/

namespace Library

universe u v w x

variable {S S' : Type u} {L L' : Type v} {R : L → Type w} {R' : L' → Type w} {ε ε' : Type x}
  {next : (l : L) → S → Except ε (R l × S)} {next' : (l : L') → S' → Except ε' (R' l × S')}

/-- A run reaches its first visible step through hidden steps. -/
theorem Run.first_visible {visible : Recorded S L R → Bool} {s t : S} {tr : List (Recorded S L R)}
    {x : Recorded S L R} {rest : List (Recorded S L R)} (h : Run next s tr t)
    (hvisible : tr.filter visible = x :: rest) :
    ∃ early late, tr = early ++ x :: late ∧ (∀ y ∈ early, visible y = false) ∧
      visible x = true ∧ late.filter visible = rest := by
  induction h with
  | nil => simp at hvisible
  | @cons s s₁ s₂ l r tail head _ ih =>
    by_cases hx : visible ⟨s, l, r, s₁⟩ = true
    · rw [List.filter_cons_of_pos hx, List.cons.injEq] at hvisible
      obtain ⟨rfl, hrest⟩ := hvisible
      exact ⟨[], tail, rfl, by simp, hx, hrest⟩
    · rw [List.filter_cons_of_neg hx] at hvisible
      obtain ⟨early, late, rfl, hearly, hvis, hrest⟩ := ih hvisible
      refine ⟨⟨s, l, r, s₁⟩ :: early, late, rfl, ?_, hvis, hrest⟩
      intro y hy
      rcases List.mem_cons.mp hy with rfl | hy
      · exact Bool.eq_false_iff.mpr hx
      · exact hearly y hy

variable {visible : Recorded S L R → Bool} {visible' : Recorded S' L' R' → Bool}

/-- Two runs whose hidden steps keep a relation, and whose paired visible steps keep it and agree,
agree on all visible steps. -/
theorem Run.lockstep (Inv : S → S' → Prop)
    {Pair Post : Recorded S L R → Recorded S' L' R' → Prop}
    {s t : S} {tr : List (Recorded S L R)} {s' t' : S'} {tr' : List (Recorded S' L' R')}
    (h : Run next s tr t) (h' : Run next' s' tr' t')
    (left : ∀ x ∈ tr, visible x = false → next x.label x.before = .ok (x.reply, x.after) →
      ∀ u, Inv x.before u → Inv x.after u)
    (right : ∀ y ∈ tr', visible' y = false → next' y.label y.before = .ok (y.reply, y.after) →
      ∀ u, Inv u y.before → Inv u y.after)
    (both : ∀ x ∈ tr, ∀ y ∈ tr', visible x = true → visible' y = true → Pair x y →
      next x.label x.before = .ok (x.reply, x.after) →
        next' y.label y.before = .ok (y.reply, y.after) → Inv x.before y.before →
          Inv x.after y.after ∧ Post x y)
    (start : Inv s s') (paired : List.Forall₂ Pair (tr.filter visible) (tr'.filter visible')) :
    List.Forall₂ Post (tr.filter visible) (tr'.filter visible') := by
  induction h generalizing s' tr' with
  | nil =>
    rw [List.filter_nil] at paired
    rw [List.forall₂_nil_left_iff.mp paired]
    exact List.Forall₂.nil
  | @cons s s₁ s₂ l r tail head rest ih =>
    by_cases hx : visible ⟨s, l, r, s₁⟩ = true
    · rw [List.filter_cons_of_pos hx] at paired ⊢
      obtain ⟨y, ys, hpair, hpairs, hfilter⟩ := List.forall₂_cons_left_iff.mp paired
      obtain ⟨early, late, rfl, hearly, hy, hlate⟩ := h'.first_visible hfilter
      obtain ⟨hskip, hstep, hremaining⟩ := h'.split_at
      have hbefore : Inv s y.before := by
        apply hskip.keeps (Inv s) _ start
        intro z hz
        exact fun hok => right z (by simp [hz]) (hearly z hz) hok s
      obtain ⟨hafter, hpost⟩ := both _ List.mem_cons_self y (by simp) hx hy hpair head hstep hbefore
      rw [hfilter]
      apply List.Forall₂.cons hpost
      rw [← hlate]
      apply ih hremaining _ _ _ hafter (by rwa [hlate])
      · intro x hmem
        exact left x (List.mem_cons_of_mem _ hmem)
      · intro z hz
        exact right z (by simp [hz])
      · intro x hmem z hz
        exact both x (List.mem_cons_of_mem _ hmem) z (by simp [hz])
    · rw [List.filter_cons_of_neg hx] at paired ⊢
      apply ih h' _ right _ (left _ List.mem_cons_self (Bool.eq_false_iff.mpr hx) head _ start) paired
      · intro x hmem
        exact left x (List.mem_cons_of_mem _ hmem)
      · intro x hmem
        exact both x (List.mem_cons_of_mem _ hmem)

end Library
