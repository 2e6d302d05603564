import MqlMySql.Library.Program

/-!
# Programs which make paired calls

Two programs go along with each other when they make paired calls, one after the other, and end with related
results. What is paired may depend on an index which the calls move: a pair of calls comes with the relation
between the index, the two replies and the next index.
-/

namespace Library

universe u

variable {L : Type u} {R : L → Type u} {I α β γ δ : Type u}

/-- Two programs which make paired calls and end with related results. -/
inductive Alongside (Paired : I → (l l' : L) → (R l → R l' → I → Prop) → Prop) (Ends : I → α → β → Prop) :
    I → Program L R α → Program L R β → Prop
  | done {s : I} {a : α} {b : β} (ends : Ends s a b) : Alongside Paired Ends s (.done a) (.done b)
  | call {s : I} {l l' : L} {rest : R l → Program L R α} {rest' : R l' → Program L R β}
      {Post : R l → R l' → I → Prop} (paired : Paired s l l' Post)
      (next : ∀ r r' s', Post r r' s' → Alongside Paired Ends s' (rest r) (rest' r')) :
      Alongside Paired Ends s (.call l rest) (.call l' rest')

variable {Paired : I → (l l' : L) → (R l → R l' → I → Prop) → Prop} {Ends : I → α → β → Prop}
  {Ends' : I → γ → δ → Prop} {s : I}

/-- Two sequences go along with each other when their first parts do, and what follows does after related
results. -/
theorem Alongside.bind {p : Program L R α} {p' : Program L R β} {f : α → Program L R γ}
    {f' : β → Program L R δ} (h : Alongside Paired Ends s p p')
    (next : ∀ s' a b, Ends s' a b → Alongside Paired Ends' s' (f a) (f' b)) :
    Alongside Paired Ends' s (p >>= f) (p' >>= f') := by
  induction h with
  | done ends => exact next _ _ _ ends
  | call paired _ ih => exact Alongside.call paired ih

end Library
