import MqlMySql.Library.Fallible

/-!
# Two systems which answer alike

Two step functions over the same labels are compared on what they reply, up to the first fault and with the
fault. When related states answer every allowed label alike, they answer all sequences of allowed labels alike.
-/

namespace Library

universe u v w

variable {L S T : Type u} {R : Type u} {ε : Type v}

/-- Both return the same reply and related states, or both fault for the same reason. -/
inductive Alike (Rel : S → T → Prop) : Except ε (R × S) → Except ε (R × T) → Prop
  | returned {r : R} {s : S} {t : T} (rel : Rel s t) : Alike Rel (.ok (r, s)) (.ok (r, t))
  | faulted (e : ε) : Alike Rel (.error e) (.error e)

/-- The replies to labels taken one after the other, up to the first fault. -/
def replies (next : L → S → Except ε (R × S)) : List L → S → List (Except ε R)
  | [], _ => []
  | l :: rest, s =>
    match next l s with
    | .error e => [.error e]
    | .ok (r, s') => .ok r :: replies next rest s'

/-- Every label is allowed in the state in which it is taken. -/
def Follows (next : L → S → Except ε (R × S)) (Allowed : S → L → Prop) : List L → S → Prop
  | [], _ => True
  | l :: rest, s => Allowed s l ∧
    match next l s with
    | .error _ => True
    | .ok (_, s') => Follows next Allowed rest s'

instance decidableFollows (next : L → S → Except ε (R × S)) (Allowed : S → L → Prop)
    [∀ s l, Decidable (Allowed s l)] :
    (labels : List L) → (s : S) → Decidable (Follows next Allowed labels s)
  | [], _ => isTrue trivial
  | l :: rest, s =>
    have : Decidable (match next l s with
        | .error _ => True
        | .ok (_, s') => Follows next Allowed rest s') :=
      match next l s with
      | .error _ => isTrue trivial
      | .ok (_, s') => decidableFollows next Allowed rest s'
    inferInstanceAs (Decidable (_ ∧ _))

variable {next : L → S → Except ε (R × S)} {next' : L → T → Except ε (R × T)}

/-- Related states which answer allowed labels alike give the same replies. -/
theorem replies_eq {Rel : S → T → Prop} {Allowed : S → L → Prop}
    (step : ∀ l s t, Rel s t → Allowed s l → Alike Rel (next l s) (next' l t)) {labels : List L} {s : S} {t : T}
    (rel : Rel s t) (follows : Follows next Allowed labels s) :
    replies next labels s = replies next' labels t := by
  induction labels generalizing s t with
  | nil => rfl
  | cons l rest ih =>
    obtain ⟨allowed, hrest⟩ := follows
    have halike := step l s t rel allowed
    rw [replies, replies]
    generalize next l s = x at halike hrest
    generalize next' l t = y at halike
    cases halike with
    | faulted e => rfl
    | returned rel' =>
      dsimp only at hrest ⊢
      rw [ih rel' hrest]

end Library
