import Mathlib.Data.List.TakeWhile
import Mathlib.Data.Nat.Notation

/-!
# Terminated text in arrays

An array of fixed size holds a text up to the first zero in it. Writing past the end of the array is not
possible, and neither is reading an array without a zero.
-/

namespace Library

/-- An array of `n` elements. -/
structure Buffer (α : Type) (n : ℕ) where
  cells : List α
  size : cells.length = n

namespace Buffer

variable {α : Type} {n : ℕ} (b : Buffer α n)

/-- Write from the start of the array. -/
def write (text : List α) : Option (Buffer α n) :=
  if h : text.length ≤ n then
    some ⟨text ++ b.cells.drop text.length, by simp [b.size, h]⟩
  else none

variable [DecidableEq α] [Zero α]

/-- Read the array up to its first zero. -/
def read : Option (List α) := if 0 ∈ b.cells then some (b.cells.takeWhile (· ≠ 0)) else none

omit b in
/-- What follows a zero is not read. -/
theorem takeWhile_append_of_mem {text : List α} (h : 0 ∈ text) (rest : List α) :
    (text ++ rest).takeWhile (· ≠ 0) = text.takeWhile (· ≠ 0) := by
  induction text with
  | nil => cases h
  | cons a text ih =>
    by_cases ha : a = 0
    · simp [ha]
    · have hmem : 0 ∈ text := by
        rcases List.mem_cons.mp h with h | h
        · exact absurd h.symm ha
        · exact h
      rw [List.cons_append, List.takeWhile_cons_of_pos (by simpa using ha),
        List.takeWhile_cons_of_pos (by simpa using ha), ih hmem]

/-- A text with a zero which fits the array is read back up to the zero. -/
theorem read_write {text : List α} (h : 0 ∈ text) (fits : text.length ≤ n) :
    ∃ c, b.write text = some c ∧ c.read = some (text.takeWhile (· ≠ 0)) := by
  have hmem : 0 ∈ text ++ b.cells.drop text.length := List.mem_append_left _ h
  refine ⟨⟨text ++ b.cells.drop text.length, by simp [b.size, fits]⟩, ?_, ?_⟩
  · rw [write, dif_pos fits]
  · rw [read, if_pos hmem, takeWhile_append_of_mem h]

omit b in
/-- A text without zeros is all that is read before its terminator. -/
theorem takeWhile_terminated {text : List α} (h : 0 ∉ text) : (text ++ [0]).takeWhile (· ≠ 0) = text := by
  induction text with
  | nil => simp
  | cons a text ih =>
    have ha : a ≠ 0 := fun ha => h (ha ▸ List.mem_cons_self)
    rw [List.cons_append, List.takeWhile_cons_of_pos (by simpa using ha),
      ih fun hz => h (List.mem_cons_of_mem a hz)]

end Buffer

end Library
