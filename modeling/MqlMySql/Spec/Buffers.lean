import MqlMySql.Model.Buffers
import MqlMySql.Spec.CursorReads
import MqlMySql.Spec.TextCodes

/-!
# The arrays are large enough

Whatever an array holds beforehand, the functions which convert into it do what they do without it: nothing is
written past its end, and what they read from it is the converted text up to its terminator.
-/

namespace MqlMySql

open Library

variable {σ α β : Type} {n : ℕ}

/-- A text which fits is stored without a fault. -/
theorem storeInto_eq {text : List α} {dst dst' : Buffer α n} (h : dst.write text = some dst') :
    (storeInto text dst : Act σ (Buffer α n)) = pure dst' := by
  simp only [storeInto, h]

/-- A terminated text is read without a fault. -/
theorem readString_eq [DecidableEq α] [Zero α] {text : List α} {src : Buffer α n}
    (h : src.read = some text) : (readString src : Act σ (List α)) = pure text := by
  simp only [readString, h]

/-- Converting a terminated text which fits, and reading the array, gives the text. -/
theorem convertInto_bind_readString [DecidableEq α] [Zero α] {text : List α} (h : 0 ∈ text)
    (fits : text.length ≤ n) (dst : Buffer α n) (f : List α → Act σ β) :
    (convertInto text text.length dst >>= fun dst => readString dst >>= f) = f (text.takeWhile (· ≠ 0)) := by
  obtain ⟨dst', hwrite, hread⟩ := dst.read_write h fits
  rw [convertInto, List.take_length, storeInto_eq hwrite, pure_bind, readString_eq hread, pure_bind]

/-- A null pointer converts to nothing, and an array which holds the empty text keeps it. -/
theorem convertInto_bind_readString_wide (cell : Option (List UInt8)) {dst : Buffer WChar maxFieldValue}
    (hdst : dst.read = some []) (fits : (multiByteToWideChar cell).length ≤ maxFieldValue)
    (f : WStr → Act σ β) :
    (convertInto (multiByteToWideChar cell) (multiByteToWideChar cell).length dst >>= fun dst =>
      readString dst >>= f) = f (wideString (multiByteToWideChar cell)) := by
  cases cell with
  | none =>
    have hnothing : dst.write [] = some dst := by simp [Buffer.write]
    rw [convertInto, multiByteToWideChar, List.take_nil, storeInto_eq hnothing, pure_bind,
      readString_eq hdst, pure_bind]
    rfl
  | some bytes =>
    have hzero : 0 ∈ multiByteToWideChar (some bytes) := by simp [multiByteToWideChar]
    rw [convertInto_bind_readString hzero fits]
    rfl

variable (host : Host σ)

/-- `MySqlExecute` never leaves its array. -/
theorem mySqlExecuteIn_eq (query : Buffer UInt8 maxQuerySize) (p : ℤ) (q : WStr) :
    mySqlExecuteIn host query p q = mySqlExecute host p q := by
  have hzero : 0 ∈ wideCharToMultiByte q := by simp [wideCharToMultiByte]
  simp only [mySqlExecuteIn, mySqlExecute]
  apply bind_congr
  intro _
  by_cases hp : p = -1
  · rw [if_pos hp, if_pos hp]
  · rw [if_neg hp, if_neg hp]
    by_cases hfits : (wideCharToMultiByte q).length < maxQuerySize
    · rw [if_pos hfits, if_pos hfits, convertInto_bind_readString hzero hfits.le]
      rfl
    · rw [if_neg hfits, if_neg hfits]

/-- `cMySqlGetRowField` never leaves the array of its cursor. -/
theorem cMySqlGetRowFieldIn_eq (value : Buffer WChar maxFieldValue) (p : ℤ) (f : ℕ) :
    cMySqlGetRowFieldIn host value p f = cMySqlGetRowField host p f := by
  obtain ⟨cleared, hwrite, hread⟩ := value.read_write (List.mem_singleton_self 0) (by decide)
  have hempty : cleared.read = some [] := hread
  simp only [cMySqlGetRowFieldIn, cMySqlGetRowField, storeInto_eq hwrite, readString_eq hempty, pure_bind]
  apply bind_congr
  intro opened
  cases opened with
  | none => rfl
  | some k =>
    dsimp only
    apply bind_congr
    intro _
    apply bind_congr
    intro recordSet
    apply bind_congr
    intro columns
    by_cases inside : f < columns
    · rw [if_pos inside, if_pos inside]
      apply bind_congr
      intro _
      apply bind_congr
      intro current
      cases current with
      | none => rfl
      | some row =>
        dsimp only
        apply bind_congr
        intro cell
        by_cases fits : (multiByteToWideChar cell).length ≤ maxFieldValue
        · rw [if_pos fits, if_pos fits, convertInto_bind_readString_wide cell hempty fits]
        · rw [if_neg fits, if_neg fits]
    · rw [if_neg inside, if_neg inside]

end MqlMySql
