import Mathlib.Data.List.TakeWhile
import MqlMySql.Model.Text

/-!
# The two encodings of a text

A text is a list of scalar values. Decoding its UTF-16 encoding gives it back, and so does decoding its UTF-8
encoding; a wide string is the encoding of a text when its surrogates come in pairs.
-/

namespace MqlMySql

/-- The UTF-16 encoding of a text. -/
def utf16 (text : List Char) : WStr := text.flatMap utf16EncodeChar

/-- The UTF-8 encoding of a text. -/
def utf8 (text : List Char) : List UInt8 := text.flatMap String.utf8EncodeChar

/-- A wide string whose surrogates come in pairs. -/
inductive WellFormedUtf16 : WStr → Prop
  | nil : WellFormedUtf16 []
  | unit {u : WChar} {rest : WStr} (high : isHighSurrogate u = false) (low : isLowSurrogate u = false)
      (wf : WellFormedUtf16 rest) : WellFormedUtf16 (u :: rest)
  | pair {u v : WChar} {rest : WStr} (high : isHighSurrogate u = true) (low : isLowSurrogate v = true)
      (wf : WellFormedUtf16 rest) : WellFormedUtf16 (u :: v :: rest)

/-- The range of the high surrogates. -/
@[simp] theorem isHighSurrogate_eq_true {u : WChar} :
    isHighSurrogate u = true ↔ 0xD800 ≤ u.toNat ∧ u.toNat < 0xDC00 := by
  simp [isHighSurrogate]

/-- The range of the low surrogates. -/
@[simp] theorem isLowSurrogate_eq_true {u : WChar} :
    isLowSurrogate u = true ↔ 0xDC00 ≤ u.toNat ∧ u.toNat < 0xE000 := by
  simp [isLowSurrogate]

/-- Outside the range of the high surrogates. -/
@[simp] theorem isHighSurrogate_eq_false {u : WChar} :
    isHighSurrogate u = false ↔ (0xD800 ≤ u.toNat → 0xDC00 ≤ u.toNat) := by
  simp [isHighSurrogate]

/-- Outside the range of the low surrogates. -/
@[simp] theorem isLowSurrogate_eq_false {u : WChar} :
    isLowSurrogate u = false ↔ (0xDC00 ≤ u.toNat → 0xE000 ≤ u.toNat) := by
  simp [isLowSurrogate]

/-- A unit which opens no pair is decoded alone. -/
theorem utf16Scalars_unit {u : WChar} (high : isHighSurrogate u = false) (rest : WStr) :
    utf16Scalars (u :: rest) = scalarOfUnit u :: utf16Scalars rest := by
  cases rest with
  | nil => rfl
  | cons v rest => rw [utf16Scalars, high, Bool.false_and, if_neg Bool.false_ne_true]

/-- A pair is decoded as one. -/
theorem utf16Scalars_pair {u v : WChar} (high : isHighSurrogate u = true) (low : isLowSurrogate v = true)
    (rest : WStr) : utf16Scalars (u :: v :: rest) = scalarOfPair u v :: utf16Scalars rest := by
  rw [utf16Scalars, high, low, Bool.and_true, if_pos rfl]

/-- A unit outside the surrogates is a scalar value. -/
theorem toNat_scalarOfUnit {u : WChar} (high : isHighSurrogate u = false)
    (low : isLowSurrogate u = false) : (scalarOfUnit u).toNat = u.toNat := by
  rw [scalarOfUnit, high, low, Bool.or_false, if_neg Bool.false_ne_true]
  have hvalid : u.toNat.isValidChar := by
    have hu := u.toNat_lt
    rw [isHighSurrogate_eq_false] at high
    rw [isLowSurrogate_eq_false] at low
    simp only [Nat.isValidChar]
    omega
  rw [Char.ofNat, dif_pos hvalid]
  rfl

/-- A pair is a scalar value above the basic plane. -/
theorem toNat_scalarOfPair {u v : WChar} (high : isHighSurrogate u = true)
    (low : isLowSurrogate v = true) :
    (scalarOfPair u v).toNat = 0x10000 + (u.toNat - 0xD800) * 0x400 + (v.toNat - 0xDC00) := by
  have hvalid : (0x10000 + (u.toNat - 0xD800) * 0x400 + (v.toNat - 0xDC00)).isValidChar := by
    rw [isHighSurrogate_eq_true] at high
    rw [isLowSurrogate_eq_true] at low
    simp only [Nat.isValidChar]
    omega
  rw [scalarOfPair, Char.ofNat, dif_pos hvalid]
  rfl

/-- Encoding what a single unit was decoded to gives the unit back. -/
theorem utf16EncodeChar_scalarOfUnit {u : WChar} (high : isHighSurrogate u = false)
    (low : isLowSurrogate u = false) : utf16EncodeChar (scalarOfUnit u) = [u] := by
  have hu := u.toNat_lt
  rw [utf16EncodeChar, toNat_scalarOfUnit high low, if_pos hu, UInt16.ofNat_toNat]

/-- Encoding what a surrogate pair was decoded to gives the pair back. -/
theorem utf16EncodeChar_scalarOfPair {u v : WChar} (high : isHighSurrogate u = true)
    (low : isLowSurrogate v = true) : utf16EncodeChar (scalarOfPair u v) = [u, v] := by
  have hc := toNat_scalarOfPair high low
  rw [isHighSurrogate_eq_true] at high
  rw [isLowSurrogate_eq_true] at low
  have hu : 0xD800 + ((scalarOfPair u v).toNat - 0x10000) / 0x400 = u.toNat := by omega
  have hv : 0xDC00 + ((scalarOfPair u v).toNat - 0x10000) % 0x400 = v.toNat := by omega
  rw [utf16EncodeChar, if_neg (by omega), hu, hv, UInt16.ofNat_toNat, UInt16.ofNat_toNat]

/-- A well-formed wide string encodes the text which it is decoded to. -/
theorem WellFormedUtf16.utf16_scalars {s : WStr} (wf : WellFormedUtf16 s) : utf16 (utf16Scalars s) = s := by
  induction wf with
  | nil => rfl
  | unit high low _ ih =>
    rw [utf16Scalars_unit high, utf16, List.flatMap_cons, utf16EncodeChar_scalarOfUnit high low, ← utf16, ih]
    rfl
  | pair high low _ ih =>
    rw [utf16Scalars_pair high low, utf16, List.flatMap_cons, utf16EncodeChar_scalarOfPair high low, ← utf16,
      ih]
    rfl

/-- Decoding starts with the character whose units come first. -/
theorem utf16Scalars_encode (c : Char) (rest : WStr) :
    utf16Scalars (utf16EncodeChar c ++ rest) = c :: utf16Scalars rest := by
  have hvalid : c.toNat < 0xD800 ∨ (0xDFFF < c.toNat ∧ c.toNat < 0x110000) := c.valid
  by_cases hc : c.toNat < 0x10000
  · have hu : (UInt16.ofNat c.toNat).toNat = c.toNat := UInt16.toNat_ofNat_of_lt hc
    have high : isHighSurrogate (UInt16.ofNat c.toNat) = false := by
      rw [isHighSurrogate_eq_false]
      omega
    have low : isLowSurrogate (UInt16.ofNat c.toNat) = false := by
      rw [isLowSurrogate_eq_false]
      omega
    have hchar : scalarOfUnit (UInt16.ofNat c.toNat) = c := by
      apply Char.toNat_inj.mp
      rw [toNat_scalarOfUnit high low, hu]
    rw [utf16EncodeChar, if_pos hc, List.singleton_append, utf16Scalars_unit high, hchar]
  · have hu : (UInt16.ofNat (0xD800 + (c.toNat - 0x10000) / 0x400)).toNat =
        0xD800 + (c.toNat - 0x10000) / 0x400 := UInt16.toNat_ofNat_of_lt (by change _ < 65536; omega)
    have hv : (UInt16.ofNat (0xDC00 + (c.toNat - 0x10000) % 0x400)).toNat =
        0xDC00 + (c.toNat - 0x10000) % 0x400 := UInt16.toNat_ofNat_of_lt (by change _ < 65536; omega)
    have high : isHighSurrogate (UInt16.ofNat (0xD800 + (c.toNat - 0x10000) / 0x400)) = true := by
      rw [isHighSurrogate_eq_true]
      omega
    have low : isLowSurrogate (UInt16.ofNat (0xDC00 + (c.toNat - 0x10000) % 0x400)) = true := by
      rw [isLowSurrogate_eq_true]
      omega
    have hscalar := toNat_scalarOfPair high low
    have hencode : utf16EncodeChar c ++ rest = UInt16.ofNat (0xD800 + (c.toNat - 0x10000) / 0x400) ::
        UInt16.ofNat (0xDC00 + (c.toNat - 0x10000) % 0x400) :: rest := by
      rw [utf16EncodeChar, if_neg hc]
      rfl
    have hchar : scalarOfPair (UInt16.ofNat (0xD800 + (c.toNat - 0x10000) / 0x400))
        (UInt16.ofNat (0xDC00 + (c.toNat - 0x10000) % 0x400)) = c := by
      apply Char.toNat_inj.mp
      omega
    rw [hencode, utf16Scalars_pair high low, hchar]

/-- Decoding the UTF-16 encoding of a text gives the text. -/
theorem utf16Scalars_utf16 (text : List Char) : utf16Scalars (utf16 text) = text := by
  induction text with
  | nil => rfl
  | cons c text ih => rw [utf16, List.flatMap_cons, utf16Scalars_encode, ← utf16, ih]

/-- The bytes left over of a character are passed over. -/
theorem utf8Scalars_skip (bytes rest : List UInt8) :
    utf8Scalars bytes.length (bytes ++ rest) = utf8Scalars 0 rest := by
  induction bytes with
  | nil => rfl
  | cons b bytes ih => exact ih

/-- Decoding starts with the character whose bytes come first. -/
theorem utf8Scalars_encode (c : Char) (rest : List UInt8) :
    utf8Scalars 0 (String.utf8EncodeChar c ++ rest) = c :: utf8Scalars 0 rest := by
  have hdecode : ByteArray.utf8DecodeChar? ⟨(String.utf8EncodeChar c ++ rest).toArray⟩ 0 = some c := by
    have hsplit : (⟨(String.utf8EncodeChar c ++ rest).toArray⟩ : ByteArray) =
        (String.utf8EncodeChar c).toByteArray ++ rest.toByteArray := by
      rw [← List.toByteArray_append]
      exact ByteArray.ext List.data_toByteArray.symm
    rw [hsplit, ByteArray.utf8DecodeChar?_utf8EncodeChar_append]
  have hlength : (String.utf8EncodeChar c).length = c.utf8Size := String.length_utf8EncodeChar c
  cases hbytes : String.utf8EncodeChar c with
  | nil =>
    rw [hbytes] at hlength
    exact absurd hlength.symm (Nat.ne_of_gt c.utf8Size_pos)
  | cons b bytes =>
    rw [hbytes, List.cons_append] at hdecode
    rw [hbytes, List.length_cons] at hlength
    have hrest : c.utf8Size - 1 = bytes.length := by omega
    rw [List.cons_append, utf8Scalars, hdecode]
    simp only [hrest, utf8Scalars_skip]

/-- Decoding the UTF-8 encoding of a text gives the text. -/
theorem utf8Scalars_utf8 (text : List Char) : utf8Scalars 0 (utf8 text) = text := by
  induction text with
  | nil => rfl
  | cons c text ih => rw [utf8, List.flatMap_cons, utf8Scalars_encode, ← utf8, ih]

/-- Only the character `NUL` has a zero unit in its encoding. -/
theorem zero_mem_utf16EncodeChar (c : Char) : 0 ∈ utf16EncodeChar c ↔ c.toNat = 0 := by
  have hvalid : c.toNat < 0xD800 ∨ (0xDFFF < c.toNat ∧ c.toNat < 0x110000) := c.valid
  have hzero (n : ℕ) (hn : n < 0x10000) : (0 : WChar) = UInt16.ofNat n ↔ n = 0 := by
    have hofNat : (UInt16.ofNat n).toNat = n := UInt16.toNat_ofNat_of_lt hn
    rw [← UInt16.toNat_inj, hofNat]
    exact eq_comm
  by_cases hc : c.toNat < 0x10000
  · rw [utf16EncodeChar, if_pos hc, List.mem_singleton, hzero _ hc]
  · rw [utf16EncodeChar, if_neg hc, List.mem_pair, hzero _ (by omega), hzero _ (by omega)]
    omega

/-- Only the character `NUL` has a zero byte in its encoding. -/
theorem zero_mem_utf8EncodeChar (c : Char) : 0 ∈ String.utf8EncodeChar c ↔ c.toNat = 0 := by
  have hvalid : c.toNat < 0xD800 ∨ (0xDFFF < c.toNat ∧ c.toNat < 0x110000) := c.valid
  have hzero (n : ℕ) (hn : n < 0x100) : (0 : UInt8) = UInt8.ofNat n ↔ n = 0 := by
    have hofNat : (UInt8.ofNat n).toNat = n := UInt8.toNat_ofNat_of_lt hn
    rw [← UInt8.toNat_inj, hofNat]
    exact eq_comm
  have hval : c.val.toNat = c.toNat := rfl
  rw [String.utf8EncodeChar, hval]
  by_cases h1 : c.toNat ≤ 0x7F
  · rw [if_pos h1, List.mem_singleton, hzero _ (by omega)]
  · rw [if_neg h1]
    by_cases h2 : c.toNat ≤ 0x7FF
    · rw [if_pos h2, List.mem_pair, hzero _ (by omega), hzero _ (by omega)]
      omega
    · rw [if_neg h2]
      by_cases h3 : c.toNat ≤ 0xFFFF
      · rw [if_pos h3, List.mem_cons, List.mem_pair, hzero _ (by omega), hzero _ (by omega),
          hzero _ (by omega)]
        omega
      · rw [if_neg h3, List.mem_cons, List.mem_cons, List.mem_pair, hzero _ (by omega), hzero _ (by omega),
          hzero _ (by omega), hzero _ (by omega)]
        omega

/-- Both encodings of a text are free of zeros or neither is. -/
theorem zero_mem_utf8_iff (text : List Char) : 0 ∈ utf8 text ↔ 0 ∈ utf16 text := by
  simp only [utf8, utf16, List.mem_flatMap, zero_mem_utf8EncodeChar, zero_mem_utf16EncodeChar]

/-- The conversion of the encoding of a text is its other encoding, with a terminator. -/
theorem wideCharToMultiByte_utf16 (text : List Char) :
    wideCharToMultiByte (utf16 text) = utf8 text ++ [0] := by
  rw [wideCharToMultiByte, utf16Scalars_utf16, ← utf8]

/-- A terminated UTF-8 text becomes its UTF-16 units with the terminator. -/
theorem multiByteToWideChar_utf8 {text : List Char} (h : 0 ∉ utf8 text) :
    multiByteToWideChar (some (utf8 text)) = utf16 text ++ [0] := by
  have hall : (utf8 text).takeWhile (· ≠ 0) = utf8 text := by
    rw [List.takeWhile_eq_self_iff]
    intro b hb
    exact decide_eq_true (fun h0 => h (h0 ▸ hb))
  rw [multiByteToWideChar, hall, utf8Scalars_utf8, ← utf16]

end MqlMySql
