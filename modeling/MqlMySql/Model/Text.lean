import Mathlib.Data.Int.Notation
import Mathlib.Data.Nat.Notation
import Mathlib.Data.List.Basic
import Mathlib.Data.UInt
import Mathlib.Tactic.Common

/-!
# Wide and multibyte text

Strings cross the DLL boundary as UTF-16 and reach the server as UTF-8. A `WStr` holds the code
units before the terminator; the two Windows conversions below return the terminator as well,
because the sizes which the DLL compares count it.

Both conversions run with flags `0`: a lone surrogate or an ill-formed byte becomes `U+FFFD`.
-/

namespace MqlMySql

/-- One `wchar_t` of the Windows ABI. -/
abbrev WChar := UInt16

/-- The code units of a wide string, without its terminator. -/
abbrev WStr := List WChar

/-- A unit which opens a surrogate pair. -/
def isHighSurrogate (u : WChar) : Bool := 0xD800 ≤ u.toNat && u.toNat < 0xDC00

/-- A unit which closes a surrogate pair. -/
def isLowSurrogate (u : WChar) : Bool := 0xDC00 ≤ u.toNat && u.toNat < 0xE000

/-- The replacement character of both conversions. -/
def replacementChar : Char := Char.ofNat 0xFFFD

/-- The scalar value of a unit outside any pair. -/
def scalarOfUnit (u : WChar) : Char :=
  if isHighSurrogate u || isLowSurrogate u then replacementChar else Char.ofNat u.toNat

/-- The scalar value of a surrogate pair. -/
def scalarOfPair (u v : WChar) : Char :=
  Char.ofNat (0x10000 + (u.toNat - 0xD800) * 0x400 + (v.toNat - 0xDC00))

/-- Decode UTF-16, pairing surrogates from left to right. -/
def utf16Scalars : WStr → List Char
  | [] => []
  | [u] => [scalarOfUnit u]
  | u :: v :: rest =>
    if isHighSurrogate u && isLowSurrogate v then scalarOfPair u v :: utf16Scalars rest
    else scalarOfUnit u :: utf16Scalars (v :: rest)

/-- The one or two units which encode a scalar value. -/
def utf16EncodeChar (c : Char) : WStr :=
  if c.toNat < 0x10000 then [UInt16.ofNat c.toNat]
  else [UInt16.ofNat (0xD800 + (c.toNat - 0x10000) / 0x400),
    UInt16.ofNat (0xDC00 + (c.toNat - 0x10000) % 0x400)]

/-- Decode UTF-8; the counter says how many bytes of the current character are still to be passed
over. -/
def utf8Scalars : ℕ → List UInt8 → List Char
  | _, [] => []
  | skip + 1, _ :: rest => utf8Scalars skip rest
  | 0, b :: rest =>
    match ByteArray.utf8DecodeChar? ⟨(b :: rest).toArray⟩ 0 with
    | some c => c :: utf8Scalars (c.utf8Size - 1) rest
    | none => replacementChar :: utf8Scalars 0 rest

/-- `WideCharToMultiByte(CP_UTF8, 0, s, -1, ..)`: the bytes written, terminator included. -/
def wideCharToMultiByte (s : WStr) : List UInt8 :=
  (utf16Scalars s).flatMap String.utf8EncodeChar ++ [0]

/-- `MultiByteToWideChar(CP_UTF8, 0, p, -1, ..)`: the units written, terminator included. A null
pointer is refused and nothing is written. -/
def multiByteToWideChar : Option (List UInt8) → WStr
  | none => []
  | some bytes => (utf8Scalars 0 (bytes.takeWhile (· ≠ 0))).flatMap utf16EncodeChar ++ [0]

/-- The contents of a byte buffer read as a C string; its length is what `strlen` returns. -/
def cString (buffer : List UInt8) : List UInt8 := buffer.takeWhile (· ≠ 0)

/-- The contents of a wide buffer read as a C string. -/
def wideString (buffer : WStr) : WStr := buffer.takeWhile (· ≠ 0)

/-- `int(n)` applied to a 64-bit count keeps its low 32 bits, read as signed. -/
def intOfUInt64 (n : ℕ) : ℤ := Int.bmod n (2 ^ 32)

/-- An `int` argument received by a parameter of type `unsigned int`. -/
def unsignedOfInt (n : ℤ) : ℕ := (n % 2 ^ 32).toNat

end MqlMySql
