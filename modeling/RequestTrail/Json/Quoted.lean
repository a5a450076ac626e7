import RequestTrail.Json.ReadFault
import RequestTrail.Text.Utf8

/-!
# Strings in a JSON text

A string is read as bytes. Under the strict reading it has no raw controls, its surrogate escapes
come in pairs, and its bytes are UTF-8. The lax reading takes any bytes as they are, and writes a
surrogate that stands alone as three bytes.
-/
namespace RequestTrail.Json

open Text

def escapedByte? (b : UInt8) : Option UInt8 :=
  match Char.ofNat b.toNat with
  | '"' => some 0x22
  | '\\' => some 0x5C
  | '/' => some 0x2F
  | 'b' => some 0x08
  | 'f' => some 0x0C
  | 'n' => some 0x0A
  | 'r' => some 0x0D
  | 't' => some 0x09
  | _ => none

/-- The number that four hexadecimal digits write. -/
def hexUnit? (a b c d : UInt8) : Option Nat := do
  let digit (x : UInt8) := hexValue? (Char.ofNat x.toNat)
  return (((← digit a) * 16 + (← digit b)) * 16 + (← digit c)) * 16 + (← digit d)

def isLeading (n : Nat) : Bool := 0xD800 ≤ n && n ≤ 0xDBFF

def isTrailing (n : Nat) : Bool := 0xDC00 ≤ n && n ≤ 0xDFFF

/-- Three-byte form, which also has room for surrogates. -/
def threeBytes (n : Nat) : Bytes :=
  [(0xE0 + n / 0x1000).toUInt8, (0x80 + n / 0x40 % 0x40).toUInt8, (0x80 + n % 0x40).toUInt8]

def unitBytes (n : Nat) : Bytes :=
  if isLeading n || isTrailing n then threeBytes n else String.utf8EncodeChar (Char.ofNat n)

def pairBytes (leading trailing : Nat) : Bytes :=
  String.utf8EncodeChar (Char.ofNat (0x10000 + (leading - 0xD800) * 0x400 + (trailing - 0xDC00)))

/-- Puts bytes before what the rest of the string reads as. -/
def before (bytes : Bytes) (tail : Except ReadFault (Bytes × Bytes)) : Except ReadFault (Bytes × Bytes) :=
  tail.map fun r => (bytes ++ r.1, r.2)

/-- Reads up to the closing mark. `lead` is a leading surrogate whose escape has just ended. -/
def readRaw (strict : Bool) : (lead : Option Nat) → Reader Bytes
  | _, [] => .error .endOfString
  | _, [0x5C] => .error .endOfString
  | none, 0x22 :: rest => .ok ([], rest)
  | none, 0x5C :: 0x75 :: a :: b :: c :: d :: rest =>
    match hexUnit? a b c d with
    | none => .error .badEscape
    | some n =>
      if isLeading n then readRaw strict (some n) rest
      else if strict && isTrailing n then .error .loneSurrogate
      else before (unitBytes n) (readRaw strict none rest)
  | some lead, 0x5C :: 0x75 :: a :: b :: c :: d :: rest =>
    match hexUnit? a b c d with
    | none => .error .badEscape
    | some n =>
      if isTrailing n then before (pairBytes lead n) (readRaw strict none rest)
      else if strict then .error .loneSurrogate
      else if isLeading n then before (threeBytes lead) (readRaw strict (some n) rest)
      else before (threeBytes lead ++ unitBytes n) (readRaw strict none rest)
  | _, 0x5C :: 0x75 :: _ => .error .endOfString
  | lead, 0x5C :: b :: rest =>
    if strict && lead.isSome then .error .unpairedSurrogate
    else match escapedByte? b with
      | none => .error .badEscape
      | some e => before ((lead.map threeBytes).getD [] ++ [e]) (readRaw strict none rest)
  | none, b :: rest =>
    if strict && b < 0x20 then .error .controlCharacter
    else before [b] (readRaw strict none rest)
  | some lead, b :: rest =>
    if strict then .error .unpairedSurrogate
    else if b == 0x22 then .ok (threeBytes lead, rest)
    else before (threeBytes lead ++ [b]) (readRaw strict none rest)

/-- Reads the bytes of a string after its opening mark. -/
def readBytes : Reader Bytes := readRaw false none

/-- Reads the text of a string after its opening mark. -/
def readText : Reader String := fun s => do
  let (bytes, rest) ← readRaw true none s
  match Utf8.decode? bytes with
  | none => .error .notUnicode
  | some text => .ok (String.ofList text, rest)

/-- Passes over a string after its opening mark. Escapes are checked for form only. -/
def skipText : Bytes → Except ReadFault Bytes
  | [] => .error .endOfString
  | 0x22 :: rest => .ok rest
  | 0x5C :: 0x75 :: a :: b :: c :: d :: rest =>
    if (hexUnit? a b c d).isSome then skipText rest else .error .badEscape
  | 0x5C :: 0x75 :: _ => .error .endOfString
  | 0x5C :: b :: rest => if (escapedByte? b).isSome then skipText rest else .error .badEscape
  | b :: rest =>
    if b == 0x5C then .error .endOfString
    else if b < 0x20 then .error .controlCharacter
    else skipText rest

end RequestTrail.Json
