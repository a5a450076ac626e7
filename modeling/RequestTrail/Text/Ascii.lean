/-!
# ASCII letters, digits and bytes

Comparison that ignores the case of ASCII letters only, digit values, and the view of a text as
the bytes of its UTF-8 form.
-/
namespace RequestTrail

abbrev Bytes := List UInt8

namespace Text

def lower (s : List Char) : List Char := s.map Char.toLower

/-- Equal up to the case of ASCII letters. -/
def sameName (a b : List Char) : Bool := lower a == lower b

def isDigit (c : Char) : Bool := '0' ≤ c && c ≤ '9'

def isLetter (c : Char) : Bool := ('a' ≤ c && c ≤ 'z') || ('A' ≤ c && c ≤ 'Z')

def isAlphanumeric (c : Char) : Bool := isLetter c || isDigit c

def hexValue? (c : Char) : Option Nat :=
  if isDigit c then some (c.toNat - '0'.toNat)
  else if 'a' ≤ c && c ≤ 'f' then some (c.toNat - 'a'.toNat + 10)
  else if 'A' ≤ c && c ≤ 'F' then some (c.toNat - 'A'.toNat + 10)
  else none

/-- The number that digits write in a base up to sixteen. The empty text writes zero. -/
def ofDigits (base : Nat) (digits : List Char) : Option Nat :=
  digits.foldlM (fun n c => do
    let d ← hexValue? c
    if d < base then some (n * base + d) else none) 0

/-- The digit of a value below sixteen. -/
def hexDigit (n : Nat) : Char := Char.ofNat (if n < 10 then '0'.toNat + n else 'a'.toNat + n - 10)

def hexDigitUpper (n : Nat) : Char := (hexDigit n).toUpper

def hexByte (b : UInt8) : List Char := [hexDigit (b.toNat / 16), hexDigit (b.toNat % 16)]

def hex (bytes : Bytes) : String := String.ofList (bytes.flatMap hexByte)

/-- The byte of an ASCII character. -/
def byte (c : Char) : UInt8 := c.toNat.toUInt8

def utf8 (s : List Char) : Bytes := s.flatMap String.utf8EncodeChar

def bytes (s : String) : Bytes := utf8 s.toList

theorem hexValue?_hexDigit {n : Nat} (h : n < 16) : hexValue? (hexDigit n) = some n := by
  have all : ∀ k : Fin 16, hexValue? (hexDigit k.val) = some k.val := by decide
  exact all ⟨n, h⟩

@[simp] theorem utf8_nil : utf8 [] = [] := rfl

theorem utf8_cons (c : Char) (s : List Char) : utf8 (c :: s) = String.utf8EncodeChar c ++ utf8 s :=
  List.flatMap_cons

@[simp] theorem utf8_append (a b : List Char) : utf8 (a ++ b) = utf8 a ++ utf8 b := by
  simp [utf8]

@[simp] theorem bytes_append (a b : String) : bytes (a ++ b) = bytes a ++ bytes b := by
  simp [bytes]

end Text

end RequestTrail
