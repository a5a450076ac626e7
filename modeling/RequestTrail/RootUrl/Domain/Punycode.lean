import RequestTrail.Text.Search

/-!
# Labels in letters, digits and hyphens

A label with characters outside ASCII is also written with its ASCII characters first, then a
hyphen, and then where the others go. Each of these is a number that counts through all places and
all code points in order. Its digits are letters and figures, and the lowest comes first.
-/
namespace RequestTrail.RootUrl.Punycode

open Text

/-- Values and products past 32 bits are refused. -/
def limit : Nat := 1 <<< 32

def digit? (c : Char) : Option Nat :=
  if 'a' ≤ c && c ≤ 'z' then some (c.toNat - 'a'.toNat)
  else if '0' ≤ c && c ≤ '9' then some (c.toNat - '0'.toNat + 26)
  else none

/-- A digit below the threshold of its place ends its number. -/
def threshold (bias place : Nat) : Nat := min 26 (max 1 (place - bias))

/-- The bias that suits numbers about as large as `distance`. -/
def biasOf (distance places : Nat) : Nat :=
  if 455 < distance then biasOf (distance / 35) (places + 36)
  else places + 36 * distance / (distance + 38)
termination_by distance
decreasing_by exact Nat.div_lt_self (by omega) (by omega)

def adapt (distance length : Nat) (isFirst : Bool) : Nat :=
  let damped := if isFirst then distance / 700 else distance / 2
  biasOf (damped + damped / length) 0

/-- A label that is being read, with the code point and place from which the next number counts,
and what has been read of that number. -/
structure Progress where
  label : List Char
  codePoint : Nat := 128
  start : Nat := 0
  bias : Nat := 72
  number : Nat := 0
  weight : Nat := 1
  place : Nat := 36

/-- Puts in the character that the number stands for. -/
def Progress.insert? (p : Progress) (number : Nat) : Option Progress :=
  let length := p.label.length + 1
  let codePoint := p.codePoint + number / length
  let index := number % length
  if codePoint.isValidChar then
    some ⟨p.label.insertIdx index (.ofNat codePoint), codePoint, index + 1,
      adapt (number - p.start) length (p.start == 0), index + 1, 1, 36⟩
  else none

def Progress.read? (p : Progress) (c : Char) : Option Progress := do
  let digit ← digit? c
  let number := p.number + digit * p.weight
  let bound := threshold p.bias p.place
  let weight := p.weight * (36 - bound)
  if limit ≤ number then none
  else if digit < bound then p.insert? number
  else if limit ≤ weight then none
  else some { p with number, weight, place := p.place + 36 }

/-- The label that is written, unless a number is malformed or does not end. The hyphen before the
numbers is the last one. It is missing, and not first, if the label has no ASCII character. -/
def decode? (written : List Char) : Option (List Char) := do
  let (plain, numbers) := (cutAtLast ['-'] written).getD ([], written)
  if plain.isEmpty && written.contains '-' then none
  let p ← numbers.foldlM Progress.read? ⟨plain, 128, 0, 72, 0, 1, 36⟩
  if p.place = 36 then some p.label else none

end RequestTrail.RootUrl.Punycode
