import RequestTrail.Json.ReadFault

/-!
# Numbers in a JSON text

An integer that fits 64 bits, signed or unsigned, is kept as it is. Anything else becomes a float:
the leading digits that fit 64 bits, scaled by a power of ten. The negative zero is a float.
-/
namespace RequestTrail.Json

inductive Number where
  | integer (n : Int)
  | real (x : Float)

def isDigit (b : UInt8) : Bool := 0x30 ≤ b && b ≤ 0x39

def digitValue (b : UInt8) : Nat := b.toNat - 0x30

def maxSignificand : Nat := (1 <<< 64) - 1

def maxExponent : Nat := (1 <<< 31) - 1

/-- Takes digits on as long as the number stays within `limit`, and counts them. -/
def accumulate (limit : Nat) : Nat → Bytes → Nat × Nat
  | n, [] => (n, 0)
  | n, d :: rest =>
    let m := n * 10 + digitValue d
    if limit < m then (n, 0)
    else
      let (last, count) := accumulate limit m rest
      (last, count + 1)

def powerOfTen (n : Nat) : Float := Float.ofScientific 1 false n

/-- Divides by `10 ^ n`, in steps that a float can hold. -/
def scaleDown (x : Float) (n : Nat) : Float :=
  if n ≤ 308 then x / powerOfTen n
  else if x == 0 then x
  else scaleDown (x / powerOfTen 308) (n - 308)
termination_by n

/-- A product past the largest float is out of range, and a quotient below the least one is zero. -/
def scale? (x : Float) (exponent : Int) : Option Float :=
  if exponent < 0 then some (scaleDown x exponent.natAbs)
  else if exponent ≤ 308 then
    let y := x * powerOfTen exponent.natAbs
    if y.isInf then none else some y
  else if x == 0 then some x
  else none

def realOf (negative : Bool) (significand : Nat) (exponent : Int) : Except ReadFault Number :=
  match scale? significand.toUInt64.toFloat exponent with
  | none => .error .numberOutOfRange
  | some x => .ok (.real (if negative then -x else x))

/-- Reads an exponent after its letter. An exponent past 32 bits makes the number zero or too
large. -/
def readExponent (negative : Bool) (significand : Nat) (exponent : Int) : Reader Number := fun s =>
  let (down, s) := match s with
    | 0x2B :: rest => (false, rest)
    | 0x2D :: rest => (true, rest)
    | _ => (false, s)
  match s with
  | [] => .error .endOfValue
  | b :: _ =>
    if !isDigit b then .error .badNumber
    else
      let digits := s.takeWhile isDigit
      let rest := s.drop digits.length
      let (n, used) := accumulate maxExponent 0 digits
      if used < digits.length then
        if significand != 0 && !down then .error .numberOutOfRange
        else .ok (.real (if negative then -0.0 else 0.0), rest)
      else
        let shift : Int := if down then -n else n
        (realOf negative significand (exponent + shift)).map (·, rest)

def isExponentMark (b : UInt8) : Bool := b == 0x65 || b == 0x45

/-- Reads the digits after the point, and an exponent if one follows. -/
def readFraction (negative : Bool) (significand : Nat) (exponent : Int) : Reader Number := fun s =>
  let digits := s.takeWhile isDigit
  let rest := s.drop digits.length
  if digits.isEmpty then .error (if s.isEmpty then .endOfValue else .badNumber)
  else
    let (n, used) := accumulate maxSignificand significand digits
    let exponent := exponent - used
    match rest with
    | b :: after =>
      if isExponentMark b then readExponent negative n exponent after
      else (realOf negative n exponent).map (·, rest)
    | [] => (realOf negative n exponent).map (·, rest)

/-- A whole number is negative down to `-2 ^ 63`, and not zero. -/
def wholeNumber (negative : Bool) (n : Nat) : Number :=
  if !negative then .integer n
  else if n = 0 || 1 <<< 63 < n then .real (-n.toUInt64.toFloat)
  else .integer (-n)

/-- Reads a number after its sign. -/
def readUnsigned (negative : Bool) : Reader Number := fun s =>
  match s with
  | [] => .error .endOfValue
  | first :: more =>
    if !isDigit first then .error .badNumber
    else if first == 0x30 && more.head?.any isDigit then .error .badNumber
    else
      let digits := s.takeWhile isDigit
      let rest := s.drop digits.length
      let (n, used) := accumulate maxSignificand 0 digits
      let dropped : Int := digits.length - used
      match rest with
      | 0x2E :: after => readFraction negative n dropped after
      | b :: after =>
        if isExponentMark b then readExponent negative n dropped after
        else if used = digits.length then .ok (wholeNumber negative n, rest)
        else (realOf negative n dropped).map (·, rest)
      | [] =>
        if used = digits.length then .ok (wholeNumber negative n, rest)
        else (realOf negative n dropped).map (·, rest)

def readNumber : Reader Number
  | 0x2D :: rest => readUnsigned true rest
  | s => readUnsigned false s

end RequestTrail.Json
