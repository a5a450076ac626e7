/-!
# Shortest decimal text of a float

The fewest digits that read back as the same float, and of those the nearest to it. The value is
taken apart into an integer and a power of two, and all comparisons are of natural numbers. Values
from a hundred-thousandth up to `10^16` are written positionally, and others with an exponent that
always has a sign.
-/
namespace RequestTrail.Text

/-- The finite value `mantissa * 2 ^ exponent`. -/
structure Binary where
  mantissa : Nat
  exponent : Int

def Binary.ofBits (bits : Nat) : Binary :=
  let fraction := bits % (1 <<< 52)
  let field := (bits >>> 52) % (1 <<< 11)
  if field = 0 then ⟨fraction, -1074⟩ else ⟨(1 <<< 52) + fraction, Int.ofNat field - 1075⟩

/-- The values that round to this one, as quarters of its last unit: below it a power of two has
the finer spacing. -/
def Binary.below (b : Binary) : Nat :=
  if b.mantissa = 1 <<< 52 && b.exponent != -1074 then 4 * b.mantissa - 1 else 4 * b.mantissa - 2

def Binary.above (b : Binary) : Nat := 4 * b.mantissa + 2

/-- The two sides of comparing `digits * 10 ^ place` with `quarters * 2 ^ exponent / 4`. -/
def Binary.sides (b : Binary) (digits : Nat) (place : Int) (quarters : Nat) : Nat × Nat :=
  ((4 * digits * Nat.pow 10 place.toNat) <<< (-b.exponent).toNat,
    (quarters * Nat.pow 10 (-place).toNat) <<< b.exponent.toNat)

/-- Whether `digits * 10 ^ place` reads back as the value. The ends belong to even mantissas. -/
def Binary.reads (b : Binary) (place : Int) (digits : Nat) : Bool :=
  let (l, low) := b.sides digits place b.below
  let (h, high) := b.sides digits place b.above
  if b.mantissa % 2 = 0 then low ≤ l && h ≤ high else low < l && h < high

/-- The value on the grid of one decimal place, rounded down. -/
def Binary.floorAt (b : Binary) (place : Int) : Nat :=
  let (unit, value) := b.sides 1 place (4 * b.mantissa)
  value / unit

/-- The nearer of the two grid neighbours that read back, the even one of two equally near. -/
def Binary.digitsAt? (b : Binary) (place : Int) : Option Nat :=
  let down := b.floorAt place
  let (unit, value) := b.sides 1 place (4 * b.mantissa)
  let twice := 2 * (value % unit)
  let preferUp := unit < twice || (twice = unit && down % 2 = 1)
  match b.reads place down, b.reads place (down + 1) with
  | true, true => some (if preferUp then down + 1 else down)
  | true, false => some down
  | false, true => some (down + 1)
  | false, false => none

/-- The decimal place just above the value. -/
def Binary.magnitude (b : Binary) : Int :=
  let start : Int := -324
  let steps := (List.range 634).takeWhile fun i => b.floorAt (start + Int.ofNat i) != 0
  start + steps.length

/-- Digits and place of the shortest text. Seventeen digits always read back. One digit may be ten
at its place, which is one at the next. -/
def Binary.shortest (b : Binary) : Nat × Int :=
  let top := b.magnitude
  let found := (List.range 17).findSome? fun i =>
    let place := top - 1 - Int.ofNat i
    (b.digitsAt? place).map (·, place)
  let (digits, place) := found.getD (b.floorAt (top - 17), top - 17)
  if digits = 10 then (1, place + 1) else (digits, place)

/-- A whole number has a zero after its point. -/
def layOut (digits : Nat) (place : Int) : String :=
  let text := (toString digits).toList
  let zeros (n : Int) := List.replicate n.toNat '0'
  let length : Int := text.length
  let point := length + place
  String.ofList <|
    if 0 ≤ place && point ≤ 16 then text ++ zeros place ++ ['.', '0']
    else if 0 < point && point ≤ 16 then text.take point.toNat ++ '.' :: text.drop point.toNat
    else if -5 < point && point ≤ 0 then '0' :: '.' :: zeros (-point) ++ text
    else
      let sign := if 0 < point then ['+'] else []
      let mark := 'e' :: sign ++ (toString (point - 1)).toList
      match text with
      | [d] => d :: mark
      | d :: rest => d :: '.' :: rest ++ mark
      | [] => []

/-- Only finite floats are ever written. -/
def shortest (x : Float) : String :=
  let bits := x.toBits.toNat
  let sign := if bits < 1 <<< 63 then "" else "-"
  let b := Binary.ofBits bits
  sign ++ if b.mantissa = 0 then "0.0" else
    let (digits, place) := b.shortest
    layOut digits place

end RequestTrail.Text
