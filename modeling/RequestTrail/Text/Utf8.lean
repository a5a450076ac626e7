import RequestTrail.Text.Ascii

/-!
# Reading UTF-8

A byte string is a sequence of scalar values and of ill-formed pieces. An ill-formed piece is the
longest start of a sequence that some well-formed one also has, or else one byte. The strict
reading refuses any such piece, and the lossy one puts U+FFFD for it.
-/
namespace RequestTrail.Utf8

/-- A sequence under way: the bits read, how many bytes are still to come (at least one), and the
bounds of the next. Only the byte after the first is bounded more tightly than `80..BF`, which
keeps out overlong forms, surrogates and values past U+10FFFF. -/
structure Partial where
  bits : Nat
  more : Nat
  low : UInt8
  high : UInt8

inductive Start where
  | scalar (c : Char)
  | opens (p : Partial)
  | broken

def start (b : UInt8) : Start :=
  if b < 0x80 then .scalar (Char.ofNat b.toNat)
  else if b < 0xC2 then .broken
  else if b < 0xE0 then .opens ⟨b.toNat - 0xC0, 1, 0x80, 0xBF⟩
  else if b = 0xE0 then .opens ⟨0, 2, 0xA0, 0xBF⟩
  else if b = 0xED then .opens ⟨0xD, 2, 0x80, 0x9F⟩
  else if b < 0xF0 then .opens ⟨b.toNat - 0xE0, 2, 0x80, 0xBF⟩
  else if b = 0xF0 then .opens ⟨0, 3, 0x90, 0xBF⟩
  else if b < 0xF4 then .opens ⟨b.toNat - 0xF0, 3, 0x80, 0xBF⟩
  else if b = 0xF4 then .opens ⟨4, 3, 0x80, 0x8F⟩
  else .broken

/-- The sequence after one more byte within its bounds. -/
def Partial.push (p : Partial) (b : UInt8) : Partial :=
  ⟨p.bits * 64 + (b.toNat - 0x80), p.more - 1, 0x80, 0xBF⟩

def Partial.admits (p : Partial) (b : UInt8) : Bool := p.low ≤ b && b ≤ p.high

def piecesFrom : Option Partial → Bytes → List (Option Char)
  | none, [] => []
  | some _, [] => [none]
  | none, b :: rest =>
    match start b with
    | .scalar c => some c :: piecesFrom none rest
    | .opens p => piecesFrom (some p) rest
    | .broken => none :: piecesFrom none rest
  | some p, b :: rest =>
    if p.admits b then
      if p.more = 1 then some (Char.ofNat (p.push b).bits) :: piecesFrom none rest
      else piecesFrom (some (p.push b)) rest
    else
      -- The byte ends the ill-formed piece and begins the next one.
      none :: match start b with
        | .scalar c => some c :: piecesFrom none rest
        | .opens q => piecesFrom (some q) rest
        | .broken => none :: piecesFrom none rest

/-- The scalar values in order, with `none` for each ill-formed piece. -/
def pieces (bytes : Bytes) : List (Option Char) := piecesFrom none bytes

def decode? (bytes : Bytes) : Option (List Char) := (pieces bytes).mapM id

def decodeLossy (bytes : Bytes) : List Char := (pieces bytes).map (·.getD '\uFFFD')

end RequestTrail.Utf8
