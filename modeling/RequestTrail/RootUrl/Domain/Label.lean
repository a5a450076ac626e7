import RequestTrail.RootUrl.Domain.Folding
import RequestTrail.RootUrl.Domain.Punycode
import RequestTrail.Text.Composed
import RequestTrail.Text.Direction
import RequestTrail.Text.Joining

/-!
# Labels

The parts of a domain name between its dots, and which of them are in order. Labels of ASCII
characters always are, unless they write a label outside ASCII that is not.
-/
namespace RequestTrail.RootUrl

open Text

def isAscii (s : List Char) : Bool := s.all (·.toNat < 0x80)

/-- The longest label outside ASCII that can be written in ASCII. -/
def longestLabel : Nat := 1000

/-- The longest writing that is read. -/
def longestWriting : Nat := 2000

/-- Whether name preparation leaves a text as it is. -/
def isPrepared (s : List Char) : Bool := s.all (fun c => fold? c == some [c]) && composed s == s

/-- The label that a prepared label stands for. -/
def meaning? (label : List Char) : Option (List Char) :=
  match label with
  | 'x' :: 'n' :: '-' :: '-' :: written =>
    if isAscii written && written.getLast?.any (· != '-') && written.length ≤ longestWriting then
      (Punycode.decode? written).filter isPrepared
    else none
  | _ => if isAscii label || label.length ≤ longestLabel then some label else none

def nonJoiner : Char := '\u200c'

def joiner : Char := '\u200d'

/-- Joiners may follow a virama, and a non-joiner may part letters that would
join. `before` is what stands before the rest, the last character first. -/
def joinersFit (before : List Char) : List Char → Bool
  | [] => true
  | c :: after =>
    let fits := match before with
      | [] => false
      | last :: _ =>
        combiningClass last == viramaClass || (c == nonJoiner && joinsAcross before after)
    ((c != nonJoiner && c != joiner) || fits) && joinersFit (c :: before) after

/-- No mark comes first, and every joiner has something to join. -/
def isLabel (label : List Char) : Bool :=
  isAscii label || (!label.head?.any isMark && joinersFit [] label)

theorem isLabel_of_isAscii {label : List Char} (h : isAscii label = true) : isLabel label = true := by
  simp [isLabel, h]

def isRightToLeft (c : Char) : Bool :=
  [Direction.rightToLeft, .arabicNumber].contains (direction c)

/-- What a label may hold beside a character written from right to left: its first character sets
its direction, nothing runs against it, it ends in a letter or number and its marks, and numbers are
all of one kind. -/
def directionFits (label : List Char) : Bool :=
  let directions := label.map direction
  let marksCut := (directions.reverse.dropWhile (· == .mark)).reverse
  match directions.head? with
  | none => true
  | some .leftToRight =>
    marksCut.getLast?.any ([.leftToRight, .europeanNumber].contains ·) &&
    marksCut.all ([.leftToRight, .europeanNumber, .neutral, .mark].contains ·)
  | some .rightToLeft =>
    marksCut.getLast?.any ([.rightToLeft, .europeanNumber, .arabicNumber].contains ·) &&
    marksCut.all ([.rightToLeft, .europeanNumber, .arabicNumber, .neutral, .mark].contains ·) &&
    !(marksCut.contains .europeanNumber && marksCut.contains .arabicNumber)
  | some _ => false

end RequestTrail.RootUrl
