import RequestTrail.Text.Ascii
import RequestTrail.Text.Search

/-!
# Numeric hosts

Which texts are IPv4 and IPv6 addresses when they stand as the host of a URL. A dotted address may
have fewer than four parts and mix decimal, octal and hexadecimal ones. Its last part then covers
all the bytes that are left.
-/
namespace RequestTrail.RootUrl

open Text

/-- One part of a dotted address. A bare `0x` is zero, and the empty text is no number. -/
def addressPart? : List Char → Option Nat
  | [] => none
  | '0' :: 'x' :: digits => ofDigits 16 digits
  | '0' :: 'X' :: digits => ofDigits 16 digits
  | '0' :: d :: digits => ofDigits 8 (d :: digits)
  | digits => ofDigits 10 digits

/-- The parts between the dots, without the empty one after a trailing dot. -/
def dottedParts (host : List Char) : List (List Char) :=
  let parts := fields '.' host
  if parts.getLast? = some [] then parts.dropLast else parts

/-- A host whose last part is a number has to be an IPv4 address. A part of digits counts as a
number here even if it is no octal number, as `09`. -/
def endsInNumber (host : List Char) : Bool :=
  match (dottedParts host).getLast? with
  | none => false
  | some last => (!last.isEmpty && last.all isDigit) || (addressPart? last).isSome

def isIPv4 (host : List Char) : Bool :=
  let parts := dottedParts host
  match parts.mapM addressPart? with
  | none => false
  | some numbers =>
    match numbers.getLast? with
    | none => false
    | some last =>
      parts.length ≤ 4 && numbers.dropLast.all (· ≤ 255) && last < 1 <<< (8 * (5 - parts.length))

/-- A decimal part of the dotted tail of an IPv6 address, without leading zeros. -/
def isTailPart (part : List Char) : Bool :=
  match part with
  | ['0'] => true
  | '0' :: _ => false
  | _ => match ofDigits 10 part with
    | some n => !part.isEmpty && n ≤ 255
    | none => false

def isDottedTail (s : List Char) : Bool :=
  let parts := fields '.' s
  parts.length == 4 && parts.all isTailPart

def isGroup (s : List Char) : Bool :=
  1 ≤ s.length && s.length ≤ 4 && s.all fun c => (hexValue? c).isSome

/-- How many groups of sixteen bits a colon-separated text stands for. The dotted tail may only be
last, and counts for two. -/
def groupCount (tail : Bool) (s : List Char) : Option Nat :=
  let groups := fields ':' s
  match groups.getLast? with
  | none => none
  | some last =>
    if groups.dropLast.all isGroup then
      if isGroup last then some groups.length
      else if tail && isDottedTail last then some (groups.length + 1)
      else none
    else none

/-- Eight groups, or fewer than eight around one `::`. -/
def isIPv6 (s : List Char) : Bool :=
  let count (tail : Bool) (part : List Char) := if part.isEmpty then some 0 else groupCount tail part
  match cutAtFirst [':', ':'] s with
  | none => groupCount true s == some 8
  | some (left, right) =>
    match count false left, count true right with
    | some l, some r => l + r ≤ 7
    | _, _ => false

end RequestTrail.RootUrl
