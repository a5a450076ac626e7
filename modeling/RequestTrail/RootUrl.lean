import RequestTrail.RootUrl.Address
import RequestTrail.RootUrl.Domain
import RequestTrail.Text.Blank

/-!
# Root URLs

Whether a text is an absolute URL with a host. The scheme decides how the rest is read: a special
scheme needs a host and takes backslashes for slashes, `file` may have one, and any other scheme
has one only after two slashes. Paths, queries and fragments never fail, so they are not read,
except that the path of a `file` URL can take its host away.
-/
namespace RequestTrail.RootUrl

open Text

inductive Reason where
  | relative
  | emptyHost
  | badNumber
  | badIPv4
  | badIPv6
  | badDomain
  | badHostCharacter
  | noHost
deriving DecidableEq, Repr

def Reason.message : Reason → String
  | .relative => "relative URL without a base"
  | .emptyHost => "empty host"
  | .badNumber => "invalid port number"
  | .badIPv4 => "invalid IPv4 address"
  | .badIPv6 => "invalid IPv6 address"
  | .badDomain => "invalid international domain name"
  | .badHostCharacter => "invalid domain character"
  | .noHost => "URL has no host"

inductive Scheme where
  | special
  | file
  | other
deriving DecidableEq, Repr

def Scheme.ofName (name : List Char) : Scheme :=
  let name := String.ofList (lower name)
  if ["http", "https", "ws", "wss", "ftp"].contains name then .special
  else if name = "file" then .file
  else .other

/-- The text that is read: controls and spaces at its ends, and line breaks and tabs anywhere, do
not count. -/
def significant (root : List Char) : List Char :=
  (trimBy (·.toNat ≤ 0x20) root).filter fun c => !(c == '\t' || c == '\n' || c == '\r')

/-- The name before the first colon, and what follows the colon. -/
def splitScheme (s : List Char) : Option (List Char × List Char) :=
  let isSchemeChar (c : Char) := isAlphanumeric c || c == '+' || c == '-' || c == '.'
  match s.head?, s.dropWhile isSchemeChar with
  | some c, ':' :: rest => if isLetter c then some (s.takeWhile isSchemeChar, rest) else none
  | _, _ => none

def Scheme.isSlash (scheme : Scheme) (c : Char) : Bool :=
  c == '/' || (c == '\\' && scheme != .other)

/-- Where the authority stops. -/
def Scheme.endsAuthority (scheme : Scheme) (c : Char) : Bool :=
  scheme.isSlash c || c == '?' || c == '#'

/-- The host up to its colon, which does not count inside brackets, and what follows the colon. -/
def splitHost : (bracketed : Bool) → List Char → List Char × Option (List Char)
  | _, [] => ([], none)
  | bracketed, c :: rest =>
    if c == ':' && !bracketed then ([], some rest)
    else
      let inside := if c == '[' then true else if c == ']' then false else bracketed
      let (host, number) := splitHost inside rest
      (c :: host, number)

/-- User information is all before the last at sign. -/
def splitUser (authority : List Char) : Option (List Char) × List Char :=
  let parts := fields '@' authority
  match parts.dropLast, parts.getLast? with
  | [], _ => (none, authority)
  | user, host => (some (List.intercalate ['@'] user), host.getD [])

/-- The number after the colon of a host has sixteen bits, and may be left out. A backslash ends it
under every scheme. -/
def checkNumber (number : List Char) : Except Reason Unit :=
  let digits := number.takeWhile (· != '\\')
  if digits.all isDigit && (ofDigits 10 digits).any (· ≤ 65535) then .ok () else .error .badNumber

def checkBracketed (host : List Char) : Except Reason Unit :=
  if host.getLast? = some ']' && isIPv6 host.tail.dropLast then .ok () else .error .badIPv6

/-- Hosts of special and `file` URLs: an address in brackets, or a name that is prepared and then
has to be an IPv4 address if it ends in a number. Answers the prepared name. -/
def checkName (host : List Char) : Except Reason (List Char) :=
  if host.head? = some '[' then (checkBracketed host).map fun _ => host
  else match prepare? host with
    | none => .error .badDomain
    | some [] => .error .emptyHost
    | some name => if endsInNumber name && !isIPv4 name then .error .badIPv4 else .ok name

/-- Hosts of other schemes are kept as they stand. -/
def checkOpaque (host : List Char) : Except Reason Unit :=
  if host.head? = some '[' then checkBracketed host
  else if host.any fun c => isReserved c || c == ' ' || c.toNat == 0 then .error .badHostCharacter
  else .ok ()

def checkSpecial (afterColon : List Char) : Except Reason Unit := do
  let authority := (afterColon.dropWhile Scheme.special.isSlash).takeWhile
    (!Scheme.special.endsAuthority ·)
  let (host, number) := splitHost false (splitUser authority).2
  if host.isEmpty then throw .emptyHost
  let _ ← checkName host
  number.forM checkNumber

/-- An empty host is no host, but an error beside a number or user information. A bare colon is no
user information, and neither is nothing, unless more follows the authority. -/
def checkOther (afterColon : List Char) : Except Reason Unit := do
  let '/' :: '/' :: rest := afterColon | throw .noHost
  let authority := rest.takeWhile (!Scheme.other.endsAuthority ·)
  let (user, hostAndNumber) := splitUser authority
  let (host, number) := splitHost false hostAndNumber
  checkOpaque host
  if host.isEmpty then
    let anonymous := user = none ∨ user = some [':'] ∨ (user = some [] ∧ authority = rest)
    throw (if number.isNone ∧ anonymous then .noHost else .emptyHost)
  number.forM checkNumber

/-- A letter and a colon or bar name a drive. -/
def isDrive (s : List Char) : Bool :=
  match s with
  | [letter, mark] => isLetter letter && (mark == ':' || mark == '|')
  | _ => false

/-- What stands in a path after a step up. A drive stays. -/
def stepUp (standing : List (List Char)) : List (List Char) :=
  match standing with
  | [] => []
  | last :: before => if isDrive last then last :: before else before

/-- Whether a drive comes to stand first in a path. `standing` are the segments that stand so far,
the last one first. -/
def startsWithDrive (standing : List (List Char)) : List (List Char) → Bool
  | [] => false
  | segment :: rest =>
    let plain := String.ofList (lower segment)
    if [".", "%2e"].contains plain then startsWithDrive standing rest
    else if ["..", ".%2e", "%2e.", "%2e%2e"].contains plain then
      startsWithDrive (stepUp standing) rest
    else (standing.isEmpty && isDrive segment) || startsWithDrive (segment :: standing) rest

/-- A `file` URL has no user information and no number. It has no host if the host is empty, a drive
or `localhost`, or if its path starts with a drive. -/
def checkFile (afterColon : List Char) : Except Reason Unit := do
  let a :: b :: rest := afterColon | throw .noHost
  if !(Scheme.file.isSlash a && Scheme.file.isSlash b) then throw .noHost
  let host := rest.takeWhile (!Scheme.file.endsAuthority ·)
  if host.isEmpty || isDrive host then throw .noHost
  let name ← checkName host
  if name = "localhost".toList then throw .noHost
  let path := (rest.drop (host.length + 1)).takeWhile fun c => c != '?' && c != '#'
  let segments := fields '/' (path.map fun c => if c = '\\' then '/' else c)
  let hasPath := match rest.drop host.length with
    | c :: _ => Scheme.file.isSlash c
    | [] => false
  if hasPath && startsWithDrive [] segments then throw .noHost

/-- Accepts the absolute URLs that have a host. -/
def check (root : String) : Except Reason Unit :=
  match splitScheme (significant root.toList) with
  | none => .error .relative
  | some (name, rest) =>
    match Scheme.ofName name with
    | .special => checkSpecial rest
    | .file => checkFile rest
    | .other => checkOther rest

end RequestTrail.RootUrl
