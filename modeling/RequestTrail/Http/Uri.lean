import RequestTrail.Text.Ascii
import RequestTrail.Text.Search

/-!
# Request targets

The URI of a request: a path alone, an authority alone, a star, or a whole URI with scheme,
authority, path and query. A fragment is read and dropped.
-/
namespace RequestTrail.Http

open Text

inductive UriError where
  | tooLong
  | schemeTooLong
  | empty
  | badCharacter
  | badAuthority
  | badFormat
deriving DecidableEq, Repr

def UriError.message : UriError → String
  | .tooLong => "uri too long"
  | .schemeTooLong => "scheme too long"
  | .empty => "empty string"
  | .badCharacter => "invalid uri character"
  | .badAuthority => "invalid authority"
  | .badFormat => "invalid format"

/-- Path and query as they were given, the query without its question mark. -/
structure Target where
  path : List Char
  query : Option (List Char)
deriving DecidableEq, Repr

inductive Uri where
  | pathOnly (t : Target)
  | authorityOnly (authority : List Char)
  | absolute (scheme authority : List Char) (t : Target)
deriving DecidableEq, Repr

namespace Target

def text (t : Target) : List Char :=
  t.path ++ match t.query with
    | none => []
    | some q => '?' :: q

def isPathChar (c : Char) : Bool :=
  0x20 < c.toNat && c.toNat != 0x7F && c != '<' && c != '>' && c != '`'

def isQueryChar (c : Char) : Bool :=
  0x20 < c.toNat && c.toNat != 0x7F && c != '<' && c != '>' && c != '"'

def parse (s : List Char) : Except UriError Target :=
  let path := s.takeWhile fun c => c != '?' && c != '#'
  if !path.all isPathChar then .error .badCharacter
  else match s.drop path.length with
    | '?' :: rest =>
      let query := rest.takeWhile (· != '#')
      if query.all isQueryChar then .ok ⟨path, some query⟩ else .error .badCharacter
    | _ => .ok ⟨path, none⟩

end Target

namespace Uri

/-- In the whole form, an empty path is written as a slash. -/
def chars : Uri → List Char
  | .pathOnly t => t.text
  | .authorityOnly authority => authority
  | .absolute scheme authority t =>
    scheme ++ "://".toList ++ authority ++ (if t.path.isEmpty then '/' :: t.text else t.text)

def text (u : Uri) : String := String.ofList u.chars

def maxLength : Nat := 65534

def maxSchemeLength : Nat := 64

def isAuthorityChar (c : Char) : Bool :=
  isAlphanumeric c || "!$&'()*+,-.:;=@[]_~".toList.contains c

/-- What the reading of an authority has seen since the last at sign or closing bracket, and
whether brackets were opened and closed. -/
structure AuthorityScan where
  colons : Nat := 0
  opened : Bool := false
  closed : Bool := false
  percent : Bool := false
  endsWithAt : Bool := false

/-- Counts stop at an at sign and at a closing bracket, so that only the host and its number are held
to one colon and to no escapes. A ninth colon is refused where it stands. -/
def AuthorityScan.push (a : AuthorityScan) (c : Char) : Except UriError AuthorityScan :=
  let a := { a with endsWithAt := c == '@' }
  match c with
  | ':' => if 8 ≤ a.colons then .error .badAuthority else .ok { a with colons := a.colons + 1 }
  | '[' => if a.percent || a.opened then .error .badAuthority else .ok { a with opened := true }
  | ']' =>
    if !a.opened || a.closed then .error .badAuthority
    else .ok { a with closed := true, colons := 0, percent := false }
  | '@' => .ok { a with colons := 0, percent := false }
  | '%' => .ok { a with percent := true }
  | _ => if isAuthorityChar c then .ok a else .error .badCharacter

def checkAuthority (authority : List Char) : Except UriError Unit := do
  let a ← authority.foldlM AuthorityScan.push {}
  if a.opened != a.closed || 1 < a.colons || a.endsWithAt || a.percent then throw .badAuthority

def endsAuthority (c : Char) : Bool := c == '/' || c == '?' || c == '#'

/-- A scheme is what stands before `://`, if it is made of scheme characters. Those three characters
alone are no URI with a scheme. The two usual schemes are written in lower case and any other as it
is given. -/
def splitScheme (s : List Char) : Except UriError (Option (List Char) × List Char) :=
  let isSchemeChar (c : Char) := isAlphanumeric c || c == '+' || c == '-' || c == '.' || c == '~'
  let scheme := s.takeWhile isSchemeChar
  match s.drop scheme.length with
  | ':' :: '/' :: '/' :: rest =>
    if s.length ≤ 3 then .ok (none, s)
    else if lower scheme = "http".toList || lower scheme = "https".toList then
      .ok (some (lower scheme), rest)
    else if maxSchemeLength < scheme.length then .error .schemeTooLong
    else .ok (some scheme, rest)
  | _ => .ok (none, s)

/-- A text of one character that is neither a slash nor a star is an authority or nothing, so what
would end an authority is a wrong character there. -/
def parseWhole (s : List Char) : Except UriError Uri := do
  let (scheme, rest) ← splitScheme s
  if rest.isEmpty then throw .empty
  let authority := rest.takeWhile (!endsAuthority ·)
  checkAuthority authority
  let after := rest.drop authority.length
  match scheme with
  | none =>
    if after.isEmpty then return .authorityOnly authority
    else throw (if s.length = 1 then .badCharacter else .badFormat)
  | some scheme =>
    if authority.isEmpty then throw .badFormat
    return .absolute scheme authority (← Target.parse after)

def parse (text : String) : Except UriError Uri :=
  let s := text.toList
  if maxLength < (utf8 s).length then .error .tooLong
  else match s with
    | [] => .error .empty
    | ['*'] => .ok (.pathOnly ⟨['*'], none⟩)
    | '/' :: _ => (Target.parse s).map .pathOnly
    | _ => parseWhole s

end Uri

end RequestTrail.Http
