import RequestTrail.Http.Headers
import RequestTrail.Http.Uri

/-!
# HTTP requests

Requests as a client holds them, and how one is built from raw parts. A part that no request may
have refuses the whole: headers are judged first and in order, then the method, then the URI.
-/
namespace RequestTrail.Http

open Text

inductive Version where
  | http10
  | http11
  | http2
deriving DecidableEq, Repr

def Version.text : Version → String
  | .http10 => "HTTP/1.0"
  | .http11 => "HTTP/1.1"
  | .http2 => "HTTP/2.0"

structure Request where
  method : String
  uri : Uri
  version : Version := .http11
  headers : Headers := .empty
  body : Bytes := []
deriving DecidableEq, Repr

structure Response where
  status : Nat
  body : Bytes
deriving DecidableEq, Repr

inductive Refusal where
  | headerName
  | headerValue
  | method
  | uri (e : UriError)
deriving DecidableEq, Repr

def Refusal.message : Refusal → String
  | .headerName => "invalid HTTP header name"
  | .headerValue => "failed to parse header value"
  | .method => "invalid HTTP method"
  | .uri e => e.message

/-- The parts of a request before they are judged. -/
structure Draft where
  method : String
  uri : String
  version : Version := .http11
  headers : List (Bytes × Bytes) := []
  body : Bytes := []

def isTokenChar (c : Char) : Bool := isAlphanumeric c || "!#$%&'*+-.^_`|~".toList.contains c

def isToken (s : List Char) : Bool := !s.isEmpty && s.all isTokenChar

def isHeaderByte (b : UInt8) : Bool := (0x20 ≤ b && b != 0x7F) || b == 0x09

def maxNameLength : Nat := 65535

/-- Bytes past ASCII are no token characters, so they can be read as characters of their number. -/
def headerName? (name : Bytes) : Option String :=
  let chars := name.map fun b => Char.ofNat b.toNat
  if isToken chars && chars.length ≤ maxNameLength then some (String.ofList chars) else none

def addHeader (h : Headers) (header : Bytes × Bytes) : Except Refusal Headers :=
  match headerName? header.1 with
  | none => .error .headerName
  | some name => if header.2.all isHeaderByte then .ok (h.append name header.2) else .error .headerValue

def Request.ofDraft (d : Draft) : Except Refusal Request := do
  let headers ← d.headers.foldlM addHeader .empty
  if !isToken d.method.toList then throw .method
  match Uri.parse d.uri with
  | .error e => throw (.uri e)
  | .ok uri => return ⟨d.method, uri, d.version, headers, d.body⟩

end RequestTrail.Http
