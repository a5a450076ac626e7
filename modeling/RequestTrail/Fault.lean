import RequestTrail.Text.Ascii
import RequestTrail.Text.Search

/-!
# Faults

What can stop a send or an export, told apart by who refused. A fault keeps what went wrong. Where
in a text it went wrong is not part of it.
-/
namespace RequestTrail

open Text

inductive Origin where
  | rootUrl
  | initializer
  | interceptor
  | transport
  | serialization
deriving DecidableEq, Repr

structure Fault where
  origin : Origin
  detail : String
deriving DecidableEq, Repr

def Origin.headline : Origin → String
  | .rootUrl => "invalid root URL"
  | .initializer => "request initializer failed"
  | .interceptor => "execute interceptor failed"
  | .transport => "cannot send request"
  | .serialization => "cannot serialize recorded requests"

def Fault.message (f : Fault) : String := f.origin.headline ++ ": " ++ f.detail

/-- A number of lines or columns has at most 64 bits. -/
def isCount (digits : List Char) : Bool :=
  !digits.isEmpty && digits.all isDigit && (ofDigits 10 digits).any (· < 1 <<< 64)

/-- Whether a text is the rest of a place in a text, as `3 column 5`. -/
def isPlace (s : List Char) : Bool :=
  match fields ' ' s with
  | [line, word, column] => isCount line && String.ofList word = "column" && isCount column
  | _ => false

/-- A description without the place that it may name at its end, as ` at line 3 column 5`. -/
def withoutPlace (detail : String) : String :=
  match cutAtLast " at line ".toList detail.toList with
  | none => detail
  | some (before, after) => if isPlace after then String.ofList before else detail

/-- Only serialization reads texts, so only its descriptions name a place. -/
def Fault.ofDescription (origin : Origin) (description : String) : Fault :=
  match origin with
  | .serialization => ⟨origin, withoutPlace description⟩
  | _ => ⟨origin, description⟩

end RequestTrail
