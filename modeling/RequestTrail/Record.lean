import RequestTrail.Http.Request
import RequestTrail.Text.Utf8

/-!
# Recorded requests

One outgoing request as it stood right before it was handed to the transport. Nothing ties the
fields of a record to what a request may hold, since records are also read from files.
-/
namespace RequestTrail

open Text

structure Record where
  method : String
  uri : String
  headers : List (String × String)
  body : Bytes
deriving DecidableEq, Repr

namespace Record

/-- The first value under the name, in any case. -/
def header? (r : Record) (name : String) : Option String :=
  (r.headers.find? fun h => sameName h.1.toList name.toList).map (·.2)

/-- Header values that are no text keep their readable part. -/
def ofRequest (q : Http.Request) : Record where
  method := q.method
  uri := q.uri.text
  headers := q.headers.toList.map fun h => (h.1, String.ofList (Utf8.decodeLossy h.2))
  body := q.body

def summary (r : Record) : String := r.method ++ " " ++ r.uri

end Record

end RequestTrail
