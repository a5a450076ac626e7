import RequestTrail.Json.Writer
import RequestTrail.Record

/-!
# Records as JSON

A record is an object of its four fields. Headers are lists of two strings, and the body is a list
of the numbers of its bytes.
-/
namespace RequestTrail

open Json

namespace Record

def writeAt (layout : Layout) (level : Nat) (r : Record) : List Char :=
  let header (h : String × String) := layout.list (level + 2) [quoted h.1, quoted h.2]
  layout.object level [
    ("method", quoted r.method),
    ("uri", quoted r.uri),
    ("headers", layout.list (level + 1) (r.headers.map header)),
    ("body", layout.list (level + 1) (r.body.map fun b => Nat.toDigits 10 b.toNat))]

/-- The compact text of one record. -/
def toJson (r : Record) : String := String.ofList (r.writeAt .compact 0)

/-- The indented text of a list of records. -/
def listToJson (records : List Record) : String :=
  String.ofList (Layout.indented.list 0 (records.map (writeAt .indented 1)))

end Record

end RequestTrail
