import RequestTrail.Multipart
import RequestTrail.Normalizer

/-!
# Trails

A recorded request as one line, and a sequence of records as normalized lines.
-/
namespace RequestTrail

/-- Method and URI, and after them the object name that an upload carries in its body. -/
def Record.canonical (r : Record) : String :=
  r.method ++ ":" ++ r.uri ++ match r.objectName? with
    | some name => ":" ++ name
    | none => ""

def render (requests : List Record) : List String :=
  normalize (requests.map Record.canonical)

theorem getElem?_render (requests : List Record) (position : Nat) :
    (render requests)[position]? =
      requests[position]?.map fun r => normalizeAt position r.canonical := by
  rw [render, normalize, List.getElem?_mapIdx, List.getElem?_map, Option.map_map]
  rfl

end RequestTrail
