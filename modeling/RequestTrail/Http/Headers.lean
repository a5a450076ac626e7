import RequestTrail.Text.Ascii

/-!
# Header multimap

Header names in lower case, each with its values in the order in which they were added. Names stand
in the order in which they were first seen, until one is removed: the last name then takes its
place.
-/
namespace RequestTrail.Http

structure Header where
  name : String
  values : List Bytes
deriving DecidableEq, Repr

structure Headers where
  entries : List Header := []
deriving DecidableEq, Repr

namespace Headers

def empty : Headers := ⟨[]⟩

def canonicalName (name : String) : String := String.ofList (Text.lower name.toList)

/-- Adds a value at the end of its name's values, or a new name at the end. -/
def append (h : Headers) (name : String) (value : Bytes) : Headers :=
  let name := canonicalName name
  if h.entries.any (·.name = name) then
    ⟨h.entries.map fun e => if e.name = name then { e with values := e.values ++ [value] } else e⟩
  else ⟨h.entries ++ [⟨name, [value]⟩]⟩

/-- Leaves one value under the name. A known name keeps its place. -/
def insert (h : Headers) (name : String) (value : Bytes) : Headers :=
  let name := canonicalName name
  if h.entries.any (·.name = name) then
    ⟨h.entries.map fun e => if e.name = name then { e with values := [value] } else e⟩
  else ⟨h.entries ++ [⟨name, [value]⟩]⟩

/-- Drops the name with all its values. The last name moves into the gap. -/
def erase (h : Headers) (name : String) : Headers :=
  let name := canonicalName name
  let before := h.entries.takeWhile (·.name ≠ name)
  match h.entries.dropWhile (·.name ≠ name) with
  | [] => h
  | _ :: after => match after.getLast? with
    | none => ⟨before⟩
    | some last => ⟨before ++ last :: after.dropLast⟩

/-- Every name with each of its values, in order. -/
def toList (h : Headers) : List (String × Bytes) :=
  h.entries.flatMap fun e => e.values.map (e.name, ·)

def ofList (pairs : List (String × Bytes)) : Headers :=
  pairs.foldl (fun h p => h.append p.1 p.2) empty

end Headers

end RequestTrail.Http
