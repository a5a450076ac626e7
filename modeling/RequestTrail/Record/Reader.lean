import RequestTrail.Json.Reader
import RequestTrail.Record

/-!
# Records from JSON

A record is read from an object with its four fields in any order, among others that are passed
over, or from a list of the four. A body is read from numbers or from a string, whose bytes it then
is.
-/
namespace RequestTrail

open Json

namespace Record

/-- Numbers of bytes, or a string. -/
def readBody : Reader Bytes := fun s =>
  match skipSpace s with
  | [] => .error .endOfValue
  | 0x22 :: rest => readBytes rest
  | 0x5B :: rest => readAll readByte (rest.length + 1) true rest
  | s => refuse "byte array" s

def readHeader : Reader (String × String) := fun s =>
  let expected := "a tuple of size 2"
  match skipSpace s with
  | [] => .error .endOfValue
  | 0x5B :: rest => do
    let (name, rest) ← readPart readString 0 expected rest
    let (value, rest) ← readPart readString 1 expected rest
    return ((name, value), ← closeList rest)
  | s => refuse expected s

def readHeaders : Reader (List (String × String)) := readListOf readHeader "a sequence"

/-- The fields that an object has shown so far. -/
structure Fields where
  method : Option String := none
  uri : Option String := none
  headers : Option (List (String × String)) := none
  body : Option Bytes := none

/-- The first field that is missing is told. -/
def Fields.complete (f : Fields) : Except ReadFault Record := do
  let need {α : Type} (name : String) (field : Option α) : Except ReadFault α :=
    match field with
    | some x => .ok x
    | none => .error (.missingField name)
  return ⟨← need "method" f.method, ← need "uri" f.uri, ← need "headers" f.headers,
    ← need "body" f.body⟩

/-- Reads the value of a field that has not been seen before. -/
def readField {α : Type} (name : String) (seen : Option α) (item : Reader α) : Reader α := fun s =>
  if seen.isSome then .error (.duplicateField name) else do item (← readColon s)

def Fields.readMember (f : Fields) (key : String) : Reader Fields := fun s =>
  match key with
  | "method" => do
    let (x, rest) ← readField key f.method readString s
    return ({ f with method := some x }, rest)
  | "uri" => do
    let (x, rest) ← readField key f.uri readString s
    return ({ f with uri := some x }, rest)
  | "headers" => do
    let (x, rest) ← readField key f.headers readHeaders s
    return ({ f with headers := some x }, rest)
  | "body" => do
    let (x, rest) ← readField key f.body readBody s
    return ({ f with body := some x }, rest)
  | _ => do return (f, ← skipValue (← readColon s))

/-- Reads members up to the end of the object. -/
def readFields : (fuel : Nat) → (first : Bool) → Fields → Reader Fields
  | 0, _, _, _ => .error .endOfObject
  | fuel + 1, first, f, s => do
    match ← nextKey first s with
    | (false, rest) => return (f, rest)
    | (true, rest) =>
      let (key, rest) ← readText rest
      let (f, rest) ← f.readMember key rest
      readFields fuel false f rest

def readRecord : Reader Record := fun s =>
  let expected := "struct RecordedRequest with 4 elements"
  match skipSpace s with
  | [] => .error .endOfValue
  | 0x5B :: rest => do
    let (method, rest) ← readPart readString 0 expected rest
    let (uri, rest) ← readPart readString 1 expected rest
    let (headers, rest) ← readPart readHeaders 2 expected rest
    let (body, rest) ← readPart readBody 3 expected rest
    return (⟨method, uri, headers, body⟩, ← closeList rest)
  | 0x7B :: rest => do
    let (fields, rest) ← readFields (rest.length + 1) true {} rest
    return (← fields.complete, rest)
  | s => refuse "struct RecordedRequest" s

def ofJson (s : Bytes) : Except ReadFault Record := readDocument readRecord s

def listOfJson (s : Bytes) : Except ReadFault (List Record) :=
  readDocument (readListOf readRecord "a sequence") s

end Record

end RequestTrail
