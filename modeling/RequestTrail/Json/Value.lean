import RequestTrail.Json.Skip

/-!
# JSON values

Any JSON text as a value. Containers may be nested to a depth of 127. Of members with one key the
last is the one that counts.
-/
namespace RequestTrail.Json

inductive Value where
  | null
  | boolean (b : Bool)
  | number (n : Number)
  | string (s : String)
  | list (parts : List Value)
  | object (members : List (String × Value))

namespace Value

def maxDepth : Nat := 127

/-- Reads the parts of a list after its first has been found to be there. -/
def readParts (part : Reader Value) : (fuel : Nat) → Reader (List Value)
  | 0, _ => .error .endOfList
  | fuel + 1, s => do
    let (v, rest) ← part s
    match skipSpace rest with
    | [] => throw .endOfList
    | 0x5D :: rest => return ([v], rest)
    | 0x2C :: rest =>
      match skipSpace rest with
      | [] => throw .endOfValue
      | 0x5D :: _ => throw .trailingComma
      | _ =>
        let (vs, rest) ← readParts part fuel rest
        return (v :: vs, rest)
    | _ => throw .unclosedList

/-- Reads a key, its colon and its value. -/
def readMember (part : Reader Value) : Reader (String × Value)
  | 0x22 :: rest => do
    let (key, rest) ← readText rest
    match skipSpace rest with
    | [] => throw .endOfObject
    | 0x3A :: rest =>
      let (v, rest) ← part rest
      return ((key, v), rest)
    | _ => throw .noColon
  | _ => .error .keyNotString

def readMembers (part : Reader Value) : (fuel : Nat) → Reader (List (String × Value))
  | 0, _ => .error .endOfObject
  | fuel + 1, s => do
    let (m, rest) ← readMember part (skipSpace s)
    match skipSpace rest with
    | [] => throw .endOfObject
    | 0x7D :: rest => return ([m], rest)
    | 0x2C :: rest =>
      match skipSpace rest with
      | [] => throw .endOfValue
      | 0x7D :: _ => throw .trailingComma
      | _ =>
        let (ms, rest) ← readMembers part fuel rest
        return (m :: ms, rest)
    | _ => throw .unclosedObject

/-- Reads a value with no parts. -/
def readScalar (s : Bytes) : Except ReadFault (Value × Bytes) :=
  match s with
  | [] => .error .endOfValue
  | b :: rest =>
    match Char.ofNat b.toNat with
    | 'n' => (readWord wordNull rest).map (.null, ·)
    | 't' => (readWord wordTrue rest).map (.boolean true, ·)
    | 'f' => (readWord wordFalse rest).map (.boolean false, ·)
    | '"' => (readText rest).map fun r => (.string r.1, r.2)
    | _ =>
      if b == 0x2D || isDigit b then (readNumber s).map fun r => (.number r.1, r.2)
      else .error .noValue

def readList (part : Reader Value) (s : Bytes) : Except ReadFault (Value × Bytes) :=
  match skipSpace s with
  | [] => .error .endOfList
  | 0x5D :: rest => .ok (.list [], rest)
  | _ => (readParts part (s.length + 1) s).map fun r => (.list r.1, r.2)

def readObject (part : Reader Value) (s : Bytes) : Except ReadFault (Value × Bytes) :=
  match skipSpace s with
  | [] => .error .endOfObject
  | 0x7D :: rest => .ok (.object [], rest)
  | _ => (readMembers part (s.length + 1) s).map fun r => (.object r.1, r.2)

/-- Reads a value in which at most `depth` containers are nested. -/
def read : (depth : Nat) → Reader Value
  | 0, s =>
    match skipSpace s with
    | 0x5B :: _ => .error .tooDeep
    | 0x7B :: _ => .error .tooDeep
    | s => readScalar s
  | depth + 1, s =>
    match skipSpace s with
    | 0x5B :: rest => readList (read depth) rest
    | 0x7B :: rest => readObject (read depth) rest
    | s => readScalar s

/-- The value that a whole text writes. -/
def parse (s : Bytes) : Except ReadFault Value := do
  let (v, rest) ← read maxDepth s
  if (skipSpace rest).isEmpty then return v else throw .trailingCharacters

/-- The last member under the key, of an object. -/
def member? (v : Value) (key : String) : Option Value :=
  match v with
  | .object members => (members.reverse.find? (·.1 = key)).map (·.2)
  | _ => none

def string? : Value → Option String
  | .string s => some s
  | _ => none

end Value

end RequestTrail.Json
