import RequestTrail.Json.Skip

/-!
# Reading a JSON text into a shape

The pieces from which a reader for one shape is put together: strings, bytes, the parts of a list,
the keys of an object. Each tells the first fault in reading order. A value of the wrong kind is
told by its kind, and the inside of a container is then not looked at.
-/
namespace RequestTrail.Json

/-- What a value at the front of a text is, as it is told where another was expected. -/
def foundAt (s : Bytes) : Except ReadFault Found :=
  match s with
  | [] => .error .noValue
  | b :: rest =>
    match Char.ofNat b.toNat with
    | 'n' => (readWord wordNull rest).map fun _ => .null
    | 't' => (readWord wordTrue rest).map fun _ => .boolean true
    | 'f' => (readWord wordFalse rest).map fun _ => .boolean false
    | '"' => (readText rest).map fun r => .string r.1
    | '[' => .ok .sequence
    | '{' => .ok .map
    | _ =>
      if b == 0x2D || isDigit b then
        (readNumber s).map fun r => match r.1 with
          | .integer n => .integer n
          | .real x => .real x
      else .error .noValue

def refuse {α : Type} (expected : String) (s : Bytes) : Except ReadFault α := do
  throw (.wrongType (← foundAt s) expected)

/-- Reads one more part of a list, or finds the closing mark and leaves it. -/
def readNext {α : Type} (item : Reader α) (first : Bool) (s : Bytes) :
    Except ReadFault (Option α × Bytes) :=
  let read (s : Bytes) := (item s).map fun r => (some r.1, r.2)
  match skipSpace s with
  | [] => .error .endOfList
  | 0x5D :: rest => .ok (none, 0x5D :: rest)
  | b :: rest =>
    if first then read (b :: rest)
    else if b == 0x2C then
      match skipSpace rest with
      | [] => .error .endOfValue
      | 0x5D :: _ => .error .trailingComma
      | rest => read rest
    else .error .unclosedList

/-- Ends a list that has all its parts. -/
def closeList (s : Bytes) : Except ReadFault Bytes :=
  match skipSpace s with
  | [] => .error .endOfList
  | 0x5D :: rest => .ok rest
  | 0x2C :: rest =>
    if (skipSpace rest).head? = some 0x5D then .error .trailingComma
    else .error .trailingCharacters
  | _ => .error .trailingCharacters

/-- Reads the parts of a list up to its end. Each round but the last takes a byte, so `fuel` may be
more than the length of the text. -/
def readAll {α : Type} (item : Reader α) : (fuel : Nat) → (first : Bool) → Reader (List α)
  | 0, _, _ => .error .endOfList
  | fuel + 1, first, s => do
    match ← readNext item first s with
    | (none, rest) => return ([], ← closeList rest)
    | (some x, rest) =>
      let (xs, rest) ← readAll item fuel false rest
      return (x :: xs, rest)

/-- Reads the part that comes after `index` others, in a list that has to have it. -/
def readPart {α : Type} (item : Reader α) (index : Nat) (expected : String) : Reader α :=
  fun s => do
    match ← readNext item (index == 0) s with
    | (none, _) => throw (.wrongLength index expected)
    | (some x, rest) => return (x, rest)

/-- Reads a list of any length. -/
def readListOf {α : Type} (item : Reader α) (expected : String) : Reader (List α) := fun s =>
  match skipSpace s with
  | [] => .error .endOfValue
  | 0x5B :: rest => readAll item (rest.length + 1) true rest
  | s => refuse expected s

def readString : Reader String := fun s =>
  match skipSpace s with
  | [] => .error .endOfValue
  | 0x22 :: rest => readText rest
  | s => refuse "a string" s

def readByte : Reader UInt8 := fun s =>
  match skipSpace s with
  | [] => .error .endOfValue
  | b :: rest =>
    if b == 0x2D || isDigit b then do
      match ← readNumber (b :: rest) with
      | (.integer n, rest) =>
        if 0 ≤ n && n < 256 then return (n.toNat.toUInt8, rest) else throw (.wrongValue n "u8")
      | (.real x, _) => throw (.wrongType (.real x) "u8")
    else refuse "u8" (b :: rest)

/-- Reads the colon after a key. -/
def readColon (s : Bytes) : Except ReadFault Bytes :=
  match skipSpace s with
  | [] => .error .endOfObject
  | 0x3A :: rest => .ok rest
  | _ => .error .noColon

/-- Finds the opening mark of the next key and passes it, or passes the closing mark. -/
def nextKey (first : Bool) (s : Bytes) : Except ReadFault (Bool × Bytes) :=
  match skipSpace s with
  | [] => .error .endOfObject
  | 0x7D :: rest => .ok (false, rest)
  | b :: rest =>
    if first then (if b == 0x22 then .ok (true, rest) else .error .keyNotString)
    else if b == 0x2C then
      match skipSpace rest with
      | [] => .error .endOfValue
      | 0x22 :: rest => .ok (true, rest)
      | 0x7D :: _ => .error .trailingComma
      | _ => .error .keyNotString
    else .error .unclosedObject

/-- Nothing may follow a document but blanks. -/
def readDocument {α : Type} (item : Reader α) (s : Bytes) : Except ReadFault α := do
  let (x, rest) ← item s
  if (skipSpace rest).isEmpty then return x else throw .trailingCharacters

end RequestTrail.Json
