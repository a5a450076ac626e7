import RequestTrail.Json.Number
import RequestTrail.Json.Quoted

/-!
# Passing over a value

The members that no reader asks for are checked for syntax and dropped. Numbers may have any size,
escapes need not pair, and containers may be nested to any depth, so what is open is kept on a
stack.
-/
namespace RequestTrail.Json

def isSpace (b : UInt8) : Bool := b == 0x20 || b == 0x09 || b == 0x0A || b == 0x0D

def skipSpace (s : Bytes) : Bytes := s.dropWhile isSpace

/-- Reads the rest of a word whose first letter has been seen. -/
def readWord : (word : Bytes) → Bytes → Except ReadFault Bytes
  | [], s => .ok s
  | _ :: _, [] => .error .endOfValue
  | w :: word, b :: rest => if w == b then readWord word rest else .error .badWord

def wordNull : Bytes := Text.utf8 "ull".toList

def wordTrue : Bytes := Text.utf8 "rue".toList

def wordFalse : Bytes := Text.utf8 "alse".toList

def skipExponent (s : Bytes) : Except ReadFault Bytes :=
  let s := match s with
    | 0x2B :: rest => rest
    | 0x2D :: rest => rest
    | _ => s
  if s.head?.any isDigit then .ok (s.dropWhile isDigit) else .error .badNumber

/-- What may follow the digits of a number: an exponent or nothing. -/
def skipScale : Bytes → Except ReadFault Bytes
  | 0x65 :: rest => skipExponent rest
  | 0x45 :: rest => skipExponent rest
  | s => .ok s

/-- Passes over a number after its sign. -/
def skipUnsigned (s : Bytes) : Except ReadFault Bytes :=
  match s with
  | [] => .error .badNumber
  | first :: more =>
    if !isDigit first then .error .badNumber
    else if first == 0x30 && more.head?.any isDigit then .error .badNumber
    else match s.dropWhile isDigit with
      | 0x2E :: rest =>
        if rest.head?.any isDigit then skipScale (rest.dropWhile isDigit)
        else .error .badNumber
      | rest => skipScale rest

inductive Container where
  | list
  | object
deriving DecidableEq, Repr

/-- What the front of a text holds: a value with no parts, or the opening of a container. -/
inductive Front where
  | value (rest : Bytes)
  | opens (c : Container) (rest : Bytes)

def readFront (s : Bytes) : Except ReadFault Front :=
  match s with
  | [] => .error .endOfValue
  | b :: rest =>
    match Char.ofNat b.toNat with
    | 'n' => (readWord wordNull rest).map .value
    | 't' => (readWord wordTrue rest).map .value
    | 'f' => (readWord wordFalse rest).map .value
    | '"' => (skipText rest).map .value
    | '-' => (skipUnsigned rest).map .value
    | '[' => .ok (.opens .list rest)
    | '{' => .ok (.opens .object rest)
    | _ => if isDigit b then (skipUnsigned s).map .value else .error .noValue

/-- Reads a key and its colon. -/
def skipKey (s : Bytes) : Except ReadFault Bytes :=
  match skipSpace s with
  | [] => .error .endOfObject
  | 0x22 :: rest => do
    match skipSpace (← skipText rest) with
    | [] => throw .endOfObject
    | 0x3A :: rest => return rest
    | _ => throw .noColon
  | _ => .error .keyNotString

/-- Where the next part of a container starts, after its key in an object. -/
def Container.nextPart (c : Container) (s : Bytes) : Except ReadFault Bytes :=
  match c with
  | .list => .ok s
  | .object => skipKey s

def Container.closing : Container → UInt8
  | .list => 0x5D
  | .object => 0x7D

def Container.unclosed : Container → ReadFault
  | .list => .unclosedList
  | .object => .unclosedObject

def Container.ended : Container → ReadFault
  | .list => .endOfList
  | .object => .endOfObject

/-- Closes containers as long as closing marks follow, then finds the start of the next part of the
innermost one that stays open. No part is left once the outermost one is closed. -/
def closeAll : List Container → Bytes → Except ReadFault (List Container × Bytes)
  | [], s => .ok ([], s)
  | c :: outer, s =>
    match skipSpace s with
    | [] => .error c.ended
    | b :: rest =>
      if b == c.closing then closeAll outer rest
      else if b == 0x2C then do return (c :: outer, ← c.nextPart rest)
      else .error c.unclosed

/-- Just after an opening mark: the container is empty, or its first part starts. -/
def enter (c : Container) (outer : List Container) (s : Bytes) :
    Except ReadFault (List Container × Bytes) :=
  match skipSpace s with
  | [] => .error c.ended
  | b :: rest =>
    if b == c.closing then closeAll outer rest
    else do return (c :: outer, ← c.nextPart s)

/-- Passes over values until the stack of open containers is empty. Each round takes at least one
byte, so `fuel` may be the length of the text. -/
def skipAll : (fuel : Nat) → List Container → Bytes → Except ReadFault Bytes
  | 0, _, _ => .error .endOfValue
  | fuel + 1, stack, s => do
    let (stack, rest) ← match ← readFront (skipSpace s) with
      | .value rest => closeAll stack rest
      | .opens c rest => enter c stack rest
    if stack.isEmpty then return rest else skipAll fuel stack rest

def skipValue (s : Bytes) : Except ReadFault Bytes := skipAll (s.length + 1) [] s

end RequestTrail.Json
