import RequestTrail.Text.Readable
import RequestTrail.Text.Shortest

/-!
# Why a JSON text is refused

The first fault in reading order: of the syntax, or of a value that is not what its place asks for.
-/
namespace RequestTrail.Json

/-- What was found where something else was expected. -/
inductive Found where
  | null
  | boolean (b : Bool)
  | integer (n : Int)
  | real (x : Float)
  | string (s : String)
  | sequence
  | map

inductive ReadFault where
  | endOfValue
  | endOfList
  | endOfObject
  | endOfString
  | noValue
  | badWord
  | noColon
  | unclosedList
  | unclosedObject
  | keyNotString
  | trailingComma
  | trailingCharacters
  | badNumber
  | numberOutOfRange
  | badEscape
  | unpairedSurrogate
  | loneSurrogate
  | controlCharacter
  | notUnicode
  | tooDeep
  | missingField (name : String)
  | duplicateField (name : String)
  | wrongType (found : Found) (expected : String)
  | wrongValue (n : Int) (expected : String)
  | wrongLength (n : Nat) (expected : String)

def Found.text : Found → String
  | .null => "null"
  | .boolean b => "boolean `" ++ (if b then "true" else "false") ++ "`"
  | .integer n => "integer `" ++ toString n ++ "`"
  | .real x => "floating point `" ++ Text.shortest x ++ "`"
  | .string s => "string " ++ Text.quotedForReading s
  | .sequence => "sequence"
  | .map => "map"

def ReadFault.message : ReadFault → String
  | .endOfValue => "EOF while parsing a value"
  | .endOfList => "EOF while parsing a list"
  | .endOfObject => "EOF while parsing an object"
  | .endOfString => "EOF while parsing a string"
  | .noValue => "expected value"
  | .badWord => "expected ident"
  | .noColon => "expected `:`"
  | .unclosedList => "expected `,` or `]`"
  | .unclosedObject => "expected `,` or `\x7d`"
  | .keyNotString => "key must be a string"
  | .trailingComma => "trailing comma"
  | .trailingCharacters => "trailing characters"
  | .badNumber => "invalid number"
  | .numberOutOfRange => "number out of range"
  | .badEscape => "invalid escape"
  | .unpairedSurrogate => "unexpected end of hex escape"
  | .loneSurrogate => "lone leading surrogate in hex escape"
  | .controlCharacter => "control character (\\u0000-\\u001F) found while parsing a string"
  | .notUnicode => "invalid unicode code point"
  | .tooDeep => "recursion limit exceeded"
  | .missingField name => "missing field `" ++ name ++ "`"
  | .duplicateField name => "duplicate field `" ++ name ++ "`"
  | .wrongType found expected => "invalid type: " ++ found.text ++ ", expected " ++ expected
  | .wrongValue n expected =>
    "invalid value: integer `" ++ toString n ++ "`, expected " ++ expected
  | .wrongLength n expected => "invalid length " ++ toString n ++ ", expected " ++ expected

/-- Reads a value from the front of a text and gives back the rest. -/
abbrev Reader (α : Type) := Bytes → Except ReadFault (α × Bytes)

end RequestTrail.Json
