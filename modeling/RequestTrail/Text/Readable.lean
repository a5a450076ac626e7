import RequestTrail.Text.Ascii
import RequestTrail.Text.Unseen

/-!
# Text in quotes for a reader

A text between quotation marks in which everything can be seen: marks, backslashes, controls,
invisible characters and characters that would join the one before are escaped. A second form does
the same for bytes.
-/
namespace RequestTrail.Text

def readableChar (c : Char) : List Char :=
  match c with
  | '"' => ['\\', '"']
  | '\\' => ['\\', '\\']
  | '\t' => ['\\', 't']
  | '\r' => ['\\', 'r']
  | '\n' => ['\\', 'n']
  | '\x00' => ['\\', '0']
  | c =>
    if isUnseen c then '\\' :: 'u' :: '{' :: Nat.toDigits 16 c.toNat ++ ['}']
    else [c]

def quotedForReading (s : String) : String :=
  String.ofList ('"' :: s.toList.flatMap readableChar ++ ['"'])

/-- Bytes outside visible ASCII are written in hexadecimal. -/
def readableByte (b : UInt8) : List Char :=
  match Char.ofNat b.toNat with
  | '"' => ['\\', '"']
  | '\\' => ['\\', '\\']
  | '\t' => ['\\', 't']
  | '\r' => ['\\', 'r']
  | '\n' => ['\\', 'n']
  | '\x00' => ['\\', '0']
  | c => if 0x20 ≤ c.toNat && c.toNat < 0x7F then [c] else '\\' :: 'x' :: hexByte b

def bytesForReading (bytes : Bytes) : String :=
  String.ofList ('b' :: '"' :: bytes.flatMap readableByte ++ ['"'])

end RequestTrail.Text
