import RequestTrail.Text.Ascii

/-!
# Object names as path segments

The form encoding of a name: letters, digits and `*-._` stand for themselves, a space is `+`, and
any other byte of the UTF-8 form is `%` and two upper-case digits. `decode?` reads such a text back
to bytes. It is total on all texts of plus signs, escapes and other characters, and so also reads
texts that `encode` never writes.
-/
namespace RequestTrail.ObjectName

open Text

/-- The characters that stand for themselves. -/
def isPlain (c : Char) : Bool := isAlphanumeric c || c == '*' || c == '-' || c == '.' || c == '_'

def encodeByte (b : UInt8) : List Char :=
  let c := Char.ofNat b.toNat
  if isPlain c then [c]
  else if c = ' ' then ['+']
  else ['%', hexDigitUpper (b.toNat / 16), hexDigitUpper (b.toNat % 16)]

def encodeBytes (bytes : Bytes) : List Char := bytes.flatMap encodeByte

def encode (name : String) : String := String.ofList (encodeBytes (bytes name))

/-- Bytes of a form value. A percent sign that opens no escape has no reading. -/
def decode? : List Char → Option Bytes
  | [] => some []
  | '+' :: rest => (decode? rest).map (byte ' ' :: ·)
  | '%' :: high :: low :: rest => do
    let h ← hexValue? high
    let l ← hexValue? low
    return (16 * h + l).toUInt8 :: (← decode? rest)
  | c :: rest => if c = '%' then none else (decode? rest).map (String.utf8EncodeChar c ++ ·)

end RequestTrail.ObjectName
