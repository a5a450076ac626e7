import RequestTrail.Http.Request
import RequestTrail.Text.Readable
import RequestTrail.Text.Utf8

/-!
# Requests in words

A request as one line for a reader, and its headers as they stand in a line of a log.
-/
namespace RequestTrail.Http

open Text

/-- Only quotation marks and bytes outside visible ASCII and the tab are escaped in a value. -/
def describeValueByte (b : UInt8) : List Char :=
  if b == 0x22 then ['\\', '"']
  else if (0x20 ≤ b && b < 0x7F) || b == 0x09 then [Char.ofNat b.toNat]
  else '\\' :: 'x' :: hexByte b

/-- A name is repeated for each of its values. -/
def Headers.describe (h : Headers) : String :=
  let entry (e : String × Bytes) : String :=
    quotedForReading e.1 ++ ": " ++ String.ofList ('"' :: e.2.flatMap describeValueByte ++ ['"'])
  "\x7b" ++ ", ".intercalate (h.toList.map entry) ++ "\x7d"

def Request.describe (q : Request) : String :=
  "Request \x7b method: " ++ q.method ++ ", uri: " ++ q.uri.text ++ ", version: " ++
    q.version.text ++ ", headers: " ++ q.headers.describe ++ ", body: " ++
    bytesForReading q.body ++ " \x7d"

/-- Names and values in order, the values as text as far as they are text. -/
def Headers.line (h : Headers) : String :=
  ",".intercalate <| h.toList.map fun e => e.1 ++ "=" ++ String.ofList (Utf8.decodeLossy e.2)

end RequestTrail.Http
