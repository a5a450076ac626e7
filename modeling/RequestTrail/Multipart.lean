import RequestTrail.Json.Value
import RequestTrail.Record
import RequestTrail.Text.Blank

/-!
# Multipart uploads

A `multipart/related` upload carries the object's metadata in the first part of its body and the
content in the second. Only the first part is read, so the content may be any bytes.
-/
namespace RequestTrail.Multipart

open Text

def isRelated (contentType : List Char) : Bool :=
  "multipart/related".toList.isPrefixOf (lower (trimStart contentType))

/-- The value of one parameter if its name is `boundary`. -/
def boundaryOf? (parameter : List Char) : Option (List Char) := do
  let (name, value) ← cutAtFirst ['='] parameter
  if sameName (trim name) "boundary".toList then some (trimBy (· == '"') (trim value)) else none

/-- The first boundary among what semicolons separate. Blanks and quotation marks around it do not
belong to it. -/
def boundary? (contentType : List Char) : Option (List Char) :=
  (fields ';' contentType).findSome? boundaryOf?

def delimiter (boundary : List Char) : Bytes := utf8 ('-' :: '-' :: boundary)

/-- Where the first part starts, and its length: from after the first delimiter up to the next, or
to the end of the body. -/
def firstPartSpan? (delimiter body : Bytes) : Option (Nat × Nat) := do
  let start := (← firstIndex delimiter body) + delimiter.length
  let rest := body.drop start
  return (start, (firstIndex delimiter rest).getD rest.length)

def firstPart? (delimiter body : Bytes) : Option Bytes := do
  let (start, length) ← firstPartSpan? delimiter body
  return (body.drop start).take length

/-- The metadata of a part: all of it if it starts with a brace, and otherwise what follows the
first blank line. A line break of one kind is tried before the other. -/
def metadata? (part : List Char) : Option (List Char) :=
  match part with
  | '{' :: _ => some part
  | _ => (cutAtFirst "\r\n\r\n".toList part <|> cutAtFirst "\n\n".toList part).map (·.2)

def objectNameIn? (boundary : List Char) (body : Bytes) : Option String := do
  let part ← firstPart? (delimiter boundary) body
  let metadata ← metadata? (trim (← Utf8.decode? part))
  let value ← (Json.Value.parse (utf8 (trim metadata))).toOption
  (← value.member? "name").string?

end Multipart

/-- The name in the metadata of a multipart upload. -/
def Record.objectName? (r : Record) : Option String := do
  let contentType := (← r.header? "content-type").toList
  if Multipart.isRelated contentType then
    Multipart.objectNameIn? (← Multipart.boundary? contentType) r.body
  else none

end RequestTrail
