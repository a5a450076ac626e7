import RequestTrail.RootUrl.Domain.Label
import RequestTrail.Text.Utf8

/-!
# Domain names

What becomes of a host name before it is judged: escapes are read, characters are folded, and
letters and marks are composed. A name is refused if it has a character that no domain may hold, or
a label that is not in order.
-/
namespace RequestTrail.RootUrl

open Text

/-- The bytes of a text with its escapes read. A percent sign that opens no escape is kept. -/
def unescape : List Char → Bytes
  | [] => []
  | '%' :: high :: low :: rest =>
    match hexValue? high, hexValue? low with
    | some h, some l => (16 * h + l).toUInt8 :: unescape rest
    | _, _ => byte '%' :: unescape (high :: low :: rest)
  | c :: rest => String.utf8EncodeChar c ++ unescape rest

/-- Characters with a meaning of their own in a URL, which no host may hold. -/
def isReserved (c : Char) : Bool :=
  ['#', '/', ':', '<', '>', '?', '@', '[', '\\', ']', '^', '|'].contains c

/-- Characters of ASCII that no domain may hold. -/
def isForbidden (c : Char) : Bool :=
  c.toNat ≤ 0x20 || c.toNat == 0x7F || c == '%' || isReserved c

/-- Each label by itself is in order, and if anything in the name is written from right to left, all
labels keep to their direction. -/
def areLabels (labels : List (List Char)) : Bool :=
  labels.all isLabel && (!labels.any (·.any isRightToLeft) || labels.all directionFits)

/-- The prepared name, unless the name may not be a domain. -/
def prepare? (host : List Char) : Option (List Char) := do
  let name ← Utf8.decode? (unescape host)
  let folded ← name.mapM fold?
  let prepared := composed folded.flatten
  let labels ← (fields '.' prepared).mapM meaning?
  if prepared.any isForbidden || !areLabels labels then none else some prepared

end RequestTrail.RootUrl
