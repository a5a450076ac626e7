import RequestTrail.Text.Ascii

/-!
# Writing JSON

Strings, lists and objects in two layouts. The compact one has no blanks. The indented one has a
line for each part, two spaces for each level, and nothing between the marks of an empty container.
-/
namespace RequestTrail.Json

open Text

inductive Layout where
  | compact
  | indented
deriving DecidableEq, Repr

/-- What stands before each part and before the closing mark of a container. -/
def Layout.lineBreak (layout : Layout) (level : Nat) : List Char :=
  match layout with
  | .compact => []
  | .indented => '\n' :: List.replicate (2 * level) ' '

def Layout.colon : Layout → List Char
  | .compact => [':']
  | .indented => [':', ' ']

def Layout.container (layout : Layout) (level : Nat) (opening closing : Char)
    (parts : List (List Char)) : List Char :=
  if parts.isEmpty then [opening, closing]
  else
    opening :: List.intercalate [','] (parts.map (layout.lineBreak (level + 1) ++ ·)) ++
      layout.lineBreak level ++ [closing]

def escapeChar (c : Char) : List Char :=
  match c with
  | '"' => ['\\', '"']
  | '\\' => ['\\', '\\']
  | '\x08' => ['\\', 'b']
  | '\x0c' => ['\\', 'f']
  | '\n' => ['\\', 'n']
  | '\r' => ['\\', 'r']
  | '\t' => ['\\', 't']
  | c => if c.toNat < 0x20 then '\\' :: 'u' :: '0' :: '0' :: hexByte (byte c) else [c]

def quoted (s : String) : List Char := '"' :: s.toList.flatMap escapeChar ++ ['"']

def Layout.list (layout : Layout) (level : Nat) (parts : List (List Char)) : List Char :=
  layout.container level '[' ']' parts

def Layout.object (layout : Layout) (level : Nat) (members : List (String × List Char)) :
    List Char :=
  layout.container level '{' '}' (members.map fun m => quoted m.1 ++ layout.colon ++ m.2)

end RequestTrail.Json
