import RequestTrail.Text.Ascii
import RequestTrail.Text.Search

/-!
# Tables of characters

A table gives values to the characters of some runs, as Unicode 17 has them. It is written as text,
an entry for each run in order: `5D0-5EA=R` gives `R` to the characters from U+05D0 to U+05EA,
`100-12E/2` is every second character from U+0100 to U+012E, and an entry without a minus sign is
one character. Main statement: what a search finds stands in the table at the character.
-/
namespace RequestTrail.Text

/-- Every `stride`-th character from `first` to `last`. -/
structure Run (α : Type) where
  first : Nat
  last : Nat
  stride : Nat
  value : α

/-- How far a character of a run stands behind the first one. -/
def Run.offset? {α : Type} (r : Run α) (c : Char) : Option Nat :=
  let offset := c.toNat - r.first
  if r.first ≤ c.toNat && c.toNat ≤ r.last && offset % r.stride == 0 then some offset else none

/-- Runs in order, of which none begins before the one before it ends. -/
abbrev Table (α : Type) := Array (Run α)

namespace Table

variable {α : Type}

/-- Halves the runs from `low` up to `high` until one is found whose ends enclose the character. -/
def search (t : Table α) (c : Char) (low high : Nat) : Option (Run α) :=
  if low < high then
    let middle := (low + high) / 2
    match t[middle]? with
    | none => none
    | some r =>
      if c.toNat < r.first then search t c low middle
      else if r.last < c.toNat then search t c (middle + 1) high
      else some r
  else none
termination_by high - low

/-- The value of a character, and its distance from the first character of its run. -/
def find? (t : Table α) (c : Char) : Option (α × Nat) := do
  let r ← search t c 0 t.size
  let offset ← r.offset? c
  return (r.value, offset)

def get? (t : Table α) (c : Char) : Option α := (find? t c).map (·.1)

def contains (t : Table α) (c : Char) : Bool := (find? t c).isSome

/-- The number that an entry writes in hexadecimal digits. -/
def codePoint (digits : List Char) : Nat := (ofDigits 16 digits).getD 0

def runOfText (value : List Char → α) (entry : List Char) : Run α :=
  let (characters, written) := (cutAtFirst ['='] entry).getD (entry, [])
  let (ends, stride) := (cutAtFirst ['/'] characters).getD (characters, ['1'])
  let (first, last) := (cutAtFirst ['-'] ends).getD (ends, ends)
  ⟨codePoint first, codePoint last, codePoint stride, value written⟩

/-- Entries are parted by spaces and line breaks. -/
def ofText (value : List Char → α) (text : String) : Table α :=
  let lines := (text.splitOn "\n").flatMap (·.splitOn " ")
  ((lines.filter (!·.isEmpty)).map fun entry => runOfText value entry.toList).toArray

/-- A table that says of characters only that they are in it. -/
def setOfText (text : String) : Table Unit := ofText (fun _ => ()) text

theorem search_sound {t : Table α} {c : Char} {low high : Nat} {r : Run α}
    (h : search t c low high = some r) : r ∈ t ∧ r.first ≤ c.toNat ∧ c.toNat ≤ r.last := by
  fun_induction search t c low high with
  | case1 => simp at h
  | case2 _ _ _ _ _ _ _ ih => exact ih h
  | case3 _ _ _ _ _ _ _ _ ih => exact ih h
  | case4 low high _ _ found here first last =>
    cases h
    exact ⟨Array.mem_of_getElem? here, by omega, by omega⟩
  | case5 => simp at h

/-- What is found stands in the table at the character. -/
theorem find?_sound {t : Table α} {c : Char} {value : α} {offset : Nat}
    (h : find? t c = some (value, offset)) :
    ∃ r ∈ t, r.value = value ∧ r.offset? c = some offset := by
  simp only [find?, Option.bind_eq_bind, Option.bind_eq_some_iff, Option.pure_def,
    Option.some.injEq, Prod.mk.injEq] at h
  obtain ⟨r, found, i, at_i, rfl, rfl⟩ := h
  exact ⟨r, (search_sound found).1, rfl, at_i⟩

end Table

end RequestTrail.Text
