import RequestTrail.Json.Value

/-! The texts of JSON, by their form alone. What a text means is said for strings only. A depth bounds
how many containers may be nested, and a number may be too large to be read. -/
namespace RequestTrail.Json

open Text

/-! ### Strings -/

/-- The characters that a backslash and a mark write, after the mark. -/
def escapes : List (Char × Char) :=
  [('"', '"'), ('\\', '\\'), ('/', '/'), ('b', '\x08'), ('f', '\x0C'), ('n', '\n'), ('r', '\r'),
    ('t', '\t')]

/-- Four hexadecimal digits that write the number. -/
structure IsUnit (digits : List Char) (n : Nat) : Prop where
  length : digits.length = 4
  value : ofDigits 16 digits = some n

/-- The first text can stand between quotation marks for the second one. Every character has at least
one form, and most have several. -/
inductive Spells : List Char → List Char → Prop where
  | nil : Spells [] []
  | plain {c : Char} {written s : List Char} : c ≠ '"' → c ≠ '\\' → 0x20 ≤ c.toNat →
      Spells written s → Spells (c :: written) (c :: s)
  | escape {mark c : Char} {written s : List Char} : (mark, c) ∈ escapes → Spells written s →
      Spells ('\\' :: mark :: written) (c :: s)
  | unit {digits written s : List Char} {c : Char} : IsUnit digits c.toNat → Spells written s →
      Spells ('\\' :: 'u' :: (digits ++ written)) (c :: s)
  | pair {high low written s : List Char} {c : Char} : 0x10000 ≤ c.toNat →
      IsUnit high (0xD800 + (c.toNat - 0x10000) / 0x400) →
      IsUnit low (0xDC00 + (c.toNat - 0x10000) % 0x400) → Spells written s →
      Spells ('\\' :: 'u' :: (high ++ '\\' :: 'u' :: (low ++ written))) (c :: s)

/-- A text without marks, backslashes and controls spells itself. -/
theorem spells_of_plain {s : List Char} (plain : ∀ c ∈ s, c ≠ '"' ∧ c ≠ '\\' ∧ 0x20 ≤ c.toNat) :
    Spells s s := by
  induction s with
  | nil => exact .nil
  | cons c s ih =>
    obtain ⟨mark, slash, printed⟩ := plain c (.head s)
    exact .plain mark slash printed (ih fun d m => plain d (.tail c m))

/-- A string with its marks. -/
def quote (written : List Char) : List Char := '"' :: (written ++ ['"'])

/-! ### Numbers -/

structure IsDigits (s : List Char) : Prop where
  nonempty : s ≠ []
  digits : ∀ c ∈ s, Text.isDigit c = true

/-- No zero stands in front of other digits. -/
structure IsWhole (s : List Char) : Prop where
  digits : IsDigits s
  leads : s.head? = some '0' → s = ['0']

def IsFraction (s : List Char) : Prop := s = [] ∨ ∃ digits, IsDigits digits ∧ s = '.' :: digits

def IsExponent (s : List Char) : Prop :=
  s = [] ∨ ∃ mark sign digits, (mark = 'e' ∨ mark = 'E') ∧ (sign = [] ∨ sign = ['+'] ∨ sign = ['-']) ∧
    IsDigits digits ∧ s = mark :: (sign ++ digits)

def IsNumber (s : List Char) : Prop :=
  ∃ sign whole fraction exponent, (sign = [] ∨ sign = ['-']) ∧ IsWhole whole ∧ IsFraction fraction ∧
    IsExponent exponent ∧ s = sign ++ (whole ++ (fraction ++ exponent))

/-- The number is not too large for a float. -/
def InRange (s : List Char) : Prop := readNumber (utf8 s) ≠ .error .numberOutOfRange

/-! ### Values -/

/-- Nothing but what may stand between the parts of a text. -/
def IsGap (s : List Char) : Prop := ∀ c ∈ s, c = ' ' ∨ c = '\t' ∨ c = '\n' ∨ c = '\r'

instance (s : List Char) : Decidable (IsGap s) :=
  List.decidableBAll _ s

def Padded (core text : List Char) : Prop :=
  ∃ left right, IsGap left ∧ IsGap right ∧ text = left ++ (core ++ right)

/-- At least one part, and a comma between each two. -/
inductive Separated {α : Type} (part : α → List Char → Prop) : List α → List Char → Prop where
  | last {x : α} {text : List Char} : part x text → Separated part [x] text
  | next {x : α} {text more : List Char} {xs : List α} : part x text → Separated part xs more →
      Separated part (x :: xs) (text ++ ',' :: more)

/-- The parts of a container between its marks. -/
def Encloses {α : Type} (opening closing : Char) (part : α → List Char → Prop) (xs : List α)
    (text : List Char) : Prop :=
  ∃ inner, text = opening :: (inner ++ [closing]) ∧ (xs = [] ∧ IsGap inner ∨ Separated part xs inner)

/-- A member by its key and the text of its value. -/
def IsMember (value : List Char → Prop) (m : String × List Char) (text : List Char) : Prop :=
  ∃ left right written padded, IsGap left ∧ IsGap right ∧ Spells written m.1.toList ∧ value m.2 ∧
    Padded m.2 padded ∧ text = left ++ (quote written ++ (right ++ ':' :: padded))

inductive IsScalar : List Char → Prop where
  | null : IsScalar "null".toList
  | true : IsScalar "true".toList
  | false : IsScalar "false".toList
  | string {written s : List Char} : Spells written s → IsScalar (quote written)
  | number {s : List Char} : IsNumber s → InRange s → IsScalar s

/-- A value in which at most `depth` containers are nested. -/
def IsValue : (depth : Nat) → List Char → Prop
  | 0, text => IsScalar text
  | depth + 1, text => IsScalar text ∨
    (∃ parts, Encloses '[' ']' (fun part padded => IsValue depth part ∧ Padded part padded) parts text) ∨
    ∃ members, Encloses '{' '}' (IsMember (IsValue depth)) members text

/-- An object that can be read, with its members in order. Its own braces count for the depth. -/
def IsObject (members : List (String × List Char)) (text : List Char) : Prop :=
  Encloses '{' '}' (IsMember (IsValue (Value.maxDepth - 1))) members text

/-- A text of an object, whose last member under the key is the string. -/
def Tells (text : List Char) (key value : String) : Prop :=
  ∃ object members before after written, Padded object text ∧ IsObject members object ∧
    members = before ++ (key, quote written) :: after ∧ Spells written value.toList ∧
    ∀ m ∈ after, m.1 ≠ key

/-- The shortest object that tells a value without marks, backslashes and controls. -/
theorem tells_of_plain {key value : String} (plainKey : ∀ c ∈ key.toList, c ≠ '"' ∧ c ≠ '\\' ∧ 0x20 ≤ c.toNat)
    (plain : ∀ c ∈ value.toList, c ≠ '"' ∧ c ≠ '\\' ∧ 0x20 ≤ c.toNat) :
    Tells ('{' :: (quote key.toList ++ ':' :: quote value.toList ++ ['}'])) key value := by
  have gap : IsGap [] := by decide
  have spelled : Spells value.toList value.toList := spells_of_plain plain
  have member : IsMember (IsValue (Value.maxDepth - 1)) (key, quote value.toList)
      (quote key.toList ++ ':' :: quote value.toList) :=
    ⟨[], [], key.toList, quote value.toList, gap, gap, spells_of_plain plainKey, .inl (.string spelled),
      ⟨[], [], gap, gap, by simp⟩, rfl⟩
  exact ⟨_, [(key, quote value.toList)], [], [], value.toList, ⟨[], [], gap, gap, by simp⟩,
    ⟨_, rfl, .inr (.last member)⟩, rfl, spelled, by simp⟩

end RequestTrail.Json
