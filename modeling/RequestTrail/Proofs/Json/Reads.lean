import RequestTrail.Json.Reader
import RequestTrail.Proofs.Json.Quoted

/-! Texts that a reader takes for one value, with blanks before it and anything that cannot belong to it
after it. Lists are read part by part. -/
namespace RequestTrail.Json

open Text

variable {α : Type} {item : Reader α} {text blanks more rest : Bytes} {x : α}

/-- Nothing but what stands between the parts of a text. -/
def Blank (s : Bytes) : Prop := ∀ b ∈ s, isSpace b = true

/-- What can follow a value: a blank, a mark or the end. A number would go on with anything else. -/
def Stops (rest : Bytes) : Prop :=
  ∀ b ∈ rest.head?, isSpace b = true ∨ b = 0x2C ∨ b = 0x5D ∨ b = 0x7D

/-- The text writes one value for the reader. -/
structure Reads (item : Reader α) (text : Bytes) (x : α) : Prop where
  opens : ∃ b more, text = b :: more ∧ isSpace b = false ∧ b ≠ 0x5D
  read : ∀ {blanks rest}, Blank blanks → Stops rest →
    item (blanks ++ (text ++ rest)) = .ok (x, rest)

theorem skipSpace_cons {b : UInt8} (blank : Blank blanks) (visible : isSpace b = false) (rest : Bytes) :
    skipSpace (blanks ++ b :: rest) = b :: rest := by
  rw [skipSpace, List.dropWhile_append_of_pos blank, List.dropWhile_cons_of_neg (by simp [visible])]

theorem Stops.mark {b : UInt8} (mark : b = 0x2C ∨ b = 0x5D ∨ b = 0x7D) (rest : Bytes) :
    Stops (b :: rest) := by
  intro b' m
  obtain rfl : b = b' := by simpa using m
  exact Or.inr mark

theorem Stops.blank_append (blank : Blank blanks) (stops : Stops rest) : Stops (blanks ++ rest) := by
  cases blanks with
  | nil => exact stops
  | cons b blanks =>
    intro b' m
    obtain rfl : b = b' := by simpa using m
    exact Or.inl (blank b (.head blanks))

/-- Blanks and marks are not part of a number. -/
theorem not_digit_of_mark {b : UInt8} (mark : isSpace b = true ∨ b = 0x2C ∨ b = 0x5D ∨ b = 0x7D) :
    isDigit b = false ∧ b ≠ 0x2E ∧ isExponentMark b = false := by
  rcases mark with space | rfl | rfl | rfl
  · simp only [isSpace, Bool.or_eq_true, beq_iff_eq] at space
    rcases space with ((rfl | rfl) | rfl) | rfl <;> decide
  all_goals decide

theorem visible_of_isDigit {b : UInt8} (digit : isDigit b = true) :
    isSpace b = false ∧ b ≠ 0x5D := by
  constructor
  · cases space : isSpace b with
    | false => rfl
    | true =>
      rw [(not_digit_of_mark (Or.inl space)).1] at digit
      cases digit
  · rintro rfl
    cases digit

theorem Stops.not_digit {b : UInt8} {after : Bytes} (stops : Stops (b :: after)) :
    isDigit b = false ∧ b ≠ 0x2E ∧ isExponentMark b = false :=
  not_digit_of_mark (stops b (by simp))

/-! ### Strings and bytes -/

/-- The text of a string with its marks. -/
theorem utf8_quoted (s : String) :
    utf8 (quoted s) = 0x22 :: utf8 (s.toList.flatMap escapeChar ++ ['"']) := rfl

theorem reads_string (s : String) : Reads readString (utf8 (quoted s)) s := by
  refine ⟨⟨_, _, utf8_quoted s, rfl, by decide⟩, fun {blanks rest} blank _ => ?_⟩
  rw [readString, utf8_quoted, List.cons_append, skipSpace_cons blank rfl]
  exact readText_written s rest

/-- The digits of a byte. -/
def byteText (b : UInt8) : Bytes := utf8 (Nat.toDigits 10 b.toNat)

/-- Digits that write the number, with no zero in front of others. -/
structure Numeral (n : Nat) (text : Bytes) : Prop where
  digits : ∀ d ∈ text, isDigit d = true
  leads : ∃ first others, text = first :: others ∧ (first = 0x30 → others = [])
  value : accumulate maxSignificand 0 text = (n, text.length)

theorem numeral_byteText (b : UInt8) : Numeral b.toNat (byteText b) := by
  have all : ∀ n : Fin 256, ((utf8 (Nat.toDigits 10 n)).all isDigit = true ∧
      (utf8 (Nat.toDigits 10 n) ≠ [] ∧
        ((utf8 (Nat.toDigits 10 n)).head? = some 0x30 → (utf8 (Nat.toDigits 10 n)).tail = []))) ∧
      accumulate maxSignificand 0 (utf8 (Nat.toDigits 10 n)) =
        (n.val, (utf8 (Nat.toDigits 10 n)).length) := by
    decide +kernel
  obtain ⟨⟨digits, nonempty, leads⟩, value⟩ := all ⟨b.toNat, b.toNat_lt⟩
  obtain ⟨first, others, split⟩ := List.exists_cons_of_ne_nil nonempty
  refine ⟨List.all_eq_true.mp digits, ⟨first, others, split, fun zero => ?_⟩, value⟩
  rw [split, zero] at leads
  exact leads rfl

theorem takeWhile_digits {digits : Bytes} (all : ∀ d ∈ digits, isDigit d = true)
    (stops : Stops rest) : (digits ++ rest).takeWhile isDigit = digits := by
  rw [List.takeWhile_append_of_pos all]
  cases rest with
  | nil => simp
  | cons b after => simp [stops.not_digit.1]

/-- Without a sign in front. -/
theorem readNumber_cons {first : UInt8} (digit : isDigit first = true) (rest : Bytes) :
    readNumber (first :: rest) = readUnsigned false (first :: rest) := by
  rw [readNumber]
  intro more same
  rw [(List.cons.inj same).1] at digit
  cases digit

theorem readNumber_numeral {n : Nat} {digits : Bytes} (numeral : Numeral n digits)
    (stops : Stops rest) : readNumber (digits ++ rest) = .ok (.integer n, rest) := by
  obtain ⟨first, others, rfl, single⟩ := numeral.leads
  have digit : isDigit first = true := numeral.digits first (.head others)
  have alone : (first == 0x30 && (others ++ rest).head?.any isDigit) = false := by
    cases zero : first == 0x30 with
    | false => rfl
    | true =>
      rw [single (beq_iff_eq.mp zero)]
      cases rest with
      | nil => rfl
      | cons b after => simp [stops.not_digit.1]
  have taken : (first :: (others ++ rest)).takeWhile isDigit = first :: others :=
    takeWhile_digits numeral.digits stops
  have left : (first :: others ++ rest).drop (first :: others).length = rest := List.drop_left
  rw [List.cons_append, readNumber_cons digit, readUnsigned]
  rw [List.cons_append] at left
  simp only [digit, alone, taken, left, numeral.value, Bool.not_true, Bool.false_eq_true, if_false]
  cases rest with
  | nil => simp [wholeNumber]
  | cons b after =>
    obtain ⟨_, point, mark⟩ := stops.not_digit
    split
    · next same => exact absurd (List.cons.inj same).1 point
    · next b' after' _ same =>
      obtain ⟨rfl, rfl⟩ := List.cons.inj same
      simp [mark, wholeNumber]
    · next same => cases same

theorem reads_byte (b : UInt8) : Reads readByte (byteText b) b := by
  have numeral := numeral_byteText b
  obtain ⟨first, others, written, _⟩ := numeral.leads
  have digit : isDigit first = true := numeral.digits first (by simp [written])
  have visible := visible_of_isDigit digit
  refine ⟨⟨first, others, written, visible⟩, fun {blanks rest} blank stops => ?_⟩
  have number : readNumber (first :: (others ++ rest)) = .ok (.integer b.toNat, rest) := by
    rw [← List.cons_append, ← written]
    exact readNumber_numeral numeral stops
  have small : (0 ≤ (b.toNat : Int) && (b.toNat : Int) < 256) = true := by
    have := b.toNat_lt
    simp
    omega
  rw [readByte, written, List.cons_append, skipSpace_cons blank visible.1]
  simp only [digit, Bool.or_true, if_true, number, bind, Except.bind, small]
  simp [pure, Except.pure]

/-! ### Lists -/

theorem Blank.nil : Blank [] := fun _ m => absurd m List.not_mem_nil

theorem Reads.length_pos (reads : Reads item text x) : 0 < text.length := by
  obtain ⟨b, more, rfl, _⟩ := reads.opens
  exact Nat.succ_pos _

theorem Reads.of_rest (reads : Reads item text x) (stops : Stops rest) :
    item (text ++ rest) = .ok (x, rest) := reads.read Blank.nil stops

theorem readNext_first (blank : Blank blanks) (reads : Reads item text x) (stops : Stops rest) :
    readNext item true (blanks ++ (text ++ rest)) = .ok (some x, rest) := by
  have read := reads.of_rest stops
  obtain ⟨b, more, rfl, visible, other⟩ := reads.opens
  rw [List.cons_append] at read ⊢
  rw [readNext, skipSpace_cons blank visible]
  simp only [read, if_true, Except.map]

theorem readNext_next {blanks' : Bytes} (blank : Blank blanks) (blank' : Blank blanks')
    (reads : Reads item text x) (stops : Stops rest) :
    readNext item false (blanks ++ 0x2C :: (blanks' ++ (text ++ rest))) = .ok (some x, rest) := by
  have read := reads.of_rest stops
  obtain ⟨b, more, rfl, visible, other⟩ := reads.opens
  rw [List.cons_append] at read ⊢
  rw [readNext, skipSpace_cons blank (by decide)]
  simp [skipSpace_cons blank' visible, read, Except.map, other]

theorem readNext_close (item : Reader α) (first : Bool) (blank : Blank blanks) (rest : Bytes) :
    readNext item first (blanks ++ 0x5D :: rest) = .ok (none, 0x5D :: rest) := by
  rw [readNext, skipSpace_cons blank (by decide)]
  rfl

theorem readPart_of_next (index : Nat) {s : Bytes}
    (next : readNext item (index == 0) s = .ok (some x, rest)) (expected : String) :
    readPart item index expected s = .ok (x, rest) := by
  rw [readPart, next]
  rfl

theorem closeList_close (blank : Blank blanks) (rest : Bytes) :
    closeList (blanks ++ 0x5D :: rest) = .ok rest := by
  rw [closeList, skipSpace_cons blank (by decide)]
  rfl

/-- What follows the opening mark of a list, or a part of it, up to the closing mark. -/
inductive Parts (item : Reader α) : (first : Bool) → Bytes → List α → Prop where
  | close {first : Bool} {blanks : Bytes} : Blank blanks → Parts item first (blanks ++ [0x5D]) []
  | first {blanks text more : Bytes} {x : α} {xs : List α} : Blank blanks → Reads item text x →
      Parts item false more xs → Parts item true (blanks ++ (text ++ more)) (x :: xs)
  | next {blanks blanks' text more : Bytes} {x : α} {xs : List α} : Blank blanks → Blank blanks' →
      Reads item text x → Parts item false more xs →
      Parts item false (blanks ++ 0x2C :: (blanks' ++ (text ++ more))) (x :: xs)

theorem Parts.stops {xs : List α} (parts : Parts item false text xs) (rest : Bytes) :
    Stops (text ++ rest) := by
  cases parts with
  | close blank =>
    rw [List.append_assoc]
    exact .blank_append blank (.mark (by decide) _)
  | next blank =>
    rw [List.append_assoc]
    exact .blank_append blank (.mark (by decide) _)

/-- Every part takes a byte, so a round for each byte is enough. -/
theorem Parts.readAll {first : Bool} {xs : List α} (parts : Parts item first text xs) {fuel : Nat}
    (enough : text.length ≤ fuel) (rest : Bytes) :
    readAll item fuel first (text ++ rest) = .ok (xs, rest) := by
  induction parts generalizing fuel with
  | close blank =>
    cases fuel with
    | zero => simp at enough
    | succ fuel =>
      rw [List.append_assoc, Json.readAll, List.singleton_append, readNext_close item _ blank]
      rfl
  | first blank reads more ih =>
    cases fuel with
    | zero =>
      have := reads.length_pos
      simp at enough
      simp [enough.2.1] at this
    | succ fuel =>
      have := reads.length_pos
      rw [List.append_assoc, List.append_assoc, Json.readAll, readNext_first blank reads (more.stops rest)]
      simp only [bind, Except.bind]
      rw [ih (by simp at enough; omega)]
      rfl
  | next blank blank' reads more ih =>
    cases fuel with
    | zero => simp at enough
    | succ fuel =>
      rw [List.append_assoc, List.cons_append, List.append_assoc, List.append_assoc, Json.readAll,
        readNext_next blank blank' reads (more.stops rest)]
      simp only [bind, Except.bind]
      rw [ih (by simp at enough; omega)]
      rfl

theorem Parts.reads {xs : List α} (parts : Parts item true text xs) (expected : String) :
    Reads (readListOf item expected) (0x5B :: text) xs := by
  refine ⟨⟨_, _, rfl, by decide, by decide⟩, fun {blanks rest} blank _ => ?_⟩
  rw [List.cons_append, readListOf, skipSpace_cons blank (by decide)]
  exact parts.readAll (by simp; omega) rest

end RequestTrail.Json
