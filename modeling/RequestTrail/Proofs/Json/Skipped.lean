import RequestTrail.Proofs.Json.Complete
import RequestTrail.Proofs.Json.Syntax

/-! Every JSON text is passed over. The loop keeps the open containers on a stack. On whatever stack a
value starts, the loop comes to what follows the value with the same stack, and this carries the
induction on how deep values are nested. -/
namespace RequestTrail.Json

open Text

variable {written s gap core text digits : List Char} {rest blanks : Bytes} {depth : Nat}

/-! ### Strings -/

theorem skipText_cons {b : UInt8} (alone : StandsAlone b) (rest : Bytes) :
    skipText (b :: rest) = skipText rest := by
  obtain ⟨mark, slash, visible⟩ := alone
  have above : ¬b < 0x20 := UInt8.not_lt.mpr visible
  rw [skipText.eq_6 b rest mark (fun _ _ _ _ _ h => absurd h slash) (fun _ h => absurd h slash)
    (fun _ _ h => absurd h slash)]
  simp [slash, above]

theorem skipText_append {held : Bytes} (alone : ∀ b ∈ held, StandsAlone b) (rest : Bytes) :
    skipText (held ++ rest) = skipText rest := by
  induction held with
  | nil => rfl
  | cons b held ih =>
    rw [List.cons_append, skipText_cons (alone b (.head held)), ih fun b' m => alone b' (.tail b m)]

/-- A string is passed up to its closing mark, and what follows is left. -/
theorem skipText_written (form : IsWritten written) (rest : Bytes) :
    skipText (utf8 written ++ 0x22 :: rest) = .ok rest := by
  induction form with
  | nil => rfl
  | plain mark slash printed _ ih =>
    rw [utf8_cons, List.append_assoc, skipText_append (standsAlone_of_mem mark slash printed), ih]
  | @escape mark c more form _ ih =>
    have known : ∀ p ∈ escapes, String.utf8EncodeChar p.1 = [byte p.1] ∧ byte p.1 ≠ 0x75 ∧
        (escapedByte? (byte p.1)).isSome = true := by decide
    obtain ⟨single, other, escaped⟩ := known (mark, c) form
    have bytes : utf8 ('\\' :: mark :: more) = 0x5C :: byte mark :: utf8 more := by
      rw [utf8_cons, utf8_cons, single]
      rfl
    rw [bytes, List.cons_append, List.cons_append, skipText.eq_5 _ _ (fun _ _ _ _ _ h => absurd h other) other,
      if_pos escaped, ih]
  | unit digits _ ih =>
    obtain ⟨x, y, z, w, bytes, value⟩ := digits.bytes
    rw [utf8_cons, utf8_cons, utf8_append, bytes]
    change skipText (0x5C :: 0x75 :: x :: y :: z :: w :: (utf8 _ ++ 0x22 :: rest)) = _
    rw [skipText, value, ih]
    rfl

/-! ### Numbers -/

theorem dropWhile_digits (form : IsDigits digits) (stops : ∀ b ∈ rest.head?, isDigit b = false) :
    (utf8 digits ++ rest).dropWhile isDigit = rest :=
  dropWhile_append_of_stops form.bytes.2 stops

theorem IsExponent.skipScale (form : IsExponent s) (stops : Stops rest) :
    skipScale (utf8 s ++ rest) = .ok rest := by
  rcases form with rfl | ⟨mark, sign, digits, letter, signed, form, rfl⟩
  · unfold Json.skipScale
    rw [utf8_nil, List.nil_append]
    split
    · exact absurd (stops.head_not_mark 0x65 rfl) (by decide)
    · exact absurd (stops.head_not_mark 0x45 rfl) (by decide)
    · rfl
  · obtain ⟨⟨b, more, bytes, digit⟩, _⟩ := form.bytes
    have unsigned : (if (utf8 digits ++ rest).head?.any isDigit then
        Except.ok ((utf8 digits ++ rest).dropWhile isDigit) else .error ReadFault.badNumber) = .ok rest := by
      rw [dropWhile_digits form stops.head_not_digit, bytes]
      simp [digit]
    have exponent : skipExponent (utf8 (sign ++ digits) ++ rest) = .ok rest := by
      rcases signed with rfl | rfl | rfl
      · unfold skipExponent
        rw [List.nil_append]
        dsimp only
        split
        · next heads =>
          rw [bytes] at heads
          rw [(List.cons.inj heads).1] at digit
          cases digit
        · next heads =>
          rw [bytes] at heads
          rw [(List.cons.inj heads).1] at digit
          cases digit
        · exact unsigned
      · exact unsigned
      · exact unsigned
    rcases letter with rfl | rfl
    · exact exponent
    · exact exponent

theorem skipUnsigned_written {whole fraction e : List Char} (form : IsWhole whole)
    (fractional : IsFraction fraction) (scaled : IsExponent e) (stops : Stops rest) :
    skipUnsigned (utf8 (whole ++ (fraction ++ e)) ++ rest) = .ok rest := by
  obtain ⟨⟨b, more, bytes, digit, single⟩, _⟩ := form.bytes
  have other : ∀ d ∈ (utf8 (fraction ++ e) ++ rest).head?, isDigit d = false := by
    rcases fractional with rfl | ⟨digits, _, rfl⟩
    · exact scaled.head_not_digit stops
    · intro d m
      obtain rfl : 0x2E = d := Option.some.inj m
      rfl
  have alone : (b == 0x30 && (more ++ (utf8 (fraction ++ e) ++ rest)).head?.any isDigit) = false := by
    by_cases zero : b = 0x30
    · rw [single zero, List.nil_append]
      cases head : (utf8 (fraction ++ e) ++ rest).head? with
      | none => exact Bool.and_false _
      | some d => simp [other d head]
    · simp [zero]
  have taken : (utf8 whole ++ (utf8 (fraction ++ e) ++ rest)).dropWhile isDigit = utf8 (fraction ++ e) ++ rest :=
    dropWhile_digits form.digits other
  rw [bytes, List.cons_append] at taken
  rw [utf8_append, bytes, List.append_assoc, List.cons_append, skipUnsigned]
  simp only [digit, alone, taken, Bool.not_true, Bool.false_eq_true, if_false]
  rcases fractional with rfl | ⟨digits, form, rfl⟩
  · have left := scaled.skipScale stops
    rw [List.nil_append]
    split
    · next point =>
      rcases scaled.bytes with rfl | ⟨mark, tail, opened, _, _, differs, _⟩
      · exact absurd (stops 0x2E (congrArg List.head? point)) (by decide)
      · rw [opened, List.cons_append] at point
        exact absurd (List.cons.inj point).1 differs
    · exact left
  · obtain ⟨⟨d, others, digitBytes, first⟩, _⟩ := form.bytes
    have opened : utf8 ('.' :: digits ++ e) ++ rest = 0x2E :: (utf8 digits ++ (utf8 e ++ rest)) := by
      rw [List.cons_append, utf8_cons, utf8_append]
      simp only [List.append_assoc]
      rfl
    have head : (utf8 digits ++ (utf8 e ++ rest)).head?.any isDigit = true := by simp [digitBytes, first]
    rw [opened]
    change (if (utf8 digits ++ (utf8 e ++ rest)).head?.any isDigit = true then
      skipScale ((utf8 digits ++ (utf8 e ++ rest)).dropWhile isDigit) else .error .badNumber) = _
    rw [if_pos head, dropWhile_digits form (scaled.head_not_digit stops), scaled.skipScale stops]

/-! ### Values without parts -/

theorem readFront_digit {b : UInt8} (digit : isDigit b = true) (rest : Bytes) :
    readFront (b :: rest) = (skipUnsigned (b :: rest)).map .value := by
  have known : ∀ n : Fin 256, isDigit (UInt8.ofNat n) = true → Char.ofNat n ≠ 'n' ∧ Char.ofNat n ≠ 't' ∧
      Char.ofNat n ≠ 'f' ∧ Char.ofNat n ≠ '"' ∧ Char.ofNat n ≠ '-' ∧ Char.ofNat n ≠ '[' ∧
      Char.ofNat n ≠ '\x7b' := by decide +kernel
  obtain ⟨null, yes, no, mark, sign, list, object⟩ := known ⟨b.toNat, b.toNat_lt⟩ (by simpa using digit)
  unfold readFront
  split
  · next same => cases same
  · next same =>
    obtain ⟨rfl, rfl⟩ := List.cons.inj same
    split
    · next same => exact absurd same null
    · next same => exact absurd same yes
    · next same => exact absurd same no
    · next same => exact absurd same mark
    · next same => exact absurd same sign
    · next same => exact absurd same list
    · next same => exact absurd same object
    · rw [if_pos digit]

/-- What follows a value with no parts is left. -/
theorem IsAtom.readFront (form : IsAtom text) (stops : Stops rest) :
    readFront (utf8 text ++ rest) = .ok (.value rest) := by
  cases form with
  | null => rfl
  | true => rfl
  | false => rfl
  | @string written form =>
    rw [utf8_quote, List.cons_append, List.append_assoc]
    change (skipText (utf8 written ++ 0x22 :: rest)).map Front.value = _
    rw [skipText_written form]
    rfl
  | number form =>
    obtain ⟨sign, whole, fraction, e, signed, form, fractional, scaled, rfl⟩ := form
    have number := skipUnsigned_written form fractional scaled stops
    rcases signed with rfl | rfl
    · obtain ⟨⟨b, more, bytes, digit, _⟩, _⟩ := form.bytes
      rw [List.nil_append]
      rw [utf8_append, bytes, List.append_assoc, List.cons_append] at number ⊢
      rw [readFront_digit digit, number]
      rfl
    · change (skipUnsigned (utf8 (whole ++ (fraction ++ e)) ++ rest)).map Front.value = _
      rw [number]
      rfl

/-! ### Containers -/

/-- The loop after a value that stands on the stack. -/
def resume (fuel : Nat) (stack : List Container) (s : Bytes) : Except ReadFault Bytes := do
  let (stack, rest) ← closeAll stack s
  if stack.isEmpty then return rest else skipAll fuel stack rest

def Container.opening : Container → UInt8
  | .list => 0x5B
  | .object => 0x7B

/-- A value after which the loop goes on as it would without the value. Enough rounds are left to go on. -/
structure IsSkipped (text : Bytes) : Prop where
  opens : ∃ b more, text = b :: more ∧ isSpace b = false ∧ b ≠ 0x5D
  skips : ∀ stack fuel {blanks rest}, Blank blanks → Stops rest → text.length + rest.length < fuel →
    ∃ left, rest.length < left ∧ skipAll fuel stack (blanks ++ (text ++ rest)) = resume left stack rest

/-- A part of a container, which has a value behind what stands in front of it. -/
structure IsSkippedPart (c : Container) (text : Bytes) : Prop where
  opens : ∀ rest, ∃ b more, skipSpace (text ++ rest) = b :: more ∧ b ≠ c.closing
  value : ∃ blanks core blanks', Blank blanks ∧ Blank blanks' ∧ IsSkipped core ∧
    core.length + blanks'.length ≤ text.length ∧
    ∀ rest, c.nextPart (text ++ rest) = .ok (blanks ++ (core ++ (blanks' ++ rest)))

variable {c : Container} {stack : List Container} {fuel : Nat}

theorem resume_nil (fuel : Nat) (s : Bytes) : resume fuel [] s = .ok s := rfl

theorem visible_closing (c : Container) : isSpace c.closing = false := by cases c <;> rfl

theorem resume_close (blank : Blank blanks) (rest : Bytes) :
    resume fuel (c :: stack) (blanks ++ c.closing :: rest) = resume fuel stack rest := by
  rw [resume, closeAll, skipSpace_cons blank (visible_closing c)]
  simp [resume]

theorem resume_comma {after : Bytes} (blank : Blank blanks) (part : c.nextPart rest = .ok after) :
    resume fuel (c :: stack) (blanks ++ 0x2C :: rest) = skipAll fuel (c :: stack) after := by
  have other : (0x2C == c.closing) = false := by cases c <;> rfl
  rw [resume, closeAll, skipSpace_cons blank rfl]
  simp [other, part, bind, Except.bind, pure, Except.pure]

theorem skipAll_value {s : Bytes} (front : readFront (skipSpace s) = .ok (.value rest)) :
    skipAll (fuel + 1) stack s = resume fuel stack rest := by
  rw [skipAll, front]
  rfl

theorem skipAll_opens {s after : Bytes} {left : List Container}
    (front : readFront (skipSpace s) = .ok (.opens c rest)) (entered : enter c stack rest = .ok (left, after)) :
    skipAll (fuel + 1) stack s = if left.isEmpty then .ok after else skipAll fuel left after := by
  rw [skipAll, front]
  simp only [bind, Except.bind, entered]
  rfl

theorem skipAll_empty {s : Bytes} (front : readFront (skipSpace s) = .ok (.opens c (blanks ++ c.closing :: rest)))
    (blank : Blank blanks) : skipAll (fuel + 1) stack s = resume fuel stack rest := by
  have entered : enter c stack (blanks ++ c.closing :: rest) = closeAll stack rest := by
    rw [enter, skipSpace_cons blank (visible_closing c)]
    simp
  rw [skipAll, front]
  simp only [bind, Except.bind, entered, resume]

theorem readFront_opening (blank : Blank blanks) (c : Container) (rest : Bytes) :
    readFront (skipSpace (blanks ++ c.opening :: rest)) = .ok (.opens c rest) := by
  have visible : isSpace c.opening = false := by cases c <;> rfl
  rw [skipSpace_cons blank visible]
  cases c <;> rfl

theorem IsAtom.opens (form : IsAtom text) :
    ∃ b more, utf8 text = b :: more ∧ isSpace b = Bool.false ∧ b ≠ 0x5D := by
  cases form with
  | null => exact ⟨0x6E, wordNull, rfl, rfl, by decide⟩
  | true => exact ⟨0x74, wordTrue, rfl, rfl, by decide⟩
  | false => exact ⟨0x66, wordFalse, rfl, rfl, by decide⟩
  | string form => exact ⟨0x22, _, utf8_quote _, rfl, by decide⟩
  | number form =>
    obtain ⟨b, more, bytes, opens⟩ := form.opens
    obtain ⟨visible, _, other, _⟩ := (readScalar_number opens []).1
    exact ⟨b, more, bytes, visible, other⟩

theorem IsAtom.isSkipped (form : IsAtom text) : IsSkipped (utf8 text) := by
  refine ⟨form.opens, fun stack fuel {blanks rest} blank stops enough => ?_⟩
  have front := form.readFront stops
  obtain ⟨b, more, bytes, visible, _⟩ := form.opens
  rw [bytes] at front enough ⊢
  simp only [List.length_cons] at enough
  obtain ⟨left, rfl⟩ : ∃ left, fuel = left + 1 := ⟨fuel - 1, by omega⟩
  refine ⟨left, by omega, skipAll_value ?_⟩
  rw [List.cons_append] at front ⊢
  rw [skipSpace_cons blank visible, front]

theorem IsSkipped.length_pos {text : Bytes} (skipped : IsSkipped text) : 0 < text.length := by
  obtain ⟨b, more, rfl, _⟩ := skipped.opens
  exact Nat.succ_pos _

/-- A value that stands alone is passed over. -/
theorem IsSkipped.skipValue {text : Bytes} (skipped : IsSkipped text) (blank : Blank blanks)
    (stops : Stops rest) : skipValue (blanks ++ (text ++ rest)) = .ok rest := by
  obtain ⟨left, _, skips⟩ := skipped.skips [] ((blanks ++ (text ++ rest)).length + 1) blank stops
    (by simp only [List.length_append]; omega)
  rw [Json.skipValue, skips, resume_nil]

theorem utf8_closing (c : Container) (close : Char) (same : String.utf8EncodeChar close = [c.closing])
    (inner : List Char) : utf8 (inner ++ [close]) = utf8 inner ++ [c.closing] := by
  rw [utf8_append, utf8_cons, same, utf8_nil, List.append_nil]

theorem Stops.closing (c : Container) (rest : Bytes) : Stops (c.closing :: rest) := by
  cases c
  · exact .mark (.inr (.inl rfl)) rest
  · exact .mark (.inr (.inr rfl)) rest

/-- What one part leaves to the loop, up to the mark behind it. -/
theorem IsSkippedPart.exists_resume {text : Bytes} (skipped : IsSkippedPart c text) {mark : UInt8}
    (stops : Stops (mark :: rest)) :
    ∃ after blanks, c.nextPart (text ++ mark :: rest) = .ok after ∧ Blank blanks ∧
      ∀ stack fuel, text.length + rest.length + 1 < fuel → ∃ left, rest.length + 1 < left ∧
        skipAll fuel stack after = resume left stack (blanks ++ mark :: rest) := by
  obtain ⟨blanks, core, blanks', blank, blank', value, short, next⟩ := skipped.value
  refine ⟨_, blanks', next _, blank', fun stack fuel enough => ?_⟩
  obtain ⟨left, more, skips⟩ := value.skips stack fuel blank (stops.blank_append blank')
    (by simp only [List.length_append, List.length_cons]; omega)
  refine ⟨left, ?_, skips⟩
  simp only [List.length_append, List.length_cons] at more
  omega

/-- The parts of a container are passed over one after another, with a round for each byte. -/
theorem Separated.isSkipped {α : Type} {part : α → List Char → Prop} {xs : List α}
    (form : Separated part xs text) (each : ∀ x padded, part x padded → IsSkippedPart c (utf8 padded)) :
    (∀ rest, ∃ b more, skipSpace (utf8 text ++ rest) = b :: more ∧ b ≠ c.closing) ∧
      ∀ rest, ∃ after, c.nextPart (utf8 text ++ c.closing :: rest) = .ok after ∧
        ∀ stack fuel, (utf8 text).length + rest.length + 1 < fuel → ∃ left, rest.length < left ∧
          skipAll fuel (c :: stack) after = resume left stack rest := by
  induction form with
  | last form =>
    have skipped := each _ _ form
    refine ⟨skipped.opens, fun rest => ?_⟩
    obtain ⟨after, blanks, next, blank, skips⟩ := skipped.exists_resume (.closing c rest)
    refine ⟨after, next, fun stack fuel enough => ?_⟩
    obtain ⟨left, more, skips⟩ := skips (c :: stack) fuel enough
    exact ⟨left, by omega, by rw [skips, resume_close blank]⟩
  | @next x padded more xs form _ ih =>
    have skipped := each _ _ form
    have bytes : utf8 (padded ++ ',' :: more) = utf8 padded ++ 0x2C :: utf8 more := by
      rw [utf8_append, utf8_cons]
      rfl
    refine ⟨fun rest => ?_, fun rest => ?_⟩
    · rw [bytes, List.append_assoc]
      exact skipped.opens _
    · obtain ⟨following, found, skipsMore⟩ := ih.2 rest
      have stops : Stops (0x2C :: (utf8 more ++ c.closing :: rest)) := .mark (.inl rfl) _
      obtain ⟨after, blanks, next, blank, skips⟩ := skipped.exists_resume stops
      rw [bytes]
      refine ⟨after, by rwa [List.append_assoc, List.cons_append], fun stack fuel enough => ?_⟩
      simp only [List.length_append, List.length_cons] at enough
      obtain ⟨middle, enoughMore, skips⟩ := skips (c :: stack) fuel
        (by simp only [List.length_append, List.length_cons]; omega)
      simp only [List.length_append, List.length_cons] at enoughMore
      rw [skips, resume_comma blank found]
      exact skipsMore stack middle (by omega)

/-- A container is passed over when its parts are. -/
theorem Encloses.isSkipped {α : Type} {opening close : Char} {part : α → List Char → Prop} {xs : List α}
    (form : Encloses opening close part xs text) (opens : String.utf8EncodeChar opening = [c.opening])
    (closes : String.utf8EncodeChar close = [c.closing])
    (each : ∀ x padded, part x padded → IsSkippedPart c (utf8 padded)) : IsSkipped (utf8 text) := by
  obtain ⟨inner, rfl, form⟩ := form
  have bytes : utf8 (opening :: (inner ++ [close])) = c.opening :: (utf8 inner ++ [c.closing]) := by
    rw [utf8_cons, opens, utf8_closing c close closes]
    rfl
  have visible : isSpace c.opening = false ∧ c.opening ≠ 0x5D := by cases c <;> decide
  refine ⟨⟨_, _, bytes, visible⟩, fun stack fuel {blanks rest} blank stops enough => ?_⟩
  rw [bytes] at enough ⊢
  simp only [List.length_append, List.length_cons] at enough
  obtain ⟨fuel, rfl⟩ : ∃ left, fuel = left + 1 := ⟨fuel - 1, by omega⟩
  have front := readFront_opening blank c (utf8 inner ++ c.closing :: rest)
  rw [List.cons_append, List.append_assoc, List.singleton_append]
  rcases form with ⟨_, gap⟩ | form
  · exact ⟨fuel, by omega, skipAll_empty front (blank_utf8 gap)⟩
  · obtain ⟨visible, parts⟩ := form.isSkipped each
    obtain ⟨b, more, first, other⟩ := visible (c.closing :: rest)
    obtain ⟨after, found, skips⟩ := parts rest
    obtain ⟨left, enough', skips⟩ := skips stack fuel (by omega)
    refine ⟨left, enough', Eq.trans ?_ skips⟩
    have entered : enter c stack (utf8 inner ++ c.closing :: rest) = .ok (c :: stack, after) := by
      rw [enter, first]
      simp [other, found, bind, Except.bind, pure, Except.pure]
    rw [skipAll_opens front entered]
    rfl

/-! ### Every value -/

theorem isSkippedPart_padded {padded : List Char} (padding : Padded core padded)
    (skipped : IsSkipped (utf8 core)) : IsSkippedPart .list (utf8 padded) := by
  obtain ⟨left, right, gapLeft, gapRight, rfl⟩ := padding
  have bytes (rest : Bytes) : utf8 (left ++ (core ++ right)) ++ rest =
      utf8 left ++ (utf8 core ++ (utf8 right ++ rest)) := by
    simp only [utf8_append, List.append_assoc]
  constructor
  · intro rest
    obtain ⟨b, more, first, visible, other⟩ := skipped.opens
    refine ⟨b, more ++ (utf8 right ++ rest), ?_, other⟩
    rw [bytes, first, List.cons_append, skipSpace_cons (blank_utf8 gapLeft) visible]
  · refine ⟨utf8 left, utf8 core, utf8 right, blank_utf8 gapLeft, blank_utf8 gapRight, skipped, ?_, fun rest => ?_⟩
    · simp only [utf8_append, List.length_append]
      omega
    · rw [bytes]
      rfl

theorem isSkippedPart_entry {value : List Char → Prop} {m : List Char × List Char}
    (each : ∀ core, value core → IsSkipped (utf8 core)) (form : IsEntry value m text) :
    IsSkippedPart .object (utf8 text) := by
  obtain ⟨left, gap, padded, gapLeft, gapKey, key, valued, ⟨before, after, gapBefore, gapAfter, rfl⟩, rfl⟩ := form
  have bytes (rest : Bytes) :
      utf8 (left ++ (quote m.1 ++ (gap ++ ':' :: (before ++ (m.2 ++ after))))) ++ rest =
        utf8 left ++ 0x22 :: (utf8 m.1 ++ 0x22 :: (utf8 gap ++ 0x3A ::
          (utf8 before ++ (utf8 m.2 ++ (utf8 after ++ rest))))) := by
    simp only [utf8_append, utf8_quote, utf8_cons, List.append_assoc, List.cons_append, List.nil_append]
    rfl
  constructor
  · intro rest
    rw [bytes, skipSpace_cons (blank_utf8 gapLeft) rfl]
    exact ⟨_, _, rfl, by decide⟩
  · refine ⟨utf8 before, utf8 m.2, utf8 after, blank_utf8 gapBefore, blank_utf8 gapAfter, each _ valued, ?_,
      fun rest => ?_⟩
    · simp only [utf8_append, utf8_cons, List.length_append]
      omega
    · rw [bytes]
      change skipKey _ = _
      rw [skipKey, skipSpace_cons (blank_utf8 gapLeft) rfl]
      simp only [skipText_written key, bind, Except.bind]
      rw [skipSpace_cons (blank_utf8 gapKey) rfl]
      rfl

theorem IsForm.isSkipped (form : IsForm depth text) : IsSkipped (utf8 text) := by
  induction depth generalizing text with
  | zero => exact IsAtom.isSkipped form
  | succ depth ih =>
    rcases form with atom | ⟨parts, form⟩ | ⟨members, form⟩
    · exact atom.isSkipped
    · exact form.isSkipped (c := .list) rfl rfl fun core padded part => isSkippedPart_padded part.2 (ih part.1)
    · exact form.isSkipped (c := .object) rfl rfl fun m padded entry =>
        isSkippedPart_entry (fun core form => ih form) entry

/-- A JSON text is passed over, with what stands in front of it. -/
theorem IsJson.skipValue (form : IsJson text) (blank : Blank blanks) (stops : Stops rest) :
    skipValue (blanks ++ (utf8 text ++ rest)) = .ok rest := by
  obtain ⟨depth, form⟩ := form
  exact form.isSkipped.skipValue blank stops

end RequestTrail.Json
