import RequestTrail.Proofs.Json.Grammar
import RequestTrail.Proofs.Json.Reads
import RequestTrail.Proofs.Text.Search

/-! Numbers are read from their forms. What follows a number decides nothing, so a form that is refused
for its size is refused everywhere, and any other form is a number everywhere. -/
namespace RequestTrail.Json

open Text

variable {s digits : List Char} {text rest : Bytes}

/-- A number with what is left after it, or the fault of its size. -/
def numberThen (r : Option Number) (rest : Bytes) : Except ReadFault (Number × Bytes) :=
  match r with
  | none => .error .numberOutOfRange
  | some n => .ok (n, rest)

/-- The reader takes the whole text for a number or refuses it for its size, whatever follows. -/
def Takes (reader : Reader Number) (text : Bytes) : Prop :=
  ∃ r, ∀ rest, Stops rest → reader (text ++ rest) = numberThen r rest

/-! ### Digits -/

theorem toNat_of_isDigit {c : Char} (digit : Text.isDigit c = true) :
    0x30 ≤ c.toNat ∧ c.toNat ≤ 0x39 := by
  simp only [Text.isDigit, Bool.and_eq_true, decide_eq_true_eq] at digit
  exact ⟨UInt32.le_iff_toNat_le.mp digit.1, UInt32.le_iff_toNat_le.mp digit.2⟩

theorem isDigit_byte {c : Char} (digit : Text.isDigit c = true) :
    String.utf8EncodeChar c = [byte c] ∧ (byte c).toNat = c.toNat ∧ isDigit (byte c) = true := by
  obtain ⟨low, high⟩ := toNat_of_isDigit digit
  have ascii : c.toNat < 0x80 := by omega
  have same := Utf8.toNat_byte ascii
  refine ⟨Utf8.utf8EncodeChar_of_ascii ascii, same, ?_⟩
  simp only [isDigit, Bool.and_eq_true, decide_eq_true_eq, UInt8.le_iff_toNat_le, same]
  exact ⟨low, high⟩

/-- Digits are digits in their bytes. -/
theorem IsDigits.bytes (form : IsDigits s) :
    (∃ b more, utf8 s = b :: more ∧ isDigit b = true) ∧ ∀ b ∈ utf8 s, isDigit b = true := by
  obtain ⟨nonempty, digits⟩ := form
  have all : ∀ b ∈ utf8 s, isDigit b = true := by
    intro b m
    obtain ⟨c, inside, m⟩ := List.mem_flatMap.mp m
    have digit := isDigit_byte (digits c inside)
    rw [digit.1, List.mem_singleton] at m
    rw [m]
    exact digit.2.2
  obtain ⟨c, more, rfl⟩ := List.exists_cons_of_ne_nil nonempty
  have digit := isDigit_byte (digits c (.head more))
  refine ⟨⟨byte c, utf8 more, ?_, digit.2.2⟩, all⟩
  rw [utf8_cons, digit.1, List.singleton_append]

/-- Nothing that may follow a number goes on with its digits. -/
theorem Stops.head_not_digit (stops : Stops rest) : ∀ b ∈ rest.head?, isDigit b = false :=
  fun b m => (not_digit_of_mark (stops b m)).1

theorem Stops.head_not_mark (stops : Stops rest) : ∀ b ∈ rest.head?, isExponentMark b = false :=
  fun b m => (not_digit_of_mark (stops b m)).2.2

/-! ### Exponents -/

theorem realOf_then (negative : Bool) (significand : Nat) (exponent : Int) :
    ∃ r, ∀ rest, (realOf negative significand exponent).map (·, rest) = numberThen r rest := by
  unfold realOf
  cases scale? significand.toUInt64.toFloat exponent with
  | none => exact ⟨none, fun _ => rfl⟩
  | some x => exact ⟨some (.real (if negative then -x else x)), fun _ => rfl⟩

theorem exponent_then (long : Prop) [Decidable long] (large negative : Bool) (x : Number)
    (significand : Nat) (exponent : Int) :
    ∃ r, ∀ rest, (if long then if large = true then .error .numberOutOfRange else .ok (x, rest)
      else (realOf negative significand exponent).map (·, rest)) = numberThen r rest := by
  by_cases past : long
  · cases large with
    | true => exact ⟨none, fun _ => by rw [if_pos past]; rfl⟩
    | false => exact ⟨some x, fun _ => by rw [if_pos past]; rfl⟩
  · obtain ⟨r, same⟩ := realOf_then negative significand exponent
    exact ⟨r, fun rest => by rw [if_neg past]; exact same rest⟩

/-- The digits of an exponent are read alike whatever its sign is. -/
theorem takes_signed (form : IsDigits digits) (down : Bool)
    (signed : ∀ rest : Bytes, (match text ++ rest with
      | 0x2B :: after => (false, after)
      | 0x2D :: after => (true, after)
      | _ => (false, text ++ rest)) = (down, utf8 digits ++ rest))
    (negative : Bool) (significand : Nat) (exponent : Int) :
    Takes (readExponent negative significand exponent) text := by
  obtain ⟨⟨b, more, bytes, digit⟩, all⟩ := form.bytes
  rw [bytes] at all
  have left (rest : Bytes) : (b :: (more ++ rest)).drop (b :: more).length = rest := List.drop_left
  let used := accumulate maxExponent 0 (b :: more)
  let shift : Int := if down then -used.1 else used.1
  obtain ⟨r, same⟩ := exponent_then (used.2 < (b :: more).length) (significand != 0 && !down) negative
    (.real (if negative then -0.0 else 0.0)) significand (exponent + shift)
  refine ⟨r, fun rest stops => Eq.trans ?_ (same rest)⟩
  have taken : (b :: (more ++ rest)).takeWhile isDigit = b :: more :=
    takeWhile_append_of_stops all stops.head_not_digit
  unfold readExponent
  split
  next sign unsigned split =>
  obtain ⟨rfl, rfl⟩ := Prod.mk.inj (split.symm.trans (signed rest))
  rw [bytes, List.cons_append]
  simp only [digit, taken, left, Bool.not_true, Bool.false_eq_true, if_false]
  rfl

theorem takes_exponent {sign : List Char} (signed : sign = [] ∨ sign = ['+'] ∨ sign = ['-'])
    (form : IsDigits digits) (negative : Bool) (significand : Nat) (exponent : Int) :
    Takes (readExponent negative significand exponent) (utf8 (sign ++ digits)) := by
  rcases signed with rfl | rfl | rfl
  · obtain ⟨⟨b, more, bytes, digit⟩, _⟩ := form.bytes
    refine takes_signed form false (fun rest => ?_) negative significand exponent
    rw [List.nil_append, bytes, List.cons_append]
    split
    · next heads =>
      rw [(List.cons.inj heads).1] at digit
      cases digit
    · next heads =>
      rw [(List.cons.inj heads).1] at digit
      cases digit
    · rfl
  · refine takes_signed form false (fun rest => ?_) negative significand exponent
    rw [utf8_append]
    rfl
  · refine takes_signed form true (fun rest => ?_) negative significand exponent
    rw [utf8_append]
    rfl

/-- An exponent opens with its mark, which is no digit and no point. -/
theorem IsExponent.bytes (form : IsExponent s) : s = [] ∨ ∃ mark tail, utf8 s = mark :: tail ∧
    isExponentMark mark = true ∧ isDigit mark = false ∧ mark ≠ 0x2E ∧
    ∀ negative significand exponent, Takes (readExponent negative significand exponent) tail := by
  rcases form with empty | ⟨mark, sign, digits, letter, signed, form, rfl⟩
  · exact Or.inl empty
  · have known : String.utf8EncodeChar mark = [byte mark] ∧ isExponentMark (byte mark) = true ∧
        isDigit (byte mark) = false ∧ byte mark ≠ 0x2E := by
      rcases letter with rfl | rfl <;> decide
    refine Or.inr ⟨byte mark, utf8 (sign ++ digits), ?_, known.2.1, known.2.2.1, known.2.2.2, ?_⟩
    · rw [utf8_cons, known.1, List.singleton_append]
    · exact takes_exponent signed form

/-- Digits end where an exponent or what follows the number begins. -/
theorem IsExponent.head_not_digit (form : IsExponent s) (stops : Stops rest) :
    ∀ b ∈ (utf8 s ++ rest).head?, isDigit b = false := by
  rcases form.bytes with rfl | ⟨mark, tail, bytes, _, other, _⟩
  · exact stops.head_not_digit
  · intro b m
    rw [bytes] at m
    obtain rfl : mark = b := by simpa using m
    exact other

/-! ### Fractions -/

theorem takes_fraction {e : List Char} (form : IsDigits digits) (scaled : IsExponent e) (negative : Bool)
    (significand : Nat) (exponent : Int) :
    Takes (readFraction negative significand exponent) (utf8 (digits ++ e)) := by
  obtain ⟨⟨b, more, bytes, digit⟩, all⟩ := form.bytes
  rw [bytes] at all
  have left (rest : Bytes) : (b :: (more ++ rest)).drop (b :: more).length = rest := List.drop_left
  let used := accumulate maxSignificand significand (b :: more)
  have read {rest : Bytes} (stops : Stops rest) :
      readFraction negative significand exponent (utf8 (digits ++ e) ++ rest) =
        match utf8 e ++ rest with
        | b :: after =>
          if isExponentMark b then readExponent negative used.1 (exponent - used.2) after
          else (realOf negative used.1 (exponent - used.2)).map (·, utf8 e ++ rest)
        | [] => (realOf negative used.1 (exponent - used.2)).map (·, utf8 e ++ rest) := by
    have taken : (b :: (more ++ (utf8 e ++ rest))).takeWhile isDigit = b :: more :=
      takeWhile_append_of_stops all (scaled.head_not_digit stops)
    unfold readFraction
    rw [utf8_append, bytes, List.append_assoc, List.cons_append]
    simp only [taken, left, List.isEmpty_cons, Bool.false_eq_true, if_false]
    rfl
  rcases scaled.bytes with rfl | ⟨mark, tail, opened, marked, _, _, takes⟩
  · obtain ⟨r, same⟩ := realOf_then negative used.1 (exponent - used.2)
    refine ⟨r, fun rest stops => ?_⟩
    rw [read stops, ← same rest, utf8_nil, List.nil_append]
    cases rest with
    | nil => rfl
    | cons b after => simp only [stops.head_not_mark b rfl, Bool.false_eq_true, if_false]
  · obtain ⟨r, same⟩ := takes negative used.1 (exponent - used.2)
    refine ⟨r, fun rest stops => ?_⟩
    rw [read stops, ← same rest stops, opened]
    simp only [List.cons_append, marked, if_true]

/-! ### Whole numbers -/

theorem whole_then (fits : Prop) [Decidable fits] (negative : Bool) (whole : Number) (significand : Nat)
    (exponent : Int) :
    ∃ r, ∀ rest, (if fits then .ok (whole, rest)
      else (realOf negative significand exponent).map (·, rest)) = numberThen r rest := by
  by_cases short : fits
  · exact ⟨some whole, fun _ => by rw [if_pos short]; rfl⟩
  · obtain ⟨r, same⟩ := realOf_then negative significand exponent
    exact ⟨r, fun rest => by rw [if_neg short]; exact same rest⟩

/-- A zero in front stands alone in its bytes too. -/
theorem IsWhole.bytes (form : IsWhole s) :
    (∃ b more, utf8 s = b :: more ∧ isDigit b = true ∧ (b = 0x30 → more = [])) ∧
      ∀ b ∈ utf8 s, isDigit b = true := by
  refine ⟨?_, form.digits.bytes.2⟩
  obtain ⟨c, more, rfl⟩ := List.exists_cons_of_ne_nil form.digits.nonempty
  have digit := form.digits.digits c (.head more)
  have single := isDigit_byte digit
  refine ⟨byte c, utf8 more, by rw [utf8_cons, single.1, List.singleton_append], single.2.2, fun zero => ?_⟩
  have same : c = '0' := by
    apply Char.toNat_inj.mp
    rw [← single.2.1, zero]
    rfl
  have alone := form.leads (by rw [same]; rfl)
  rw [(List.cons.inj alone).2, utf8_nil]

theorem takes_unsigned {whole fraction e : List Char} (form : IsWhole whole)
    (fractional : IsFraction fraction) (scaled : IsExponent e) (negative : Bool) :
    Takes (readUnsigned negative) (utf8 (whole ++ (fraction ++ e))) := by
  obtain ⟨⟨b, more, bytes, digit, single⟩, all⟩ := form.bytes
  rw [bytes] at all
  have left (rest : Bytes) : (b :: (more ++ rest)).drop (b :: more).length = rest := List.drop_left
  let used := accumulate maxSignificand 0 (b :: more)
  let dropped : Int := (b :: more).length - used.2
  have read {rest : Bytes} (stops : ∀ d ∈ (utf8 (fraction ++ e) ++ rest).head?, isDigit d = false) :
      readUnsigned negative (utf8 (whole ++ (fraction ++ e)) ++ rest) =
        match utf8 (fraction ++ e) ++ rest with
        | 0x2E :: after => readFraction negative used.1 dropped after
        | b' :: after =>
          if isExponentMark b' then readExponent negative used.1 dropped after
          else if used.2 = (b :: more).length then
            .ok (wholeNumber negative used.1, utf8 (fraction ++ e) ++ rest)
          else (realOf negative used.1 dropped).map (·, utf8 (fraction ++ e) ++ rest)
        | [] =>
          if used.2 = (b :: more).length then
            .ok (wholeNumber negative used.1, utf8 (fraction ++ e) ++ rest)
          else (realOf negative used.1 dropped).map (·, utf8 (fraction ++ e) ++ rest) := by
    have taken : (b :: (more ++ (utf8 (fraction ++ e) ++ rest))).takeWhile isDigit = b :: more :=
      takeWhile_append_of_stops all stops
    have alone : (b == 0x30 && (more ++ (utf8 (fraction ++ e) ++ rest)).head?.any isDigit) = false := by
      by_cases zero : b = 0x30
      · rw [single zero, List.nil_append]
        cases head : (utf8 (fraction ++ e) ++ rest).head? with
        | none => exact Bool.and_false _
        | some d => simp [stops d head]
      · simp [zero]
    unfold readUnsigned
    rw [utf8_append, bytes, List.append_assoc, List.cons_append]
    simp only [digit, alone, taken, left, Bool.not_true, Bool.false_eq_true, if_false]
    rfl
  rcases fractional with rfl | ⟨digits, form, rfl⟩
  · rw [List.nil_append] at read ⊢
    rcases scaled.bytes with rfl | ⟨mark, tail, opened, marked, _, other, takes⟩
    · obtain ⟨r, same⟩ := whole_then (used.2 = (b :: more).length) negative
        (wholeNumber negative used.1) used.1 dropped
      refine ⟨r, fun rest stops => ?_⟩
      rw [read (scaled.head_not_digit stops), ← same rest, utf8_nil, List.nil_append]
      rcases rest with _ | ⟨d, after⟩
      · rfl
      obtain ⟨_, point, unmarked⟩ := stops.not_digit
      split
      · next heads => exact absurd (List.cons.inj heads).1 point
      · next heads =>
        obtain ⟨rfl, rfl⟩ := List.cons.inj heads
        simp only [unmarked, Bool.false_eq_true, if_false]
      · next none => cases none
    · obtain ⟨r, same⟩ := takes negative used.1 dropped
      refine ⟨r, fun rest stops => ?_⟩
      rw [read (scaled.head_not_digit stops), ← same rest stops, opened, List.cons_append]
      split
      · next heads => exact absurd (List.cons.inj heads).1 other
      · next heads =>
        obtain ⟨rfl, rfl⟩ := List.cons.inj heads
        simp only [marked, if_true]
      · next none => cases none
  · obtain ⟨r, same⟩ := takes_fraction form scaled negative used.1 dropped
    have opened : utf8 ('.' :: digits ++ e) = 0x2E :: utf8 (digits ++ e) := by
      rw [List.cons_append, utf8_cons]
      rfl
    refine ⟨r, fun rest stops => ?_⟩
    rw [read, opened, List.cons_append]
    · exact same rest stops
    · intro d m
      rw [opened] at m
      obtain rfl : 0x2E = d := by simpa using m
      rfl

theorem IsNumber.takes (form : IsNumber s) : Takes readNumber (utf8 s) := by
  obtain ⟨sign, whole, fraction, e, signed, form, fractional, scaled, rfl⟩ := form
  rcases signed with rfl | rfl
  · obtain ⟨⟨b, more, bytes, digit, _⟩, _⟩ := form.bytes
    obtain ⟨r, same⟩ := takes_unsigned form fractional scaled false
    refine ⟨r, fun rest stops => Eq.trans ?_ (same rest stops)⟩
    rw [List.nil_append, utf8_append, bytes, List.append_assoc, List.cons_append, readNumber_cons digit]
  · obtain ⟨r, same⟩ := takes_unsigned form fractional scaled true
    refine ⟨r, fun rest stops => Eq.trans ?_ (same rest stops)⟩
    have opened : utf8 (['-'] ++ (whole ++ (fraction ++ e))) = 0x2D :: utf8 (whole ++ (fraction ++ e)) := by
      rw [utf8_append]
      rfl
    rw [opened, List.cons_append, readNumber]

/-- A number in range is read, and what follows is left. -/
theorem IsNumber.read (form : IsNumber s) (inRange : InRange s) :
    ∃ n, ∀ rest, Stops rest → readNumber (utf8 s ++ rest) = .ok (n, rest) := by
  obtain ⟨r, same⟩ := form.takes
  cases r with
  | none =>
    have alone := same [] (fun b m => absurd m (by simp))
    rw [List.append_nil] at alone
    exact absurd alone inRange
  | some n => exact ⟨n, same⟩

/-- A number opens with its sign or a digit. -/
theorem IsNumber.opens (form : IsNumber s) :
    ∃ b more, utf8 s = b :: more ∧ (b == 0x2D || isDigit b) = true := by
  obtain ⟨sign, whole, fraction, e, signed, form, _, _, rfl⟩ := form
  rcases signed with rfl | rfl
  · obtain ⟨⟨b, more, bytes, digit, _⟩, _⟩ := form.bytes
    refine ⟨b, more ++ utf8 (fraction ++ e), ?_, by simp [digit]⟩
    rw [List.nil_append, utf8_append, bytes, List.cons_append]
  · refine ⟨0x2D, utf8 (whole ++ (fraction ++ e)), ?_, rfl⟩
    rw [utf8_append]
    rfl

end RequestTrail.Json
