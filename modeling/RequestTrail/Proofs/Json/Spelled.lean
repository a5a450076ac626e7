import RequestTrail.Proofs.Json.Grammar
import RequestTrail.Proofs.Json.Quoted

/-! Every form of a string is read as the text that it spells, one character after another. -/
namespace RequestTrail.Json

open Text

variable {strict : Bool} {written s digits : List Char} {n : Nat}

theorem ascii_of_hexValue? {c : Char} {v : Nat} (value : hexValue? c = some v) : c.toNat < 0x80 := by
  unfold hexValue? at value
  split at value
  · next digit =>
    simp only [Text.isDigit, Bool.and_eq_true, decide_eq_true_eq] at digit
    exact Utf8.ascii_of_le digit.2 (by decide)
  split at value
  · next letter =>
    simp only [Bool.and_eq_true, decide_eq_true_eq] at letter
    exact Utf8.ascii_of_le letter.2 (by decide)
  split at value
  · next letter =>
    simp only [Bool.and_eq_true, decide_eq_true_eq] at letter
    exact Utf8.ascii_of_le letter.2 (by decide)
  · cases value

/-- A digit is one byte, which has the value of the digit. -/
theorem hexValue?_byte {c : Char} {v : Nat} (value : hexValue? c = some v) :
    String.utf8EncodeChar c = [byte c] ∧ hexValue? (Char.ofNat (byte c).toNat) = some v := by
  have ascii := ascii_of_hexValue? value
  refine ⟨Utf8.utf8EncodeChar_of_ascii ascii, ?_⟩
  rw [Utf8.toNat_byte ascii, Char.ofNat_toNat, value]

/-- One more digit of a number. -/
theorem exists_hexValue? {c : Char} {n m : Nat}
    (value : (hexValue? c).bind (fun d => if d < 16 then some (n * 16 + d) else none) = some m) :
    ∃ d, hexValue? c = some d ∧ n * 16 + d = m := by
  obtain ⟨d, read, value⟩ := Option.bind_eq_some_iff.mp value
  split at value
  · exact ⟨d, read, Option.some.inj value⟩
  · cases value

/-- The bytes of a unit are read as its number. -/
theorem IsUnit.bytes (unit : IsUnit digits n) :
    ∃ x y z w, utf8 digits = [x, y, z, w] ∧ hexUnit? x y z w = some n := by
  obtain ⟨length, value⟩ := unit
  rcases digits with _ | ⟨a, _ | ⟨b, _ | ⟨c, _ | ⟨d, _ | ⟨e, more⟩⟩⟩⟩⟩
  case cons.cons.cons.cons.nil =>
    obtain ⟨n₁, first, value⟩ := Option.bind_eq_some_iff.mp value
    obtain ⟨n₂, second, value⟩ := Option.bind_eq_some_iff.mp value
    obtain ⟨n₃, third, value⟩ := Option.bind_eq_some_iff.mp value
    obtain ⟨n₄, fourth, value⟩ := Option.bind_eq_some_iff.mp value
    obtain rfl := Option.some.inj value
    obtain ⟨v₁, read₁, rfl⟩ := exists_hexValue? first
    obtain ⟨v₂, read₂, rfl⟩ := exists_hexValue? second
    obtain ⟨v₃, read₃, rfl⟩ := exists_hexValue? third
    obtain ⟨v₄, read₄, rfl⟩ := exists_hexValue? fourth
    have bytes : utf8 [a, b, c, d] = [byte a, byte b, byte c, byte d] := by
      simp only [utf8_cons, (hexValue?_byte read₁).1, (hexValue?_byte read₂).1, (hexValue?_byte read₃).1,
        (hexValue?_byte read₄).1, utf8_nil, List.singleton_append]
    refine ⟨_, _, _, _, bytes, ?_⟩
    simp [hexUnit?, (hexValue?_byte read₁).2, (hexValue?_byte read₂).2, (hexValue?_byte read₃).2,
      (hexValue?_byte read₄).2]
  all_goals simp at length

theorem readRaw_mark {mark c : Char} (form : (mark, c) ∈ escapes) (rest : Bytes) :
    readRaw strict none (0x5C :: (String.utf8EncodeChar mark ++ rest)) =
      before (String.utf8EncodeChar c) (readRaw strict none rest) := by
  have known : ∀ p ∈ escapes, String.utf8EncodeChar p.1 = [byte p.1] ∧ byte p.1 ≠ 0x75 ∧
      escapedByte? (byte p.1) = some (byte p.2) ∧ String.utf8EncodeChar p.2 = [byte p.2] := by
    decide
  obtain ⟨single, other, short, written⟩ := known (mark, c) form
  rw [single, written, List.singleton_append]
  exact readRaw_escape short other rest

/-- A string is read up to its closing mark, and what follows is left. -/
theorem readRaw_spelled (spelled : Spells written s) (rest : Bytes) :
    readRaw strict none (utf8 written ++ 0x22 :: rest) = .ok (utf8 s, rest) := by
  induction spelled with
  | nil => simp [utf8_nil, readRaw]
  | plain quote slash visible _ ih =>
    rw [utf8_cons, List.append_assoc, readRaw_append (standsAlone_of_mem quote slash visible), ih,
      utf8_cons]
    rfl
  | escape form _ ih =>
    have slash : String.utf8EncodeChar '\\' = [0x5C] := rfl
    rw [utf8_cons, utf8_cons, slash, List.singleton_append, List.cons_append, List.append_assoc,
      readRaw_mark form, ih, utf8_cons]
    rfl
  | unit digits _ ih =>
    obtain ⟨x, y, z, w, bytes, value⟩ := digits.bytes
    rw [utf8_cons, utf8_cons, utf8_append, bytes]
    change readRaw strict none (0x5C :: 0x75 :: x :: y :: z :: w :: (utf8 _ ++ 0x22 :: rest)) = _
    rw [readRaw_unit value, ih, utf8_cons]
    rfl
  | pair astral high low _ ih =>
    obtain ⟨x, y, z, w, first, highValue⟩ := high.bytes
    obtain ⟨x', y', z', w', second, lowValue⟩ := low.bytes
    rw [utf8_cons, utf8_cons, utf8_append, utf8_cons, utf8_cons, utf8_append, first, second]
    change readRaw strict none (0x5C :: 0x75 :: x :: y :: z :: w :: 0x5C :: 0x75 :: x' :: y' :: z' ::
      w' :: (utf8 _ ++ 0x22 :: rest)) = _
    rw [readRaw_pair astral highValue lowValue, ih, utf8_cons]
    rfl

theorem readText_spelled (spelled : Spells written s) (rest : Bytes) :
    readText (utf8 written ++ 0x22 :: rest) = .ok (String.ofList s, rest) := by
  simp only [readText, readRaw_spelled spelled, bind, Except.bind, Utf8.decode?_utf8]

end RequestTrail.Json
