import RequestTrail.Proofs.ObjectName
import RequestTrail.Proofs.Text.Fields
import RequestTrail.Proofs.Text.WellFormed
import RequestTrail.Text.Blank

/-! The texts that are the form of a name. A byte has one form: its plain character, a plus sign or its
escape. So a text that keeps to these is the form of what is read from it. -/
namespace RequestTrail.ObjectName

open Text

def upperDigits : List Char := "0123456789ABCDEF".toList

/-- The byte that two digits stand for. -/
def escapedByte (high low : Char) : UInt8 :=
  (16 * upperDigits.idxOf high + upperDigits.idxOf low).toUInt8

/-- A byte that is neither a space nor a plain character. -/
def MustEscape (b : UInt8) : Prop := b ≠ byte ' ' ∧ ∀ c, isPlain c = true → b ≠ byte c

/-- A text of plain characters, plus signs and escapes in upper case, with no escape where one of the
others would do. -/
inductive IsForm : List Char → Prop
  | nil : IsForm []
  | plain {c : Char} {s : List Char} (alone : isPlain c = true) (rest : IsForm s) : IsForm (c :: s)
  | plus {s : List Char} (rest : IsForm s) : IsForm ('+' :: s)
  | escape {high low : Char} {s : List Char} (first : high ∈ upperDigits) (second : low ∈ upperDigits)
      (needed : MustEscape (escapedByte high low)) (rest : IsForm s) : IsForm ('%' :: high :: low :: s)

variable {b : UInt8} {c : Char} {s : List Char}

/-! ### Bytes and characters -/

theorem ascii_of_isPlain (plain : isPlain c = true) : c.toNat < 0x80 := by
  simp only [isPlain, isAlphanumeric, isLetter, isDigit, Bool.or_eq_true, Bool.and_eq_true,
    decide_eq_true_eq, beq_iff_eq] at plain
  rcases plain with (((((letter | letter) | digit) | rfl) | rfl) | rfl) | rfl
  · exact Utf8.ascii_of_le letter.2 (by decide)
  · exact Utf8.ascii_of_le letter.2 (by decide)
  · exact Utf8.ascii_of_le digit.2 (by decide)
  all_goals decide

theorem byte_char (b : UInt8) : byte (Char.ofNat b.toNat) = b := by
  have below : b.toNat < 256 := b.toNat_lt
  rw [byte, Utf8.toNat_char (Or.inl (by omega))]
  simp

theorem char_byte (ascii : c.toNat < 0x80) : Char.ofNat (byte c).toNat = c := by
  rw [Utf8.toNat_byte ascii, Char.ofNat_toNat]

theorem mustEscape_iff :
    MustEscape b ↔ Char.ofNat b.toNat ≠ ' ' ∧ isPlain (Char.ofNat b.toNat) = false := by
  constructor
  · rintro ⟨space, plain⟩
    refine ⟨fun blank => space ?_, Bool.eq_false_iff.mpr fun alone => plain _ alone (byte_char b).symm⟩
    rw [← blank, byte_char]
  · rintro ⟨space, plain⟩
    refine ⟨fun same => space ?_, fun c alone same => ?_⟩
    · rw [same, char_byte (by decide)]
    · rw [same, char_byte (ascii_of_isPlain alone), alone] at plain
      cases plain

/-! ### Forms of bytes -/

theorem encodeByte_of_isPlain (plain : isPlain c = true) : encodeByte (byte c) = [c] := by
  rw [encodeByte, char_byte (ascii_of_isPlain plain)]
  exact if_pos plain

theorem encodeByte_of_mustEscape (needed : MustEscape b) :
    encodeByte b = ['%', hexDigitUpper (b.toNat / 16), hexDigitUpper (b.toNat % 16)] := by
  obtain ⟨space, plain⟩ := mustEscape_iff.mp needed
  simp [encodeByte, plain, space]

theorem hexDigitUpper_idxOf {c : Char} (m : c ∈ upperDigits) :
    upperDigits.idxOf c < 16 ∧ hexDigitUpper (upperDigits.idxOf c) = c := by
  have all : ∀ c ∈ upperDigits, upperDigits.idxOf c < 16 ∧ hexDigitUpper (upperDigits.idxOf c) = c := by
    decide +kernel
  exact all c m

theorem idxOf_hexDigitUpper {n : Nat} (h : n < 16) :
    hexDigitUpper n ∈ upperDigits ∧ upperDigits.idxOf (hexDigitUpper n) = n := by
  have all : ∀ n < 16, hexDigitUpper n ∈ upperDigits ∧ upperDigits.idxOf (hexDigitUpper n) = n := by
    decide +kernel
  exact all n h

/-- Two digits are those of the byte that they stand for. -/
theorem digits_escapedByte {high low : Char} (first : high ∈ upperDigits) (second : low ∈ upperDigits) :
    hexDigitUpper ((escapedByte high low).toNat / 16) = high ∧
      hexDigitUpper ((escapedByte high low).toNat % 16) = low := by
  obtain ⟨smallHigh, sameHigh⟩ := hexDigitUpper_idxOf first
  obtain ⟨smallLow, sameLow⟩ := hexDigitUpper_idxOf second
  have value : (escapedByte high low).toNat = 16 * upperDigits.idxOf high + upperDigits.idxOf low :=
    Utf8.toNat_ofNat_of_lt (by omega)
  have quotient : (escapedByte high low).toNat / 16 = upperDigits.idxOf high := by omega
  have remainder : (escapedByte high low).toNat % 16 = upperDigits.idxOf low := by omega
  rw [quotient, remainder]
  exact ⟨sameHigh, sameLow⟩

theorem escapedByte_digits (b : UInt8) :
    escapedByte (hexDigitUpper (b.toNat / 16)) (hexDigitUpper (b.toNat % 16)) = b := by
  have below : b.toNat < 256 := b.toNat_lt
  rw [escapedByte, (idxOf_hexDigitUpper (by omega)).2, (idxOf_hexDigitUpper (by omega)).2,
    Nat.div_add_mod]
  simp

theorem IsForm.encodeByte (b : UInt8) (rest : IsForm s) : IsForm (encodeByte b ++ s) := by
  have below : b.toNat < 256 := b.toNat_lt
  rw [ObjectName.encodeByte]
  split
  next alone => exact rest.plain alone
  next plain =>
    split
    · exact rest.plus
    next space =>
      refine rest.escape (idxOf_hexDigitUpper (by omega)).1 (idxOf_hexDigitUpper (by omega)).1 ?_
      rw [escapedByte_digits]
      exact mustEscape_iff.mpr ⟨space, Bool.eq_false_iff.mpr plain⟩

theorem isForm_encodeBytes (bs : Bytes) : IsForm (encodeBytes bs) := by
  induction bs with
  | nil => exact .nil
  | cons b bs ih => exact ih.encodeByte b

/-- A text of the shape is the form of some bytes. -/
theorem IsForm.exists_bytes (form : IsForm s) : ∃ bs, encodeBytes bs = s := by
  have first (b : UInt8) (bs : Bytes) : encodeBytes (b :: bs) = ObjectName.encodeByte b ++ encodeBytes bs :=
    List.flatMap_cons
  induction form with
  | nil => exact ⟨[], rfl⟩
  | @plain c _ alone _ ih =>
    obtain ⟨bs, rfl⟩ := ih
    exact ⟨byte c :: bs, by rw [first, encodeByte_of_isPlain alone]; rfl⟩
  | plus _ ih =>
    obtain ⟨bs, rfl⟩ := ih
    exact ⟨byte ' ' :: bs, first _ _⟩
  | @escape high low _ digit next needed _ ih =>
    obtain ⟨bs, rfl⟩ := ih
    obtain ⟨sameHigh, sameLow⟩ := digits_escapedByte digit next
    refine ⟨escapedByte high low :: bs, ?_⟩
    rw [first, encodeByte_of_mustEscape needed, sameHigh, sameLow]
    rfl

/-- The form of a name is the one text of the shape that is read as its bytes. -/
theorem toList_encode_eq_iff {name : String} :
    (encode name).toList = s ↔ IsForm s ∧ decode? s = some (bytes name) := by
  constructor
  · rintro rfl
    refine ⟨?_, decode?_encode name⟩
    rw [encode, String.toList_ofList]
    exact isForm_encodeBytes _
  · rintro ⟨form, read⟩
    obtain ⟨bs, rfl⟩ := form.exists_bytes
    rw [decode?_encodeBytes] at read
    rw [encode, String.toList_ofList, ← Option.some.inj read]

theorem safe_of_isWritten (written : isWritten c = true) : c ∉ "/?#&=".toList ∧ isBlank c = false := by
  have ascii : c.toNat < 0x80 := by
    simp only [isWritten, Bool.or_eq_true, beq_iff_eq] at written
    rcases written with (plain | rfl) | rfl
    · exact ascii_of_isPlain plain
    all_goals decide
  have known : ∀ n : Fin 0x80, isWritten (Char.ofNat n) = true →
      Char.ofNat n ∉ "/?#&=".toList ∧ isBlank (Char.ofNat n) = false := by decide +kernel
  simpa using known ⟨c.toNat, ascii⟩ (by simpa using written)

/-- The form of a name is read back as its bytes. It is plain characters, plus signs and escapes alone and
so stays one segment of a path. Every text of that shape is read as some bytes, and where these are
UTF-8 it is the form of the name that they spell. -/
theorem encode_reversible :
    (∀ name, decode? (encode name).toList = some (bytes name) ∧ IsForm (encode name).toList ∧
      fields '/' (encode name).toList = [(encode name).toList] ∧
      ∀ c ∈ (encode name).toList, c ∉ "/?#&=".toList ∧ isBlank c = false) ∧
    (∀ s, IsForm s → ∃ bs, decode? s = some bs ∧
      ∀ name, Utf8.decode? bs = some name → encode (String.ofList name) = String.ofList s) ∧
    Function.Injective encode := by
  refine ⟨fun name => ?_, fun s form => ?_, fun a b same => ?_⟩
  · have safe : ∀ c ∈ (encode name).toList, c ∉ "/?#&=".toList ∧ isBlank c = false := fun c m =>
      safe_of_isWritten (isWritten_of_mem_encode m)
    refine ⟨decode?_encode name, (toList_encode_eq_iff.mp rfl).1, fields_of_not_mem fun m => ?_, safe⟩
    exact (safe '/' m).1 (by decide)
  · obtain ⟨bs, rfl⟩ := form.exists_bytes
    refine ⟨bs, decode?_encodeBytes bs, fun name read => ?_⟩
    have spelled : bytes (String.ofList name) = bs := by
      rw [bytes, String.toList_ofList]
      exact Utf8.decode?_eq_some_iff.mp read
    rw [encode, spelled]
  · have read := decode?_encode a
    rw [same, decode?_encode] at read
    exact Utf8.bytes_injective (Option.some.inj read).symm

/-- An escape of a plain character is read, and no name is written so. -/
example : decode? "%41".toList = some (bytes "A") ∧ encode "A" = "A" := by decide +kernel

end RequestTrail.ObjectName
