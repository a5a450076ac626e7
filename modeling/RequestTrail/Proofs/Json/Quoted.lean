import RequestTrail.Json.Quoted
import RequestTrail.Json.Writer
import RequestTrail.Proofs.Text.Utf8

/-! A written string is read back, under the strict reading as its text and under the lax one as its
bytes. Each character is read by itself: as an escape, or as bytes that stand for themselves. -/
namespace RequestTrail.Json

open Text

variable {strict : Bool} {b : UInt8} {c : Char} {s : List Char}

/-- A byte that stands for itself in a string, whatever the reading. -/
def StandsAlone (b : UInt8) : Prop := b ≠ 0x22 ∧ b ≠ 0x5C ∧ 0x20 ≤ b

theorem before_before (first second : Bytes) (tail : Except ReadFault (Bytes × Bytes)) :
    before first (before second tail) = before (first ++ second) tail := by
  cases tail <;> simp [before, Except.map]

theorem readRaw_cons (alone : StandsAlone b) (rest : Bytes) :
    readRaw strict none (b :: rest) = before [b] (readRaw strict none rest) := by
  obtain ⟨quote, slash, visible⟩ := alone
  have above : ¬b < 0x20 := UInt8.not_lt.mpr visible
  rw [readRaw.eq_8 strict b rest (fun h => absurd h slash) quote
    (fun _ _ _ _ _ h => absurd h slash) (fun _ h => absurd h slash) (fun _ _ h => absurd h slash)]
  simp [above]

theorem readRaw_append {bytes : Bytes} (alone : ∀ b ∈ bytes, StandsAlone b) (rest : Bytes) :
    readRaw strict none (bytes ++ rest) = before bytes (readRaw strict none rest) := by
  induction bytes with
  | nil => cases h : readRaw strict none rest <;> simp [before, Except.map, h]
  | cons b bytes ih =>
    rw [List.cons_append, readRaw_cons (alone b (.head bytes)), ih fun b' m => alone b' (.tail b m),
      before_before, List.singleton_append]

theorem readRaw_escape {e : UInt8} (short : escapedByte? b = some e) (other : b ≠ 0x75)
    (rest : Bytes) :
    readRaw strict none (0x5C :: b :: rest) = before [e] (readRaw strict none rest) := by
  rw [readRaw.eq_7 strict none b rest other (fun _ _ _ _ _ _ h => absurd h other)
    (fun _ _ _ _ _ _ _ h => absurd h other)]
  simp [short]

theorem readRaw_unit {x y z w : UInt8} (digits : hexUnit? x y z w = some c.toNat) (rest : Bytes) :
    readRaw strict none (0x5C :: 0x75 :: x :: y :: z :: w :: rest) =
      before (String.utf8EncodeChar c) (readRaw strict none rest) := by
  have scalar : c.toNat < 0xD800 ∨ 0xDFFF < c.toNat ∧ c.toNat < 0x110000 := c.valid
  have leading : isLeading c.toNat = false := by simp [isLeading]; omega
  have trailing : isTrailing c.toNat = false := by simp [isTrailing]; omega
  rw [readRaw.eq_4, digits]
  simp [leading, trailing, unitBytes, Char.ofNat_toNat]

/-- Two units that write one character past the first plane. -/
theorem readRaw_pair {x y z w x' y' z' w' : UInt8} (astral : 0x10000 ≤ c.toNat)
    (high : hexUnit? x y z w = some (0xD800 + (c.toNat - 0x10000) / 0x400))
    (low : hexUnit? x' y' z' w' = some (0xDC00 + (c.toNat - 0x10000) % 0x400)) (rest : Bytes) :
    readRaw strict none
        (0x5C :: 0x75 :: x :: y :: z :: w :: 0x5C :: 0x75 :: x' :: y' :: z' :: w' :: rest) =
      before (String.utf8EncodeChar c) (readRaw strict none rest) := by
  have scalar : c.toNat < 0xD800 ∨ 0xDFFF < c.toNat ∧ c.toNat < 0x110000 := c.valid
  have leading : isLeading (0xD800 + (c.toNat - 0x10000) / 0x400) = true := by
    simp [isLeading]; omega
  have trailing : isTrailing (0xDC00 + (c.toNat - 0x10000) % 0x400) = true := by
    simp [isTrailing]; omega
  have whole : 0x10000 + (0xD800 + (c.toNat - 0x10000) / 0x400 - 0xD800) * 0x400 +
      (0xDC00 + (c.toNat - 0x10000) % 0x400 - 0xDC00) = c.toNat := by omega
  have joined : pairBytes (0xD800 + (c.toNat - 0x10000) / 0x400)
      (0xDC00 + (c.toNat - 0x10000) % 0x400) = String.utf8EncodeChar c := by
    rw [pairBytes, whole, Char.ofNat_toNat]
  rw [readRaw.eq_4, high]
  simp only [leading, if_true]
  rw [readRaw.eq_5, low]
  simp only [trailing, if_true, joined]

/-- A character that is not escaped is written in bytes that stand for themselves. -/
theorem standsAlone_of_mem (quote : c ≠ '"') (slash : c ≠ '\\') (visible : 0x20 ≤ c.toNat) :
    ∀ b ∈ String.utf8EncodeChar c, StandsAlone b := by
  have differs {d : Char} (h : c ≠ d) : c.toNat ≠ d.toNat := fun same => h (Char.toNat_inj.mp same)
  have notQuote : c.toNat ≠ 0x22 := differs quote
  have notSlash : c.toNat ≠ 0x5C := differs slash
  intro b m
  have value := Utf8.toNat_of_mem_utf8EncodeChar m
  refine ⟨?_, ?_, UInt8.le_iff_toNat_le.mpr ?_⟩
  · rintro rfl
    change 0x22 = _ ∨ 0x80 ≤ 0x22 at value
    omega
  · rintro rfl
    change 0x5C = _ ∨ 0x80 ≤ 0x5C at value
    omega
  · change 0x20 ≤ b.toNat
    omega

/-- The two last digits of the escape of a control character. -/
theorem hexUnit?_hexByte {n : Nat} (control : n < 0x20) : ∃ x y,
    utf8 (hexByte (UInt8.ofNat n)) = [x, y] ∧ hexUnit? 0x30 0x30 x y = some n := by
  have all : ∀ k : Fin 0x20,
      utf8 (hexByte (UInt8.ofNat k)) = [byte (hexDigit (k / 16)), byte (hexDigit (k % 16))] ∧
        hexUnit? 0x30 0x30 (byte (hexDigit (k / 16))) (byte (hexDigit (k % 16))) = some k.val := by
    decide
  exact ⟨_, _, all ⟨n, control⟩⟩

/-- One character is read from what is written for it. -/
theorem readRaw_escapeChar (c : Char) (rest : Bytes) :
    readRaw strict none (utf8 (escapeChar c) ++ rest) =
      before (String.utf8EncodeChar c) (readRaw strict none rest) := by
  have short {b e : UInt8} (h : escapedByte? b = some e) (other : b ≠ 0x75) :
      readRaw strict none (0x5C :: b :: rest) = before [e] (readRaw strict none rest) :=
    readRaw_escape h other rest
  unfold escapeChar
  split
  · exact short (b := 0x22) rfl (by decide)
  · exact short (b := 0x5C) rfl (by decide)
  · exact short (b := 0x62) rfl (by decide)
  · exact short (b := 0x66) rfl (by decide)
  · exact short (b := 0x6E) rfl (by decide)
  · exact short (b := 0x72) rfl (by decide)
  · exact short (b := 0x74) rfl (by decide)
  next quote slash _ _ _ _ _ =>
  split
  · next control =>
    obtain ⟨x, y, written, digits⟩ := hexUnit?_hexByte control
    have bytes : utf8 ('\\' :: 'u' :: '0' :: '0' :: hexByte (byte c)) =
        [0x5C, 0x75, 0x30, 0x30] ++ utf8 (hexByte (UInt8.ofNat c.toNat)) := rfl
    rw [bytes, written]
    exact readRaw_unit digits rest
  · next visible =>
    have bytes : utf8 [c] = String.utf8EncodeChar c := by simp [utf8]
    rw [bytes]
    exact readRaw_append (standsAlone_of_mem quote slash (Nat.le_of_not_lt visible)) rest

/-- The bytes of a string are read up to its closing mark, and what follows is left. -/
theorem readRaw_written (s : List Char) (rest : Bytes) :
    readRaw strict none (utf8 (s.flatMap escapeChar ++ ['"']) ++ rest) = .ok (utf8 s, rest) := by
  induction s with
  | nil => exact readRaw.eq_3 strict rest
  | cons c s ih =>
    rw [List.flatMap_cons, List.append_assoc, utf8_append, List.append_assoc, readRaw_escapeChar, ih,
      utf8_cons]
    rfl

/-- A string is read from what is written for it after its opening mark. -/
theorem readText_written (s : String) (rest : Bytes) :
    readText (utf8 (s.toList.flatMap escapeChar ++ ['"']) ++ rest) = .ok (s, rest) := by
  simp only [readText, readRaw_written, bind, Except.bind, Utf8.decode?_utf8, String.ofList_toList]

end RequestTrail.Json
