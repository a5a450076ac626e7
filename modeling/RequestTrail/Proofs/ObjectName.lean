import Mathlib.Logic.Function.Basic
import RequestTrail.ObjectName
import RequestTrail.Proofs.Text.Utf8

/-! Reading encoded names back. Every byte is read from what it is written as, whatever follows, so a
name is determined by its encoded form. -/
namespace RequestTrail.ObjectName

open Text

/-- The characters of an encoded name. -/
def isWritten (c : Char) : Bool := isPlain c || c == '+' || c == '%'

theorem isWritten_of_mem_encodeByte {b : UInt8} {c : Char} (h : c ∈ encodeByte b) :
    isWritten c = true := by
  have digits : ∀ n < 16, isWritten (Text.hexDigitUpper n) = true := by decide
  rw [encodeByte] at h
  split at h
  next plain =>
    rw [List.mem_singleton.mp h, isWritten, plain]
    rfl
  split at h
  · rw [List.mem_singleton.mp h]
    rfl
  · have high := digits (b.toNat / 16) (by have := b.toNat_lt; omega)
    have low := digits (b.toNat % 16) (Nat.mod_lt _ (by decide))
    simp only [List.mem_cons, List.not_mem_nil, or_false] at h
    rcases h with rfl | rfl | rfl
    · rfl
    · exact high
    · exact low

/-- A plain character is no sign of the encoding, and its UTF-8 form is the byte it stands for. -/
theorem utf8EncodeChar_of_isPlain {b : UInt8} (plain : isPlain (Char.ofNat b.toNat) = true) :
    Char.ofNat b.toNat ≠ '+' ∧ Char.ofNat b.toNat ≠ '%' ∧
      String.utf8EncodeChar (Char.ofNat b.toNat) = [b] := by
  have all : ∀ n : Fin 256, isPlain (Char.ofNat n) = true → Char.ofNat n ≠ '+' ∧
      Char.ofNat n ≠ '%' ∧ String.utf8EncodeChar (Char.ofNat n) = [UInt8.ofNat n] := by
    decide +kernel
  simpa using all ⟨b.toNat, b.toNat_lt⟩ plain

theorem hexValue?_hexDigitUpper {n : Nat} (h : n < 16) : hexValue? (hexDigitUpper n) = some n := by
  have all : ∀ k : Fin 16, hexValue? (hexDigitUpper k.val) = some k.val := by decide
  exact all ⟨n, h⟩

theorem decode?_encodeByte (b : UInt8) (rest : List Char) :
    decode? (encodeByte b ++ rest) = (decode? rest).map (b :: ·) := by
  have below : b.toNat < 256 := b.toNat_lt
  rw [encodeByte]
  split
  next plain =>
    obtain ⟨notPlus, notPercent, single⟩ := utf8EncodeChar_of_isPlain plain
    rw [List.singleton_append, decode?, if_neg notPercent, single]
    · rfl
    · exact notPlus
    · exact fun _ _ _ percent => absurd percent notPercent
  split
  next blank =>
    have same : b = byte ' ' := by
      have all : ∀ n : Fin 256, Char.ofNat n = ' ' → UInt8.ofNat n = byte ' ' := by decide +kernel
      simpa using all ⟨b.toNat, below⟩ blank
    rw [List.singleton_append, decode?, same]
  next =>
    have high := hexValue?_hexDigitUpper (n := b.toNat / 16) (by omega)
    have low := hexValue?_hexDigitUpper (n := b.toNat % 16) (by omega)
    have whole : (16 * (b.toNat / 16) + b.toNat % 16).toUInt8 = b := by
      rw [Nat.div_add_mod]
      simp
    simp only [List.cons_append, List.nil_append, decode?, high, low, Option.bind_eq_bind,
      Option.bind_some, whole]
    cases decode? rest <;> rfl

theorem decode?_encodeBytes (bs : Bytes) : decode? (encodeBytes bs) = some bs := by
  induction bs with
  | nil => rfl
  | cons b bs ih =>
    have first : encodeBytes (b :: bs) = encodeByte b ++ encodeBytes bs := List.flatMap_cons
    rw [first, decode?_encodeByte, ih]
    rfl

theorem decode?_encode (name : String) : decode? (encode name).toList = some (bytes name) := by
  rw [encode, String.toList_ofList, decode?_encodeBytes]

theorem isWritten_of_mem_encode {name : String} {c : Char} (h : c ∈ (encode name).toList) :
    isWritten c = true := by
  rw [encode, String.toList_ofList] at h
  obtain ⟨b, _, inside⟩ := List.mem_flatMap.mp h
  exact isWritten_of_mem_encodeByte inside

end RequestTrail.ObjectName
