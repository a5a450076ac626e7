import RequestTrail.Proofs.Text.Utf8

/-! Bytes that are read as a text are the UTF-8 form of that text and of no other: a character is read
from its own bytes alone, since the bounds of a sequence keep out every other form of it. -/
namespace RequestTrail.Utf8

open Text

variable {n : Nat} {p : Partial} {c : Char} {bs : Bytes} {out : List (Option Char)}

/-! ### Sequences under way -/

/-- The bounds of the next byte lie within those of a byte after the first. -/
def Partial.Bounded (p : Partial) : Prop := 0x80 ≤ p.low.toNat ∧ p.high.toNat ≤ 0xBF

theorem bounded_after_first (bits more : Nat) : (Partial.mk bits more 0x80 0xBF).Bounded :=
  ⟨Nat.le_refl 0x80, Nat.le_refl 0xBF⟩

/-- A sequence under way is read on only by a byte that its bounds let through. -/
theorem exists_tail_of_piecesFrom (bounded : p.Bounded)
    (read : piecesFrom (some p) bs = some c :: out) :
    ∃ n rest, n < 64 ∧ bs = tail n :: rest ∧ p.Allows n := by
  cases bs with
  | nil => simp [piecesFrom] at read
  | cons b rest =>
    rw [piecesFrom] at read
    split at read
    next admits =>
      simp only [Partial.admits, Bool.and_eq_true, decide_eq_true_eq, UInt8.le_iff_toNat_le] at admits
      obtain ⟨low, high⟩ := bounded
      have inside : (b.toNat - 0x80) % 64 + 128 = b.toNat := by omega
      refine ⟨b.toNat - 0x80, rest, by omega, ?_, ?_⟩
      · rw [tail, inside, UInt8.ofNat_toNat]
      · rw [Partial.Allows, inside]
        exact admits
    · simp at read

theorem last_of_piecesFrom (bounded : p.Bounded) (last : p.more = 1)
    (read : piecesFrom (some p) bs = some c :: out) :
    ∃ n rest, n < 64 ∧ bs = tail n :: rest ∧ p.Allows n ∧ c = Char.ofNat (p.bits * 64 + n) ∧
      out = piecesFrom none rest := by
  obtain ⟨n, rest, small, rfl, allowed⟩ := exists_tail_of_piecesFrom bounded read
  rw [piecesFrom_last allowed last, Nat.mod_eq_of_lt small] at read
  obtain ⟨same, left⟩ := List.cons.inj read
  exact ⟨n, rest, small, rfl, allowed, (Option.some.inj same).symm, left.symm⟩

theorem more_of_piecesFrom (bounded : p.Bounded) (more : p.more ≠ 1)
    (read : piecesFrom (some p) bs = some c :: out) :
    ∃ n rest, n < 64 ∧ bs = tail n :: rest ∧ p.Allows n ∧
      piecesFrom (some ⟨p.bits * 64 + n, p.more - 1, 0x80, 0xBF⟩) rest = some c :: out := by
  obtain ⟨n, rest, small, rfl, allowed⟩ := exists_tail_of_piecesFrom bounded read
  rw [piecesFrom_more allowed more, Nat.mod_eq_of_lt small] at read
  exact ⟨n, rest, small, rfl, allowed, read⟩

/-! ### First bytes -/

/-- A sequence that a first byte opens: its bits are those of the byte, and the bounds of the next byte
keep out overlong forms, surrogates and what is past U+10FFFF. -/
inductive Opens (n : Nat) (p : Partial) : Prop
  | two (first : n = p.bits + 0xC0) (long : 2 ≤ p.bits) (high : p.bits < 0x20) (more : p.more = 1)
  | three (first : n = p.bits + 0xE0) (high : p.bits < 0x10) (more : p.more = 2)
      (long : p.bits = 0 → p.low.toNat = 0xA0) (scalar : p.bits = 0xD → p.high.toNat = 0x9F)
  | four (first : n = p.bits + 0xF0) (high : p.bits < 5) (more : p.more = 3)
      (long : p.bits = 0 → p.low.toNat = 0x90) (scalar : p.bits = 4 → p.high.toNat = 0x8F)

/-- What the start of a sequence says about its first byte. -/
def Start.Fits (n : Nat) : Start → Prop
  | .scalar c => n ≤ 0x7F ∧ c = Char.ofNat n
  | .opens p => p.Bounded ∧ Opens n p
  | .broken => True

theorem start_fits (h : n < 256) : (start (UInt8.ofNat n)).Fits n := by
  rw [start_ofNat h]
  by_cases one : n < 0x80
  · rw [if_pos one]
    exact ⟨by omega, rfl⟩
  rw [if_neg one]
  by_cases stray : n < 0xC2
  · rw [if_pos stray]
    trivial
  rw [if_neg stray]
  by_cases two : n < 0xE0
  · rw [if_pos two]
    exact ⟨bounded_after_first _ _,
      .two (by dsimp only; omega) (by dsimp only; omega) (by dsimp only; omega) rfl⟩
  rw [if_neg two]
  by_cases long : n = 0xE0
  · rw [if_pos long]
    exact ⟨⟨by decide, by decide⟩, .three long (by decide) rfl (by decide) (by decide)⟩
  rw [if_neg long]
  by_cases surrogates : n = 0xED
  · rw [if_pos surrogates]
    exact ⟨⟨by decide, by decide⟩, .three surrogates (by decide) rfl (by decide) (by decide)⟩
  rw [if_neg surrogates]
  by_cases three : n < 0xF0
  · rw [if_pos three]
    exact ⟨bounded_after_first _ _, .three (by dsimp only; omega) (by dsimp only; omega) rfl
      (by dsimp only; omega) (by dsimp only; omega)⟩
  rw [if_neg three]
  by_cases longer : n = 0xF0
  · rw [if_pos longer]
    exact ⟨⟨by decide, by decide⟩, .four longer (by decide) rfl (by decide) (by decide)⟩
  rw [if_neg longer]
  by_cases four : n < 0xF4
  · rw [if_pos four]
    exact ⟨bounded_after_first _ _, .four (by dsimp only; omega) (by dsimp only; omega) rfl
      (by dsimp only; omega) (by dsimp only; omega)⟩
  rw [if_neg four]
  by_cases last : n = 0xF4
  · rw [if_pos last]
    exact ⟨⟨by decide, by decide⟩, .four last (by decide) rfl (by decide) (by decide)⟩
  · rw [if_neg last]
    trivial

/-! ### Whole characters -/

theorem toNat_char (valid : n.isValidChar) : (Char.ofNat n).toNat = n := by
  rw [Char.ofNat, dif_pos valid]
  rfl

/-- The bytes of a number that is a scalar value. -/
theorem utf8EncodeChar_ofNat (valid : n.isValidChar) : String.utf8EncodeChar (Char.ofNat n) =
    if n ≤ 0x7F then [UInt8.ofNat n]
    else if n ≤ 0x7FF then [UInt8.ofNat (n / 64 % 32 + 192), tail n]
    else if n ≤ 0xFFFF then [UInt8.ofNat (n / 4096 % 16 + 224), tail (n / 64), tail n]
    else [UInt8.ofNat (n / 262144 % 8 + 240), tail (n / 4096), tail (n / 64), tail n] := by
  rw [utf8EncodeChar_eq, toNat_char valid]

theorem tail_of_mod (m : Nat) (small : n < 64) (same : m % 64 = n) : tail m = tail n := by
  rw [tail, tail, same, Nat.mod_eq_of_lt small]

/-- The bytes of `c` come first, and `out` is read from what follows them. -/
def StartsWith (c : Char) (out : List (Option Char)) (bs : Bytes) : Prop :=
  ∃ rest, bs = String.utf8EncodeChar c ++ rest ∧ out = piecesFrom none rest

theorem startsWith_of_two (long : 2 ≤ p.bits) (high : p.bits < 0x20) (more : p.more = 1)
    (bounded : p.Bounded) (read : piecesFrom (some p) bs = some c :: out) :
    StartsWith c out (UInt8.ofNat (p.bits + 0xC0) :: bs) := by
  obtain ⟨k, rest, small, rfl, _, rfl, left⟩ := last_of_piecesFrom bounded more read
  refine ⟨rest, ?_, left⟩
  generalize value : p.bits * 64 + k = v
  have first : v / 64 % 32 = p.bits := by omega
  rw [utf8EncodeChar_ofNat (Or.inl (by omega)), if_neg (by omega), if_pos (by omega),
    tail_of_mod v small (by omega), first]
  rfl

theorem startsWith_of_three (high : p.bits < 0x10) (more : p.more = 2)
    (long : p.bits = 0 → p.low.toNat = 0xA0) (scalar : p.bits = 0xD → p.high.toNat = 0x9F)
    (bounded : p.Bounded) (read : piecesFrom (some p) bs = some c :: out) :
    StartsWith c out (UInt8.ofNat (p.bits + 0xE0) :: bs) := by
  obtain ⟨j, next, smallJ, rfl, ⟨above, under⟩, read⟩ := more_of_piecesFrom bounded (by omega) read
  obtain ⟨k, rest, smallK, rfl, _, rfl, left⟩ :=
    last_of_piecesFrom (bounded_after_first _ _) (by dsimp only; omega) read
  refine ⟨rest, ?_, left⟩
  generalize value : (p.bits * 64 + j) * 64 + k = v
  have valid : v.isValidChar := by
    rw [Nat.isValidChar]
    omega
  have first : v / 4096 % 16 = p.bits := by omega
  rw [utf8EncodeChar_ofNat valid, if_neg (by omega), if_neg (by omega), if_pos (by omega),
    tail_of_mod v smallK (by omega), tail_of_mod (v / 64) smallJ (by omega), first]
  rfl

theorem startsWith_of_four (high : p.bits < 5) (more : p.more = 3)
    (long : p.bits = 0 → p.low.toNat = 0x90) (scalar : p.bits = 4 → p.high.toNat = 0x8F)
    (bounded : p.Bounded) (read : piecesFrom (some p) bs = some c :: out) :
    StartsWith c out (UInt8.ofNat (p.bits + 0xF0) :: bs) := by
  obtain ⟨i, next, smallI, rfl, ⟨above, under⟩, read⟩ := more_of_piecesFrom bounded (by omega) read
  obtain ⟨j, next, smallJ, rfl, _, read⟩ :=
    more_of_piecesFrom (bounded_after_first _ _) (by dsimp only; omega) read
  obtain ⟨k, rest, smallK, rfl, _, rfl, left⟩ :=
    last_of_piecesFrom (bounded_after_first _ _) (by dsimp only; omega) read
  refine ⟨rest, ?_, left⟩
  generalize value : ((p.bits * 64 + i) * 64 + j) * 64 + k = v
  have valid : v.isValidChar := by
    rw [Nat.isValidChar]
    omega
  have first : v / 262144 % 8 = p.bits := by omega
  rw [utf8EncodeChar_ofNat valid, if_neg (by omega), if_neg (by omega), if_neg (by omega),
    tail_of_mod v smallK (by omega), tail_of_mod (v / 64) smallJ (by omega),
    tail_of_mod (v / 4096) smallI (by omega), first]
  rfl

/-- A character is read from nothing but its bytes. -/
theorem startsWith_of_piecesFrom (read : piecesFrom none bs = some c :: out) :
    StartsWith c out bs := by
  cases bs with
  | nil => cases read
  | cons b bs =>
    obtain ⟨n, below, rfl⟩ : ∃ n, n < 256 ∧ b = UInt8.ofNat n := ⟨b.toNat, b.toNat_lt, by simp⟩
    have fits := start_fits below
    rw [piecesFrom] at read
    cases opened : start (UInt8.ofNat n) with
    | scalar d =>
      rw [opened] at read fits
      obtain ⟨small, rfl⟩ := fits
      obtain ⟨same, left⟩ := List.cons.inj read
      obtain rfl := Option.some.inj same
      exact ⟨bs, by rw [utf8EncodeChar_ofNat (Or.inl (by omega)), if_pos small]; rfl, left.symm⟩
    | broken => simp [opened] at read
    | opens p =>
      rw [opened] at read fits
      obtain ⟨bounded, shape⟩ := fits
      cases shape with
      | two first long high more => exact first ▸ startsWith_of_two long high more bounded read
      | three first high more long scalar =>
        exact first ▸ startsWith_of_three high more long scalar bounded read
      | four first high more long scalar =>
        exact first ▸ startsWith_of_four high more long scalar bounded read

theorem eq_nil_of_piecesFrom {under : Option Partial} (read : piecesFrom under bs = []) :
    under = none ∧ bs = [] := by
  fun_induction piecesFrom under bs with
  | case1 => exact ⟨rfl, rfl⟩
  | case4 b rest p opened ih => exact absurd (ih read).1 (Option.some_ne_none p)
  | case7 p b rest admits more ih => exact absurd (ih read).1 (Option.some_ne_none _)
  | _ => cases read

theorem bytes_of_pieces {cs : List Char} (read : pieces bs = cs.map some) : utf8 cs = bs := by
  induction cs generalizing bs with
  | nil =>
    rw [(eq_nil_of_piecesFrom read).2]
    rfl
  | cons c cs ih =>
    obtain ⟨rest, rfl, left⟩ := startsWith_of_piecesFrom read
    rw [utf8_cons, ih left.symm]

theorem eq_map_some_of_mapM {parts : List (Option Char)} {cs : List Char}
    (whole : parts.mapM id = some cs) : parts = cs.map some := by
  induction parts generalizing cs with
  | nil =>
    obtain rfl := Option.some.inj whole
    rfl
  | cons part parts ih =>
    rw [List.mapM_cons, Option.bind_eq_bind, Option.bind_eq_some_iff] at whole
    obtain ⟨c, rfl, whole⟩ := whole
    rw [Option.bind_eq_bind, Option.bind_eq_some_iff] at whole
    obtain ⟨rest, read, same⟩ := whole
    obtain rfl := Option.some.inj same
    rw [ih read]
    rfl

/-- Bytes are read as a text exactly when they are its UTF-8 form. -/
theorem decode?_eq_some_iff {cs : List Char} : decode? bs = some cs ↔ utf8 cs = bs := by
  constructor
  · exact fun read => bytes_of_pieces (eq_map_some_of_mapM read)
  · rintro rfl
    exact decode?_utf8 cs

theorem bytes_injective : Function.Injective bytes := by
  intro a b same
  have read := decode?_utf8 a.toList
  rw [← bytes, same, bytes, decode?_utf8] at read
  exact String.toList_inj.mp (Option.some.inj read).symm

end RequestTrail.Utf8
