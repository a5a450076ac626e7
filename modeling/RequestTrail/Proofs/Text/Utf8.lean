import RequestTrail.Proofs.Text.Search
import RequestTrail.Text.Utf8

/-! Reading the UTF-8 form of a text gives the text back: the bytes of a character are one well-formed
sequence, whatever follows them. -/
namespace RequestTrail.Utf8

open Text

variable {n : Nat} {p : Partial}

theorem toNat_ofNat_of_lt (h : n < 256) : (UInt8.ofNat n).toNat = n := by
  simp only [UInt8.toNat_ofNat']
  omega

/-- A byte after the first of a sequence, with the last six bits of a number. -/
def tail (n : Nat) : UInt8 := UInt8.ofNat (n % 64 + 128)

theorem toNat_tail (n : Nat) : (tail n).toNat = n % 64 + 128 := toNat_ofNat_of_lt (by omega)

/-- The bounds of a sequence let a byte after the first through. -/
def Partial.Allows (p : Partial) (n : Nat) : Prop :=
  p.low.toNat ≤ n % 64 + 128 ∧ n % 64 + 128 ≤ p.high.toNat

theorem Partial.Allows.admits (allowed : p.Allows n) : p.admits (tail n) = true := by
  simp only [Partial.admits, Bool.and_eq_true, decide_eq_true_eq, UInt8.le_iff_toNat_le, toNat_tail]
  exact allowed

theorem allows_after_first (bits more n : Nat) : (Partial.mk bits more 0x80 0xBF).Allows n := by
  have below : 128 ≤ n % 64 + 128 := by omega
  have above : n % 64 + 128 ≤ 191 := by omega
  exact ⟨below, above⟩

theorem push_tail (p : Partial) (n : Nat) :
    p.push (tail n) = ⟨p.bits * 64 + n % 64, p.more - 1, 0x80, 0xBF⟩ := by
  have bits : (tail n).toNat - 128 = n % 64 := by rw [toNat_tail]; omega
  unfold Partial.push
  rw [bits]

theorem piecesFrom_last (allowed : p.Allows n) (last : p.more = 1) (rest : Bytes) :
    piecesFrom (some p) (tail n :: rest) =
      some (Char.ofNat (p.bits * 64 + n % 64)) :: piecesFrom none rest := by
  rw [piecesFrom, if_pos allowed.admits, if_pos last, push_tail]

theorem piecesFrom_more (allowed : p.Allows n) (more : p.more ≠ 1) (rest : Bytes) :
    piecesFrom (some p) (tail n :: rest) =
      piecesFrom (some ⟨p.bits * 64 + n % 64, p.more - 1, 0x80, 0xBF⟩) rest := by
  rw [piecesFrom, if_pos allowed.admits, if_neg more, push_tail]

/-- The start of a sequence, by the number that its first byte is. -/
theorem start_ofNat (h : n < 256) : start (UInt8.ofNat n) =
    if n < 0x80 then .scalar (Char.ofNat n)
    else if n < 0xC2 then .broken
    else if n < 0xE0 then .opens ⟨n - 0xC0, 1, 0x80, 0xBF⟩
    else if n = 0xE0 then .opens ⟨0, 2, 0xA0, 0xBF⟩
    else if n = 0xED then .opens ⟨0xD, 2, 0x80, 0x9F⟩
    else if n < 0xF0 then .opens ⟨n - 0xE0, 2, 0x80, 0xBF⟩
    else if n = 0xF0 then .opens ⟨0, 3, 0x90, 0xBF⟩
    else if n < 0xF4 then .opens ⟨n - 0xF0, 3, 0x80, 0xBF⟩
    else if n = 0xF4 then .opens ⟨4, 3, 0x80, 0x8F⟩
    else .broken := by
  simp only [start, UInt8.lt_iff_toNat_lt, ← UInt8.toNat_inj, toNat_ofNat_of_lt h]
  rfl

theorem piecesFrom_one (small : n ≤ 0x7F) (rest : Bytes) :
    piecesFrom none (UInt8.ofNat n :: rest) = some (Char.ofNat n) :: piecesFrom none rest := by
  rw [piecesFrom, start_ofNat (by omega), if_pos (by omega)]

theorem piecesFrom_two (low : 0x80 ≤ n) (high : n ≤ 0x7FF) (rest : Bytes) :
    piecesFrom none (UInt8.ofNat (n / 64 % 32 + 192) :: tail n :: rest) =
      some (Char.ofNat n) :: piecesFrom none rest := by
  rw [piecesFrom, start_ofNat (by omega), if_neg (by omega), if_neg (by omega), if_pos (by omega)]
  dsimp only
  rw [piecesFrom_last (allows_after_first _ _ n) rfl]
  have whole : (n / 64 % 32 + 192 - 0xC0) * 64 + n % 64 = n := by omega
  rw [whole]

/-- The bounds after the first of three bytes keep out overlong forms and surrogates. -/
theorem start_of_three (low : 0x800 ≤ n) (high : n ≤ 0xFFFF) (scalar : n < 0xD800 ∨ 0xDFFF < n) :
    ∃ p, start (UInt8.ofNat (n / 4096 % 16 + 224)) = .opens p ∧ p.bits = n / 4096 ∧ p.more = 2 ∧
      p.Allows (n / 64) := by
  rw [start_ofNat (by omega), if_neg (by omega), if_neg (by omega), if_neg (by omega)]
  by_cases first : n / 4096 % 16 + 224 = 0xE0
  · rw [if_pos first]
    refine ⟨_, rfl, by dsimp only; omega, rfl, ?_, ?_⟩
    · change 160 ≤ _; omega
    · change _ ≤ 191; omega
  rw [if_neg first]
  by_cases surrogates : n / 4096 % 16 + 224 = 0xED
  · rw [if_pos surrogates]
    refine ⟨_, rfl, by dsimp only; omega, rfl, ?_, ?_⟩
    · change 128 ≤ _; omega
    · change _ ≤ 159; omega
  · rw [if_neg surrogates, if_pos (by omega)]
    exact ⟨_, rfl, by dsimp only; omega, rfl, allows_after_first _ _ _⟩

theorem piecesFrom_three (low : 0x800 ≤ n) (high : n ≤ 0xFFFF)
    (scalar : n < 0xD800 ∨ 0xDFFF < n) (rest : Bytes) :
    piecesFrom none (UInt8.ofNat (n / 4096 % 16 + 224) :: tail (n / 64) :: tail n :: rest) =
      some (Char.ofNat n) :: piecesFrom none rest := by
  obtain ⟨p, opened, bits, more, allowed⟩ := start_of_three low high scalar
  rw [piecesFrom, opened]
  dsimp only
  rw [piecesFrom_more allowed (by omega), piecesFrom_last (allows_after_first _ _ n) (by dsimp only; omega)]
  have whole : (p.bits * 64 + n / 64 % 64) * 64 + n % 64 = n := by omega
  rw [whole]

/-- The bounds after the first of four bytes keep out overlong forms and what is past U+10FFFF. -/
theorem start_of_four (low : 0x10000 ≤ n) (high : n < 0x110000) :
    ∃ p, start (UInt8.ofNat (n / 262144 % 8 + 240)) = .opens p ∧ p.bits = n / 262144 ∧ p.more = 3 ∧
      p.Allows (n / 4096) := by
  rw [start_ofNat (by omega), if_neg (by omega), if_neg (by omega), if_neg (by omega),
    if_neg (by omega), if_neg (by omega), if_neg (by omega)]
  by_cases first : n / 262144 % 8 + 240 = 0xF0
  · rw [if_pos first]
    refine ⟨_, rfl, by dsimp only; omega, rfl, ?_, ?_⟩
    · change 144 ≤ _; omega
    · change _ ≤ 191; omega
  rw [if_neg first]
  by_cases last : n / 262144 % 8 + 240 = 0xF4
  · rw [if_neg (by omega), if_pos last]
    refine ⟨_, rfl, by dsimp only; omega, rfl, ?_, ?_⟩
    · change 128 ≤ _; omega
    · change _ ≤ 143; omega
  · rw [if_pos (by omega)]
    exact ⟨_, rfl, by dsimp only; omega, rfl, allows_after_first _ _ _⟩

theorem piecesFrom_four (low : 0x10000 ≤ n) (high : n < 0x110000) (rest : Bytes) :
    piecesFrom none (UInt8.ofNat (n / 262144 % 8 + 240) :: tail (n / 4096) :: tail (n / 64) ::
        tail n :: rest) = some (Char.ofNat n) :: piecesFrom none rest := by
  obtain ⟨p, opened, bits, more, allowed⟩ := start_of_four low high
  rw [piecesFrom, opened]
  dsimp only
  rw [piecesFrom_more allowed (by omega),
    piecesFrom_more (allows_after_first _ _ _) (by dsimp only; omega),
    piecesFrom_last (allows_after_first _ _ n) (by dsimp only; omega)]
  have whole : ((p.bits * 64 + n / 4096 % 64) * 64 + n / 64 % 64) * 64 + n % 64 = n := by omega
  rw [whole]

theorem utf8EncodeChar_eq (c : Char) : String.utf8EncodeChar c =
    if c.toNat ≤ 0x7F then [UInt8.ofNat c.toNat]
    else if c.toNat ≤ 0x7FF then [UInt8.ofNat (c.toNat / 64 % 32 + 192), tail c.toNat]
    else if c.toNat ≤ 0xFFFF then
      [UInt8.ofNat (c.toNat / 4096 % 16 + 224), tail (c.toNat / 64), tail c.toNat]
    else [UInt8.ofNat (c.toNat / 262144 % 8 + 240), tail (c.toNat / 4096), tail (c.toNat / 64),
      tail c.toNat] := rfl

/-- A byte of a character is the character itself or above all of ASCII. -/
theorem toNat_of_mem_utf8EncodeChar {c : Char} {b : UInt8} (m : b ∈ String.utf8EncodeChar c) :
    b.toNat = c.toNat ∨ 0x80 ≤ b.toNat := by
  have above {n : Nat} (low : 0x80 ≤ n) (high : n < 256) : 0x80 ≤ (UInt8.ofNat n).toNat := by
    rw [toNat_ofNat_of_lt high]
    exact low
  rw [utf8EncodeChar_eq] at m
  split at m
  · obtain rfl := List.mem_singleton.mp m
    exact Or.inl (toNat_ofNat_of_lt (by omega))
  right
  split at m
  · simp only [tail, List.mem_cons, List.not_mem_nil, or_false] at m
    rcases m with rfl | rfl <;> exact above (by omega) (by omega)
  split at m
  · simp only [tail, List.mem_cons, List.not_mem_nil, or_false] at m
    rcases m with rfl | rfl | rfl <;> exact above (by omega) (by omega)
  · simp only [tail, List.mem_cons, List.not_mem_nil, or_false] at m
    rcases m with rfl | rfl | rfl | rfl <;> exact above (by omega) (by omega)

/-- Every character is read from its bytes, whatever follows them. -/
theorem piecesFrom_utf8EncodeChar (c : Char) (rest : Bytes) :
    piecesFrom none (String.utf8EncodeChar c ++ rest) = some c :: piecesFrom none rest := by
  have scalar : c.toNat < 0xD800 ∨ 0xDFFF < c.toNat ∧ c.toNat < 0x110000 := c.valid
  have same : Char.ofNat c.toNat = c := Char.ofNat_toNat c
  rw [utf8EncodeChar_eq]
  generalize c.toNat = n at scalar same ⊢
  subst same
  split
  · next one => exact piecesFrom_one one rest
  split
  · next two => exact piecesFrom_two (by omega) two rest
  split
  · next three => exact piecesFrom_three (by omega) three (by omega) rest
  · exact piecesFrom_four (by omega) (by omega) rest

theorem pieces_utf8 (s : List Char) : pieces (utf8 s) = s.map some := by
  induction s with
  | nil => rfl
  | cons c s ih =>
    rw [pieces, utf8_cons, piecesFrom_utf8EncodeChar]
    exact congrArg (some c :: ·) ih

/-- Every text is read from its UTF-8 form. -/
theorem decode?_utf8 (s : List Char) : decode? (utf8 s) = some s := by
  rw [decode?, pieces_utf8]
  induction s with
  | nil => rfl
  | cons c s ih => rw [List.map_cons, List.mapM_cons, ih]; rfl

/-! ### ASCII -/

theorem ascii_of_le {c d : Char} (le : c ≤ d) (ascii : d.toNat < 0x80) : c.toNat < 0x80 :=
  Nat.lt_of_le_of_lt (UInt32.le_iff_toNat_le.mp le) ascii

/-- A character of ASCII is one byte. -/
theorem utf8EncodeChar_of_ascii {c : Char} (ascii : c.toNat < 0x80) :
    String.utf8EncodeChar c = [byte c] := by
  rw [utf8EncodeChar_eq, if_pos (by omega)]
  rfl

theorem toNat_byte {c : Char} (ascii : c.toNat < 0x80) : (byte c).toNat = c.toNat :=
  toNat_ofNat_of_lt (by omega)

/-- A byte of ASCII stands for its character alone. -/
theorem not_mem_utf8EncodeChar {c d : Char} (ascii : c.toNat < 0x80) (other : c ≠ d) :
    byte c ∉ String.utf8EncodeChar d := by
  intro m
  rcases toNat_of_mem_utf8EncodeChar m with same | above
  · rw [toNat_byte ascii] at same
    exact other (Char.toNat_inj.mp same)
  · rw [toNat_byte ascii] at above
    omega

theorem utf8_cons_of_ascii {c : Char} (ascii : c.toNat < 0x80) (s : List Char) :
    utf8 (c :: s) = byte c :: utf8 s := by
  rw [utf8_cons, utf8EncodeChar_of_ascii ascii, List.singleton_append]

/-- The bytes of a text start with those of another only if the text does. -/
theorem prefix_of_utf8 {needle s : List Char} (stands : utf8 needle <+: utf8 s) : needle <+: s := by
  induction needle generalizing s with
  | nil => exact List.nil_prefix
  | cons c needle ih =>
    obtain ⟨rest, same⟩ := stands
    rw [utf8_cons, List.append_assoc] at same
    cases s with
    | nil => simp at same
    | cons d s =>
      -- The bytes are read in one way, so the first characters are the same.
      have read := congrArg (piecesFrom none) same
      rw [utf8_cons, piecesFrom_utf8EncodeChar, piecesFrom_utf8EncodeChar] at read
      obtain rfl := Option.some.inj (List.cons.inj read).1
      rw [utf8_cons] at same
      exact List.cons_prefix_cons.mpr ⟨rfl, ih ⟨rest, List.append_cancel_left same⟩⟩

/-- A text that starts with a character of ASCII is found in the bytes of another where it is found in
the text. -/
theorem cutAtFirst_utf8 {c : Char} (ascii : c.toNat < 0x80) (needle s : List Char) :
    cutAtFirst (utf8 (c :: needle)) (utf8 s) =
      (cutAtFirst (c :: needle) s).map fun cut => (utf8 cut.1, utf8 cut.2) := by
  have bytes := utf8_cons_of_ascii ascii needle
  have nonempty : utf8 (c :: needle) ≠ [] := by rw [bytes]; exact List.cons_ne_nil _ _
  induction s with
  | nil => simp [cutAtFirst, firstIndex, indexFrom]
  | cons d s ih =>
    by_cases stands : c :: needle <+: d :: s
    · obtain ⟨rest, same⟩ := stands
      rw [← same, utf8_append, cutAtFirst_of_prefix nonempty,
        cutAtFirst_of_prefix (List.cons_ne_nil c needle)]
      rfl
    · rw [cutAtFirst_cons stands, Option.map_map]
      by_cases same : c = d
      · subst same
        have elsewhere : ¬utf8 (c :: needle) <+: byte c :: utf8 s := by
          rw [← utf8_cons_of_ascii ascii s]
          exact fun inside => stands (prefix_of_utf8 inside)
        rw [utf8_cons_of_ascii ascii s, cutAtFirst_cons elsewhere, ih, Option.map_map]
        congr 1
        funext cut
        exact congrArg (·, utf8 cut.2) (utf8_cons_of_ascii ascii cut.1).symm
      · rw [utf8_cons d s, bytes, cutAtFirst_append_of_not_mem (not_mem_utf8EncodeChar ascii same), ← bytes, ih,
          Option.map_map]
        rfl

end RequestTrail.Utf8
