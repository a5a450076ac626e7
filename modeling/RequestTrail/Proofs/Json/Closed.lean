import Mathlib.Data.List.TakeWhile
import RequestTrail.Json.Value
import RequestTrail.Proofs.Json.Nesting

/-! What is read as a value is closed. Each reader passes a text up to what it leaves; a string ends at
its second mark, and a container at the mark that closes it. -/
namespace RequestTrail.Json

variable {s rest after word : Bytes} {b : UInt8} {n : Number} {v : Value}

/-- A closed text stands in front of the rest. -/
def Passes (s rest : Bytes) : Prop := ∃ used, IsClosed used ∧ s = used ++ rest

/-- A closed text stands in front of a mark that closes a container, and the rest after it. -/
def Closes (s rest : Bytes) : Prop :=
  ∃ inner closing, IsClosed inner ∧ isClosing closing = true ∧ s = inner ++ closing :: rest

/-- The inside of a string stands in front of its mark, and the rest after it. -/
def Quotes (s rest : Bytes) : Prop := ∃ inner, IsHeld inner ∧ s = inner ++ 0x22 :: rest

namespace Passes

theorem refl (s : Bytes) : Passes s s := ⟨[], .nil, rfl⟩

theorem trans (first : Passes s rest) (second : Passes rest after) : Passes s after := by
  obtain ⟨used, closed, rfl⟩ := first
  obtain ⟨more, closed', rfl⟩ := second
  exact ⟨used ++ more, closed.append closed', (List.append_assoc used more after).symm⟩

theorem closes (first : Passes s rest) (second : Closes rest after) : Closes s after := by
  obtain ⟨used, closed, rfl⟩ := first
  obtain ⟨inner, closing, closed', closes, rfl⟩ := second
  exact ⟨used ++ inner, closing, closed.append closed', closes, by rw [List.append_assoc]⟩

theorem of_plain {used : Bytes} (plain : ∀ x ∈ used, isPlain x = true) (rest : Bytes) :
    Passes (used ++ rest) rest := ⟨used, isClosed_of_plain plain, rfl⟩

theorem cons (plain : isPlain b = true) (rest : Bytes) : Passes (b :: rest) rest :=
  ⟨[b], isClosed_of_plain fun x m => by rwa [List.mem_singleton.mp m], rfl⟩

theorem dropWhile {p : UInt8 → Bool} (plain : ∀ x, p x = true → isPlain x = true) (s : Bytes) :
    Passes s (s.dropWhile p) := by
  refine ⟨s.takeWhile p, isClosed_of_plain fun x m => ?_, List.takeWhile_append_dropWhile.symm⟩
  exact plain x (List.mem_takeWhile_imp m)

end Passes

theorem Closes.mark (closing : isClosing b = true) (rest : Bytes) : Closes (b :: rest) rest :=
  ⟨[], b, .nil, closing, rfl⟩

theorem Closes.passes (opening : isOpening b = true) (closes : Closes s rest) : Passes (b :: s) rest := by
  obtain ⟨inner, closing, closed, closes, rfl⟩ := closes
  have enclosed : IsEnclosed (b :: (inner ++ [closing])) := ⟨b, inner, closing, opening, closed, closes, rfl⟩
  exact ⟨b :: (inner ++ [closing]), enclosed.isClosed, by simp⟩

/-! ### Words, blanks and numbers -/

theorem isPlain_of_isSpace (x : UInt8) (space : isSpace x = true) : isPlain x = true := by
  simp only [isSpace, Bool.or_eq_true, beq_iff_eq] at space
  rcases space with ((rfl | rfl) | rfl) | rfl <;> rfl

theorem isPlain_of_isDigit (x : UInt8) (digit : isDigit x = true) : isPlain x = true := by
  have known : ∀ n : Fin 256, isDigit (UInt8.ofNat n) = true → isPlain (UInt8.ofNat n) = true := by
    decide +kernel
  simpa using known ⟨x.toNat, x.toNat_lt⟩ (by simpa using digit)

theorem isPlain_of_isExponentMark (mark : isExponentMark b = true) : isPlain b = true := by
  simp only [isExponentMark, Bool.or_eq_true, beq_iff_eq] at mark
  rcases mark with rfl | rfl <;> rfl

theorem passes_skipSpace (s : Bytes) : Passes s (skipSpace s) := .dropWhile isPlain_of_isSpace s

/-- What follows the blanks is passed after them. -/
theorem passes_of_skipSpace (same : skipSpace s = b :: after) (next : Passes (b :: after) rest) :
    Passes s rest := (same ▸ passes_skipSpace s).trans next

theorem closes_of_skipSpace (same : skipSpace s = b :: after) (next : Closes (b :: after) rest) :
    Closes s rest := (same ▸ passes_skipSpace s : Passes s (b :: after)).closes next

theorem eq_of_readWord (read : readWord word s = .ok rest) : s = word ++ rest := by
  induction word generalizing s with
  | nil => exact Except.ok.inj read
  | cons w word ih =>
    cases s with
    | nil => cases read
    | cons b s =>
      rw [readWord] at read
      split at read
      · next same => rw [eq_of_beq same, ih read, List.cons_append]
      · cases read

theorem passes_digits (s : Bytes) : Passes s (s.drop (s.takeWhile isDigit).length) := by
  have left : s.drop (s.takeWhile isDigit).length = s.dropWhile isDigit := by
    conv => lhs; arg 2; rw [← List.takeWhile_append_dropWhile (p := isDigit) (l := s)]
    exact List.drop_left
  rw [left]
  exact .dropWhile isPlain_of_isDigit s

theorem exists_of_bind {α β : Type} {found : Except ReadFault α} {next : α → Except ReadFault β} {y : β}
    (read : found >>= next = .ok y) : ∃ x, found = .ok x ∧ next x = .ok y := by
  cases found with
  | error e => cases read
  | ok x => exact ⟨x, rfl, read⟩

theorem exists_of_map {α β : Type} {found : Except ReadFault α} {make : α → β} {y : β}
    (read : found.map make = .ok y) : ∃ x, found = .ok x ∧ make x = y := by
  cases found with
  | error e => cases read
  | ok x => exact ⟨x, rfl, Except.ok.inj read⟩

theorem rest_of_map {α β : Type} {found : Except ReadFault α} {make : α → β} {y : β}
    (read : found.map (fun x => (make x, after)) = .ok (y, rest)) : after = rest := by
  cases found with
  | error e => cases read
  | ok x => exact (Prod.mk.inj (Except.ok.inj read)).2

/-- A sign may stand before the digits of an exponent. -/
theorem passes_readExponent {negative : Bool} {significand : Nat} {exponent : Int}
    (read : readExponent negative significand exponent s = .ok (n, rest)) : Passes s rest := by
  unfold readExponent at read
  split at read
  next down unsigned signed =>
  have passed : Passes s unsigned := by
    split at signed
    all_goals obtain ⟨_, rfl⟩ := Prod.mk.inj signed
    · exact .cons rfl _
    · exact .cons rfl _
    · exact .refl _
  refine passed.trans ((passes_digits unsigned).trans ?_)
  dsimp only at read
  split at read
  · cases read
  split at read
  · cases read
  split at read
  · split at read
    · cases read
    · obtain ⟨_, rfl⟩ := Prod.mk.inj (Except.ok.inj read)
      exact .refl _
  · obtain rfl := rest_of_map read
    exact .refl _

/-- Digits, and an exponent if one follows. -/
theorem passes_readFraction {negative : Bool} {significand : Nat} {exponent : Int}
    (read : readFraction negative significand exponent s = .ok (n, rest)) : Passes s rest := by
  unfold readFraction at read
  dsimp only at read
  refine (passes_digits s).trans ?_
  split at read
  · cases read
  split at read
  · next b after same =>
    rw [same] at read ⊢
    split at read
    · next mark => exact (Passes.cons (isPlain_of_isExponentMark mark) _).trans (passes_readExponent read)
    · obtain rfl := rest_of_map read
      exact .refl _
  · obtain rfl := rest_of_map read
    exact .refl _

theorem passes_readUnsigned {negative : Bool} (read : readUnsigned negative s = .ok (n, rest)) :
    Passes s rest := by
  unfold readUnsigned at read
  split at read
  · cases read
  split at read
  · cases read
  split at read
  · cases read
  refine (passes_digits _).trans ?_
  dsimp only at read
  split at read
  · next after same =>
    rw [same]
    exact (Passes.cons rfl _).trans (passes_readFraction read)
  · next b after _ same =>
    rw [same] at read ⊢
    split at read
    · next mark => exact (Passes.cons (isPlain_of_isExponentMark mark) _).trans (passes_readExponent read)
    split at read
    · obtain ⟨_, rfl⟩ := Prod.mk.inj (Except.ok.inj read)
      exact .refl _
    · obtain rfl := rest_of_map read
      exact .refl _
  · split at read
    · obtain ⟨_, rfl⟩ := Prod.mk.inj (Except.ok.inj read)
      exact .refl _
    · obtain rfl := rest_of_map read
      exact .refl _

theorem passes_readNumber (read : readNumber s = .ok (n, rest)) : Passes s rest := by
  unfold readNumber at read
  split at read
  · exact (Passes.cons rfl _).trans (passes_readUnsigned read)
  · exact passes_readUnsigned read

/-! ### Strings -/

/-- A hexadecimal digit is an ordinary character of a string. -/
theorem IsHeld.digit {value : Nat} (read : Text.hexValue? (Char.ofNat b.toNat) = some value)
    (held : IsHeld s) : IsHeld (b :: s) := by
  have known : ∀ n : Fin 256, (Text.hexValue? (Char.ofNat n)).isSome = true →
      ¬UInt8.ofNat n < 0x20 ∧ UInt8.ofNat n ≠ 0x22 ∧ UInt8.ofNat n ≠ 0x5C := by decide +kernel
  have ordinary := known ⟨b.toNat, b.toNat_lt⟩ (by simp [read])
  rw [UInt8.ofNat_toNat] at ordinary
  exact held.cons ordinary.1 ordinary.2.1 ordinary.2.2

theorem IsHeld.unit {x y z w : UInt8} {value : Nat} (read : hexUnit? x y z w = some value)
    (held : IsHeld s) : IsHeld (0x5C :: 0x75 :: x :: y :: z :: w :: s) := by
  obtain ⟨_, first, read⟩ := Option.bind_eq_some_iff.mp read
  obtain ⟨_, second, read⟩ := Option.bind_eq_some_iff.mp read
  obtain ⟨_, third, read⟩ := Option.bind_eq_some_iff.mp read
  obtain ⟨_, fourth, _⟩ := Option.bind_eq_some_iff.mp read
  exact .escape (by decide) (.digit first (.digit second (.digit third (.digit fourth held))))

namespace Quotes

theorem mark (rest : Bytes) : Quotes (0x22 :: rest) rest := ⟨[], .nil, rfl⟩

theorem cons (printed : ¬b < 0x20) (mark : b ≠ 0x22) (slash : b ≠ 0x5C) (more : Quotes s rest) :
    Quotes (b :: s) rest := by
  obtain ⟨inner, held, rfl⟩ := more
  exact ⟨b :: inner, held.cons printed mark slash, rfl⟩

theorem escape (printed : ¬b < 0x20) (more : Quotes s rest) : Quotes (0x5C :: b :: s) rest := by
  obtain ⟨inner, held, rfl⟩ := more
  exact ⟨0x5C :: b :: inner, held.escape printed, rfl⟩

theorem unit {x y z w : UInt8} {value : Nat} (read : hexUnit? x y z w = some value)
    (more : Quotes s rest) : Quotes (0x5C :: 0x75 :: x :: y :: z :: w :: s) rest := by
  obtain ⟨inner, held, rfl⟩ := more
  exact ⟨0x5C :: 0x75 :: x :: y :: z :: w :: inner, held.unit read, rfl⟩

theorem passes (quotes : Quotes s rest) : Passes (0x22 :: s) rest := by
  obtain ⟨inner, held, rfl⟩ := quotes
  exact ⟨0x22 :: (inner ++ [0x22]), held.isClosed, by simp⟩

end Quotes

theorem exists_of_before {text bytes : Bytes} {tail : Except ReadFault (Bytes × Bytes)}
    (read : before text tail = .ok (bytes, rest)) : ∃ more, tail = .ok (more, rest) := by
  cases tail with
  | error e => cases read
  | ok r =>
    obtain ⟨_, rfl⟩ := Prod.mk.inj (Except.ok.inj read)
    exact ⟨r.1, rfl⟩

theorem printed_of_escapedByte? {e : UInt8} (escaped : escapedByte? b = some e) : ¬b < 0x20 := by
  have known : ∀ n : Fin 256, (escapedByte? (UInt8.ofNat n)).isSome = true → ¬UInt8.ofNat n < 0x20 := by
    decide +kernel
  simpa using known ⟨b.toNat, b.toNat_lt⟩ (by simp [escaped])

/-- The strict reading takes a string up to its mark, and no control in it. -/
theorem quotes_readRaw {lead : Option Nat} {bytes : Bytes} (read : readRaw true lead s = .ok (bytes, rest)) :
    Quotes s rest := by
  fun_induction readRaw true lead s generalizing bytes with
  | case3 =>
    obtain ⟨_, rfl⟩ := Prod.mk.inj (Except.ok.inj read)
    exact .mark _
  | case5 _ _ _ _ _ _ unit _ ih => exact .unit unit (ih read)
  | case7 _ _ _ _ _ _ unit _ _ ih =>
    obtain ⟨_, more⟩ := exists_of_before read
    exact .unit unit (ih more)
  | case9 _ _ _ _ _ _ _ unit _ ih =>
    obtain ⟨_, more⟩ := exists_of_before read
    exact .unit unit (ih more)
  | case16 _ _ _ _ _ _ _ _ escaped ih =>
    obtain ⟨_, more⟩ := exists_of_before read
    exact .escape (printed_of_escapedByte? escaped) (ih more)
  | case18 b rest' single mark _ _ slash printed ih =>
    obtain ⟨_, more⟩ := exists_of_before read
    refine .cons (by simpa using printed) mark ?_ (ih more)
    rintro rfl
    cases rest' with
    | nil => exact single rfl rfl
    | cons b after => exact slash b after rfl rfl
  | case10 | case11 | case12 | case20 | case21 => contradiction
  | _ => cases read

theorem quotes_readText {text : String} (read : readText s = .ok (text, rest)) : Quotes s rest := by
  obtain ⟨⟨bytes, after⟩, raw, decoded⟩ := exists_of_bind read
  dsimp only at decoded
  split at decoded
  · cases decoded
  · obtain ⟨_, rfl⟩ := Prod.mk.inj (Except.ok.inj decoded)
    exact quotes_readRaw raw

/-! ### Values -/

namespace Value

theorem passes_readWord {make : Bytes → Value × Bytes} (plain : word.all isPlain = true)
    (opens : isPlain b = true) (made : ∀ after, (make after).2 = after)
    (read : (readWord word s).map make = .ok (v, rest)) : Passes (b :: s) rest := by
  obtain ⟨after, found, same⟩ := exists_of_map read
  obtain rfl : after = rest := by rw [← made after, same]
  rw [eq_of_readWord found]
  exact (Passes.cons opens _).trans (.of_plain (List.all_eq_true.mp plain) after)

theorem passes_readScalar (read : readScalar s = .ok (v, rest)) : Passes s rest := by
  unfold readScalar at read
  split at read
  · cases read
  next b after =>
  have letter : ∀ n : Fin 256, Char.ofNat n = 'n' ∨ Char.ofNat n = 't' ∨ Char.ofNat n = 'f' →
      isPlain (UInt8.ofNat n) = true := by decide +kernel
  have mark : ∀ n : Fin 256, Char.ofNat n = '"' → UInt8.ofNat n = 0x22 := by decide +kernel
  have letter := letter ⟨b.toNat, b.toNat_lt⟩
  have mark := mark ⟨b.toNat, b.toNat_lt⟩
  rw [UInt8.ofNat_toNat] at letter mark
  split at read
  · next same => exact passes_readWord (by decide) (letter (.inl same)) (fun _ => rfl) read
  · next same => exact passes_readWord (by decide) (letter (.inr (.inl same))) (fun _ => rfl) read
  · next same => exact passes_readWord (by decide) (letter (.inr (.inr same))) (fun _ => rfl) read
  · next same =>
    obtain ⟨⟨text, after⟩, found, same'⟩ := exists_of_map read
    obtain ⟨_, rfl⟩ := Prod.mk.inj same'
    rw [mark same]
    exact (quotes_readText found).passes
  · split at read
    · obtain ⟨⟨n, after⟩, found, same⟩ := exists_of_map read
      obtain ⟨_, rfl⟩ := Prod.mk.inj same
      exact passes_readNumber found
    · cases read

variable {part : Reader Value}

/-- The parts of a list are passed one after another, up to the mark that closes it. -/
theorem closes_readParts (each : ∀ {s rest v}, part s = .ok (v, rest) → Passes s rest) {fuel : Nat}
    {vs : List Value} (read : readParts part fuel s = .ok (vs, rest)) : Closes s rest := by
  induction fuel generalizing s vs with
  | zero => cases read
  | succ fuel ih =>
    obtain ⟨⟨v, after⟩, first, read⟩ := exists_of_bind read
    refine (each first).closes ?_
    dsimp only at read
    split at read
    · cases read
    · next closing =>
      obtain ⟨_, rfl⟩ := Prod.mk.inj (Except.ok.inj read)
      exact closes_of_skipSpace closing (.mark rfl _)
    · next comma =>
      refine closes_of_skipSpace comma ((Passes.cons rfl _).closes ?_)
      split at read
      · cases read
      · cases read
      · obtain ⟨⟨vs, after⟩, more, read⟩ := exists_of_bind read
        obtain ⟨_, rfl⟩ := Prod.mk.inj (Except.ok.inj read)
        exact ih more
    · cases read

theorem passes_readMember (each : ∀ {s rest v}, part s = .ok (v, rest) → Passes s rest)
    {m : String × Value} (read : readMember part s = .ok (m, rest)) : Passes s rest := by
  unfold readMember at read
  split at read
  · obtain ⟨⟨key, after⟩, named, read⟩ := exists_of_bind read
    refine (quotes_readText named).passes.trans ?_
    dsimp only at read
    split at read
    · cases read
    · next colon =>
      obtain ⟨⟨v, after⟩, found, read⟩ := exists_of_bind read
      obtain ⟨_, rfl⟩ := Prod.mk.inj (Except.ok.inj read)
      exact passes_of_skipSpace colon ((Passes.cons rfl _).trans (each found))
    · cases read
  · cases read

theorem closes_readMembers (each : ∀ {s rest v}, part s = .ok (v, rest) → Passes s rest) {fuel : Nat}
    {ms : List (String × Value)} (read : readMembers part fuel s = .ok (ms, rest)) : Closes s rest := by
  induction fuel generalizing s ms with
  | zero => cases read
  | succ fuel ih =>
    obtain ⟨⟨m, after⟩, first, read⟩ := exists_of_bind read
    refine ((passes_skipSpace s).trans (passes_readMember each first)).closes ?_
    dsimp only at read
    split at read
    · cases read
    · next closing =>
      obtain ⟨_, rfl⟩ := Prod.mk.inj (Except.ok.inj read)
      exact closes_of_skipSpace closing (.mark rfl _)
    · next comma =>
      refine closes_of_skipSpace comma ((Passes.cons rfl _).closes ?_)
      split at read
      · cases read
      · cases read
      · obtain ⟨⟨ms, after⟩, more, read⟩ := exists_of_bind read
        obtain ⟨_, rfl⟩ := Prod.mk.inj (Except.ok.inj read)
        exact ih more
    · cases read

theorem closes_readList (each : ∀ {s rest v}, part s = .ok (v, rest) → Passes s rest)
    (read : readList part s = .ok (v, rest)) : Closes s rest := by
  unfold readList at read
  split at read
  · cases read
  · next closing =>
    obtain ⟨_, rfl⟩ := Prod.mk.inj (Except.ok.inj read)
    exact closes_of_skipSpace closing (.mark rfl _)
  · obtain ⟨⟨vs, after⟩, found, same⟩ := exists_of_map read
    obtain ⟨_, rfl⟩ := Prod.mk.inj same
    exact closes_readParts each found

theorem closes_readObject (each : ∀ {s rest v}, part s = .ok (v, rest) → Passes s rest)
    (read : readObject part s = .ok (v, rest)) : Closes s rest := by
  unfold readObject at read
  split at read
  · cases read
  · next closing =>
    obtain ⟨_, rfl⟩ := Prod.mk.inj (Except.ok.inj read)
    exact closes_of_skipSpace closing (.mark rfl _)
  · obtain ⟨⟨ms, after⟩, found, same⟩ := exists_of_map read
    obtain ⟨_, rfl⟩ := Prod.mk.inj same
    exact closes_readMembers each found

/-- Every value that is read is passed. -/
theorem passes_read {depth : Nat} (read : Value.read depth s = .ok (v, rest)) : Passes s rest := by
  induction depth generalizing s v rest with
  | zero =>
    unfold Value.read at read
    split at read
    · cases read
    · cases read
    · exact (passes_skipSpace s).trans (passes_readScalar read)
  | succ depth ih =>
    unfold Value.read at read
    split at read
    · next list => exact passes_of_skipSpace list ((closes_readList ih read).passes rfl)
    · next object => exact passes_of_skipSpace object ((closes_readObject ih read).passes rfl)
    · exact (passes_skipSpace s).trans (passes_readScalar read)

/-- A text that is read as a whole is closed. -/
theorem isClosed_of_parse (parsed : parse s = .ok v) : IsClosed s := by
  obtain ⟨⟨v, rest⟩, read, parsed⟩ := exists_of_bind parsed
  dsimp only at parsed
  split at parsed
  · next blank =>
    have end_ : skipSpace rest = [] := List.isEmpty_iff.mp blank
    obtain ⟨used, closed, whole⟩ := (passes_read read).trans (passes_skipSpace rest)
    rw [end_, List.append_nil] at whole
    rwa [whole]
  · cases parsed

end Value

end RequestTrail.Json
