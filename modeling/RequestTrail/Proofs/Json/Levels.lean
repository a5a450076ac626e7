import RequestTrail.Json.Reader
import RequestTrail.Proofs.Json.Closed

/-! How deep a pass stands in a text up to which a reader has come. A value leads back to the depth at
which it starts, and the parts of a container to the depth around it. The lax reading lets controls
stand in a string, where a pass ends, so this is said of every pass that goes on. -/
namespace RequestTrail.Json

open Spot

variable {α : Type} {s rest after word : Bytes} {b : UInt8} {n m k : Nat}

/-- What stands in front of the rest takes every pass from `n` open containers to `m`. -/
def Leads (n m : Nat) (s rest : Bytes) : Prop :=
  ∃ used, s = used ++ rest ∧ ∀ depth next, scan ⟨.outside, depth + n⟩ used = some next →
    next = ⟨.outside, depth + m⟩

/-- What stands in front of a mark keeps every pass inside its string. The rest stands after the mark. -/
def Runs (s rest : Bytes) : Prop :=
  ∃ inner, s = inner ++ 0x22 :: rest ∧ ∀ depth next, scan ⟨.string, depth⟩ inner = some next →
    next = ⟨.string, depth⟩

namespace Leads

theorem trans (first : Leads n m s rest) (second : Leads m k rest after) : Leads n k s after := by
  obtain ⟨used, rfl, leads⟩ := first
  obtain ⟨more, rfl, leads'⟩ := second
  refine ⟨used ++ more, (List.append_assoc used more after).symm, fun depth next passed => ?_⟩
  rw [scan_append] at passed
  obtain ⟨middle, passed, passed'⟩ := Option.bind_eq_some_iff.mp passed
  obtain rfl := leads depth middle passed
  exact leads' depth next passed'

theorem of_passes (passes : Passes s rest) : Leads n n s rest := by
  obtain ⟨used, closed, rfl⟩ := passes
  refine ⟨used, rfl, fun depth next passed => ?_⟩
  have deeper := scan_deeper (depth + n) closed
  simp only [Spot.deeper, top, Nat.zero_add] at deeper
  exact Option.some.inj (passed.symm.trans deeper)

/-- Around a text there may be any number of containers. -/
theorem within (leads : Leads 0 0 s rest) : Leads n n s rest := by
  obtain ⟨used, rfl, leads⟩ := leads
  exact ⟨used, rfl, fun depth next passed => leads (depth + n) next passed⟩

theorem opening (opens : isOpening b = true) (rest : Bytes) : Leads n (n + 1) (b :: rest) rest := by
  refine ⟨[b], rfl, fun depth next passed => ?_⟩
  rw [scan_cons, step_opening opens _ rfl] at passed
  exact (Option.some.inj passed).symm

theorem closing (closes : isClosing b = true) (rest : Bytes) : Leads (n + 1) n (b :: rest) rest := by
  refine ⟨[b], rfl, fun depth next passed => ?_⟩
  have closed := step_deeper (depth + n) (step_closing closes)
  simp only [Spot.deeper, top, Nat.zero_add, Nat.add_comm 1] at closed
  rw [scan_cons, ← Nat.add_assoc, closed] at passed
  exact (Option.some.inj passed).symm

theorem of_skipSpace (same : skipSpace s = after) (next : Leads n m after rest) : Leads n m s rest :=
  (of_passes (same ▸ passes_skipSpace s)).trans next

end Leads

/-! ### Strings -/

namespace Runs

theorem mark (rest : Bytes) : Runs (0x22 :: rest) rest :=
  ⟨[], rfl, fun _ _ passed => (Option.some.inj passed).symm⟩

/-- A text that keeps a pass inside the string may stand in front. -/
theorem of_held (held : Bytes) (keeps : ∀ depth next, scan ⟨.string, depth⟩ held = some next →
    next = ⟨.string, depth⟩) (more : Runs s rest) : Runs (held ++ s) rest := by
  obtain ⟨inner, rfl, leads⟩ := more
  refine ⟨held ++ inner, (List.append_assoc held inner _).symm, fun depth next passed => ?_⟩
  rw [scan_append] at passed
  obtain ⟨middle, passed, passed'⟩ := Option.bind_eq_some_iff.mp passed
  obtain rfl := keeps depth middle passed
  exact leads depth next passed'

theorem cons (mark : b ≠ 0x22) (slash : b ≠ 0x5C) (more : Runs s rest) : Runs (b :: s) rest := by
  apply of_held [b] _ more
  intro depth next passed
  simp only [scan_cons, scan_nil, Option.bind_fun_some, step, mark, slash, if_false] at passed
  split at passed
  · cases passed
  · exact (Option.some.inj passed).symm

theorem escape (more : Runs s rest) : Runs (0x5C :: b :: s) rest := by
  apply of_held [0x5C, b] _ more
  intro depth next passed
  have slash : step ⟨.string, depth⟩ 0x5C = some ⟨.escape, depth⟩ := rfl
  rw [scan_cons, slash] at passed
  simp only [scan_cons, scan_nil, Option.bind_some, Option.bind_fun_some, step] at passed
  split at passed
  · cases passed
  · exact (Option.some.inj passed).symm

/-- An escape of four digits has no mark in it. -/
theorem unit {x y z w : UInt8} {value : Nat} (read : hexUnit? x y z w = some value)
    (more : Runs s rest) : Runs (0x5C :: 0x75 :: x :: y :: z :: w :: s) rest := by
  apply of_held [0x5C, 0x75, x, y, z, w] _ more
  intro depth next passed
  have held : IsHeld [0x5C, 0x75, x, y, z, w] := .unit read .nil
  have deeper := scan_deeper depth held
  simp only [Spot.deeper, Nat.zero_add] at deeper
  exact Option.some.inj (passed.symm.trans deeper)

theorem leads (runs : Runs s rest) : Leads n n (0x22 :: s) rest := by
  obtain ⟨inner, rfl, keeps⟩ := runs
  refine ⟨0x22 :: (inner ++ [0x22]), by simp, fun depth next passed => ?_⟩
  have opened : step ⟨.outside, depth + n⟩ 0x22 = some ⟨.string, depth + n⟩ := rfl
  have closed : step ⟨.string, depth + n⟩ 0x22 = some ⟨.outside, depth + n⟩ := rfl
  rw [scan_cons, opened, Option.bind_some, scan_append] at passed
  obtain ⟨middle, passed, passed'⟩ := Option.bind_eq_some_iff.mp passed
  obtain rfl := keeps (depth + n) middle passed
  rw [scan_cons, closed] at passed'
  exact (Option.some.inj passed').symm

end Runs

/-- What is no backslash in front of more of a string. -/
theorem ne_slash_of_cases {more : Bytes} (single : b = 0x5C → more = [] → False)
    (escape : ∀ c after, b = 0x5C → more = c :: after → False) : b ≠ 0x5C := by
  intro slash
  cases more with
  | nil => exact single slash rfl
  | cons c after => exact escape c after slash rfl

/-- Both readings take a string up to its mark. -/
theorem runs_readRaw {strict : Bool} {lead : Option Nat} {bytes : Bytes}
    (read : readRaw strict lead s = .ok (bytes, rest)) : Runs s rest := by
  fun_induction readRaw strict lead s generalizing bytes with
  | case3 =>
    obtain ⟨_, rfl⟩ := Prod.mk.inj (Except.ok.inj read)
    exact .mark _
  | case5 _ _ _ _ _ _ unit _ ih => exact .unit unit (ih read)
  | case7 _ _ _ _ _ _ unit _ _ ih =>
    obtain ⟨_, more⟩ := exists_of_before read
    exact .unit unit (ih more)
  | case9 _ _ _ _ _ _ _ unit _ ih =>
    obtain ⟨_, more⟩ := exists_of_before read
    exact .unit unit (ih more)
  | case11 _ _ _ _ _ _ _ unit _ _ _ ih =>
    obtain ⟨_, more⟩ := exists_of_before read
    exact .unit unit (ih more)
  | case12 _ _ _ _ _ _ _ unit _ _ _ ih =>
    obtain ⟨_, more⟩ := exists_of_before read
    exact .unit unit (ih more)
  | case16 _ _ _ _ _ _ _ _ _ ih =>
    obtain ⟨_, more⟩ := exists_of_before read
    exact .escape (ih more)
  | case18 _ _ single mark _ _ escape _ ih =>
    obtain ⟨_, more⟩ := exists_of_before read
    exact .cons mark (ne_slash_of_cases single escape) (ih more)
  | case20 _ _ _ _ _ _ _ _ mark =>
    obtain ⟨_, rfl⟩ := Prod.mk.inj (Except.ok.inj read)
    obtain rfl := eq_of_beq mark
    exact .mark _
  | case21 _ _ _ single _ _ escape _ mark ih =>
    obtain ⟨_, more⟩ := exists_of_before read
    exact .cons (by simpa using mark) (ne_slash_of_cases single escape) (ih more)
  | _ => cases read

theorem quotes_skipText (read : skipText s = .ok rest) : Quotes s rest := by
  fun_induction skipText s with
  | case2 =>
    obtain rfl := Except.ok.inj read
    exact .mark _
  | case3 _ _ _ _ _ digits ih =>
    obtain ⟨_, unit⟩ := Option.isSome_iff_exists.mp digits
    exact .unit unit (ih read)
  | case6 _ _ _ _ form ih =>
    obtain ⟨_, escaped⟩ := Option.isSome_iff_exists.mp form
    exact .escape (printed_of_escapedByte? escaped) (ih read)
  | case10 _ _ mark _ _ _ slash printed ih => exact .cons printed mark (by simpa using slash) (ih read)
  | _ => cases read

/-! ### Values that are passed over -/

theorem passes_word (plain : word.all isPlain = true) (opens : isPlain b = true)
    (read : readWord word s = .ok rest) : Passes (b :: s) rest := by
  rw [eq_of_readWord read]
  exact (Passes.cons opens _).trans (.of_plain (List.all_eq_true.mp plain) rest)

theorem passes_skipExponent (read : skipExponent s = .ok rest) : Passes s rest := by
  have digits (unsigned : Bytes) (read : (if unsigned.head?.any isDigit then
      Except.ok (unsigned.dropWhile isDigit) else .error ReadFault.badNumber) = .ok rest) : Passes unsigned rest := by
    split at read
    · obtain rfl := Except.ok.inj read
      exact .dropWhile isPlain_of_isDigit unsigned
    · cases read
  unfold skipExponent at read
  dsimp only at read
  split at read
  · exact (Passes.cons rfl _).trans (digits _ read)
  · exact (Passes.cons rfl _).trans (digits _ read)
  · exact digits s read

theorem passes_skipScale (read : skipScale s = .ok rest) : Passes s rest := by
  unfold skipScale at read
  split at read
  · exact (Passes.cons rfl _).trans (passes_skipExponent read)
  · exact (Passes.cons rfl _).trans (passes_skipExponent read)
  · obtain rfl := Except.ok.inj read
    exact .refl _

theorem passes_skipUnsigned (read : skipUnsigned s = .ok rest) : Passes s rest := by
  unfold skipUnsigned at read
  split at read
  · cases read
  split at read
  · cases read
  split at read
  · cases read
  refine (Passes.dropWhile isPlain_of_isDigit _).trans ?_
  split at read
  · next fraction point =>
    rw [point]
    split at read
    · refine (Passes.cons rfl _).trans ((Passes.dropWhile isPlain_of_isDigit _).trans ?_)
      exact passes_skipScale read
    · cases read
  · exact passes_skipScale read

/-- The byte that opens a value says what kind of value it is. -/
theorem byte_cases (b : UInt8) :
    (Char.ofNat b.toNat = 'n' ∨ Char.ofNat b.toNat = 't' ∨ Char.ofNat b.toNat = 'f' → isPlain b = true) ∧
      (Char.ofNat b.toNat = '"' → b = 0x22) ∧ (Char.ofNat b.toNat = '-' → isPlain b = true) ∧
      (Char.ofNat b.toNat = '[' ∨ Char.ofNat b.toNat = '{' → isOpening b = true) := by
  have known : ∀ n : Fin 256,
      (Char.ofNat n = 'n' ∨ Char.ofNat n = 't' ∨ Char.ofNat n = 'f' → isPlain (UInt8.ofNat n) = true) ∧
      (Char.ofNat n = '"' → UInt8.ofNat n = 0x22) ∧ (Char.ofNat n = '-' → isPlain (UInt8.ofNat n) = true) ∧
      (Char.ofNat n = '[' ∨ Char.ofNat n = '{' → isOpening (UInt8.ofNat n) = true) := by decide +kernel
  have form := known ⟨b.toNat, b.toNat_lt⟩
  rwa [UInt8.ofNat_toNat] at form

/-- A value is passed, and a container that opens is entered. -/
def Front.Leads (s : Bytes) : Front → Prop
  | .value rest => Passes s rest
  | .opens _ rest => ∀ n, Json.Leads n (n + 1) s rest

theorem leads_readFront {front : Front} (read : readFront s = .ok front) : front.Leads s := by
  unfold readFront at read
  split at read
  · cases read
  next b after =>
  obtain ⟨letter, mark, sign, bracket⟩ := byte_cases b
  split at read
  · next same =>
    obtain ⟨_, word, rfl⟩ := exists_of_map read
    exact passes_word (by decide) (letter (.inl same)) word
  · next same =>
    obtain ⟨_, word, rfl⟩ := exists_of_map read
    exact passes_word (by decide) (letter (.inr (.inl same))) word
  · next same =>
    obtain ⟨_, word, rfl⟩ := exists_of_map read
    exact passes_word (by decide) (letter (.inr (.inr same))) word
  · next same =>
    obtain ⟨_, text, rfl⟩ := exists_of_map read
    rw [mark same]
    exact (quotes_skipText text).passes
  · next same =>
    obtain ⟨_, number, rfl⟩ := exists_of_map read
    exact (Passes.cons (sign same) _).trans (passes_skipUnsigned number)
  · next same =>
    obtain rfl := Except.ok.inj read
    exact fun _ => .opening (bracket (.inl same)) after
  · next same =>
    obtain rfl := Except.ok.inj read
    exact fun _ => .opening (bracket (.inr same)) after
  · split at read
    · obtain ⟨_, number, rfl⟩ := exists_of_map read
      exact passes_skipUnsigned number
    · cases read

theorem passes_skipKey (read : skipKey s = .ok rest) : Passes s rest := by
  unfold skipKey at read
  split at read
  · cases read
  · next name opened =>
    refine passes_of_skipSpace opened ?_
    obtain ⟨named, text, read⟩ := exists_of_bind read
    refine (quotes_skipText text).passes.trans ?_
    split at read
    · cases read
    · next value colon =>
      obtain rfl := Except.ok.inj read
      exact passes_of_skipSpace colon (.cons rfl _)
    · cases read
  · cases read

theorem passes_nextPart {c : Container} (read : c.nextPart s = .ok rest) : Passes s rest := by
  cases c with
  | list =>
    obtain rfl := Except.ok.inj read
    exact .refl _
  | object => exact passes_skipKey read

theorem isClosing_closing (c : Container) : isClosing c.closing = true := by cases c <;> rfl

theorem leads_closeAll {stack left : List Container} (read : closeAll stack s = .ok (left, rest)) :
    Leads stack.length left.length s rest := by
  induction stack generalizing s with
  | nil =>
    obtain ⟨rfl, rfl⟩ := Prod.mk.inj (Except.ok.inj read)
    exact .of_passes (.refl _)
  | cons c outer ih =>
    unfold closeAll at read
    split at read
    · cases read
    · next b after found =>
      refine .of_skipSpace found ?_
      split at read
      · next mark =>
        obtain rfl := eq_of_beq mark
        exact (Leads.closing (isClosing_closing c) after).trans (ih read)
      split at read
      · next comma =>
        obtain rfl := eq_of_beq comma
        obtain ⟨_, part, read⟩ := exists_of_bind read
        obtain ⟨rfl, rfl⟩ := Prod.mk.inj (Except.ok.inj read)
        exact .of_passes ((Passes.cons rfl _).trans (passes_nextPart part))
      · cases read

theorem leads_enter {c : Container} {outer left : List Container}
    (read : enter c outer s = .ok (left, rest)) : Leads (outer.length + 1) left.length s rest := by
  unfold enter at read
  split at read
  · cases read
  · next b after found =>
    split at read
    · next mark =>
      obtain rfl := eq_of_beq mark
      exact .of_skipSpace found ((Leads.closing (isClosing_closing c) after).trans (leads_closeAll read))
    · obtain ⟨_, part, read⟩ := exists_of_bind read
      obtain ⟨rfl, rfl⟩ := Prod.mk.inj (Except.ok.inj read)
      exact .of_passes (passes_nextPart part)

theorem leads_skipAll {fuel : Nat} {stack : List Container} (read : skipAll fuel stack s = .ok rest) :
    Leads stack.length 0 s rest := by
  induction fuel generalizing stack s with
  | zero => cases read
  | succ fuel ih =>
    have goOn {left : List Container} {after : Bytes}
        (read : (if left.isEmpty then pure after else skipAll fuel left after) = .ok rest) :
        Leads left.length 0 after rest := by
      split at read
      · next none =>
        obtain rfl := Except.ok.inj read
        rw [List.isEmpty_iff.mp none]
        exact .of_passes (.refl _)
      · exact ih read
    unfold skipAll at read
    obtain ⟨front, found, read⟩ := exists_of_bind read
    have taken := leads_readFront found
    refine .of_skipSpace rfl ?_
    cases front with
    | value after =>
      obtain ⟨⟨left, after⟩, closed, read⟩ := exists_of_bind read
      exact (Leads.of_passes taken).trans ((leads_closeAll closed).trans (goOn read))
    | opens c after =>
      obtain ⟨⟨left, after⟩, entered, read⟩ := exists_of_bind read
      exact (taken stack.length).trans ((leads_enter entered).trans (goOn read))

theorem leads_skipValue (read : skipValue s = .ok rest) : Leads n n s rest := (leads_skipAll read).within

/-! ### Parts of a shape -/

variable {item : Reader α} {x : α}

/-- What the reader takes leads back to where it starts. -/
def IsLevel (item : Reader α) : Prop := ∀ {s rest x}, item s = .ok (x, rest) → Leads 0 0 s rest

theorem not_ok_of_refuse {expected : String} {y : α × Bytes} (read : refuse expected s = .ok y) : False := by
  obtain ⟨_, _, read⟩ := exists_of_bind read
  cases read

theorem passes_readString {text : String} (read : readString s = .ok (text, rest)) : Passes s rest := by
  unfold readString at read
  split at read
  · cases read
  · next opened => exact passes_of_skipSpace opened (quotes_readText read).passes
  · exact (not_ok_of_refuse read).elim

theorem passes_readByte {value : UInt8} (read : readByte s = .ok (value, rest)) : Passes s rest := by
  unfold readByte at read
  split at read
  · cases read
  · next b after found =>
    refine passes_of_skipSpace found ?_
    split at read
    · obtain ⟨⟨number, left⟩, taken, read⟩ := exists_of_bind read
      have passed := passes_readNumber taken
      cases number with
      | integer n =>
        dsimp only at read
        split at read
        · obtain ⟨_, rfl⟩ := Prod.mk.inj (Except.ok.inj read)
          exact passed
        · cases read
      | real x => cases read
    · exact (not_ok_of_refuse read).elim

/-- Another part of a list leads on, and the closing mark is left. -/
theorem leads_readNext {first : Bool} {found : Option α} (level : IsLevel item)
    (read : readNext item first s = .ok (found, rest)) :
    Leads 0 0 s rest ∧ (found = none → ∃ after, rest = 0x5D :: after) := by
  have part {s : Bytes} (read : (item s).map (fun r => (some r.1, r.2)) = .ok (found, rest)) :
      Leads 0 0 s rest ∧ (found = none → ∃ after, rest = 0x5D :: after) := by
    obtain ⟨⟨x, left⟩, taken, same⟩ := exists_of_map read
    obtain ⟨rfl, rfl⟩ := Prod.mk.inj same
    exact ⟨level taken, fun none => by cases none⟩
  unfold readNext at read
  dsimp only at read
  split at read
  · cases read
  · next after closing =>
    obtain ⟨rfl, rfl⟩ := Prod.mk.inj (Except.ok.inj read)
    exact ⟨.of_skipSpace closing (.of_passes (.refl _)), fun _ => ⟨after, rfl⟩⟩
  · next b after _ found =>
    split at read
    · exact ⟨.of_skipSpace found (part read).1, (part read).2⟩
    split at read
    · next comma =>
      obtain rfl := eq_of_beq comma
      split at read
      · cases read
      · cases read
      · have passed : Passes (0x2C :: after) (skipSpace after) :=
          (Passes.cons rfl after).trans (passes_skipSpace after)
        exact ⟨.of_skipSpace found ((Leads.of_passes passed).trans (part read).1), (part read).2⟩
    · cases read

theorem leads_closeList (read : closeList s = .ok rest) : Leads (n + 1) n s rest := by
  unfold closeList at read
  split at read
  · cases read
  · next after closing =>
    obtain rfl := Except.ok.inj read
    exact .of_skipSpace closing (.closing rfl _)
  · split at read
    · cases read
    · cases read
  · cases read

theorem leads_readAll {fuel : Nat} {first : Bool} {xs : List α} (level : IsLevel item)
    (read : readAll item fuel first s = .ok (xs, rest)) : Leads 1 0 s rest := by
  induction fuel generalizing first s xs with
  | zero => cases read
  | succ fuel ih =>
    unfold readAll at read
    obtain ⟨⟨found, after⟩, next, read⟩ := exists_of_bind read
    have passed := (leads_readNext level next).1.within (n := 1)
    refine passed.trans ?_
    cases found with
    | none =>
      obtain ⟨_, closed, read⟩ := exists_of_bind read
      obtain ⟨_, rfl⟩ := Prod.mk.inj (Except.ok.inj read)
      exact leads_closeList closed
    | some x =>
      obtain ⟨⟨xs, _⟩, more, read⟩ := exists_of_bind read
      obtain ⟨_, rfl⟩ := Prod.mk.inj (Except.ok.inj read)
      exact ih more

theorem leads_readPart {index : Nat} {expected : String} (level : IsLevel item)
    (read : readPart item index expected s = .ok (x, rest)) : Leads n n s rest := by
  unfold readPart at read
  obtain ⟨⟨found, after⟩, next, read⟩ := exists_of_bind read
  have passed := (leads_readNext level next).1
  cases found with
  | none => cases read
  | some y =>
    obtain ⟨_, rfl⟩ := Prod.mk.inj (Except.ok.inj read)
    exact passed.within

theorem isLevel_readListOf (level : IsLevel item) (expected : String) :
    IsLevel (readListOf item expected) := by
  intro s rest xs read
  unfold readListOf at read
  split at read
  · cases read
  · next after opened => exact .of_skipSpace opened ((Leads.opening rfl after).trans (leads_readAll level read))
  · exact (not_ok_of_refuse read).elim

theorem passes_readColon (read : readColon s = .ok rest) : Passes s rest := by
  unfold readColon at read
  split at read
  · cases read
  · next after colon =>
    obtain rfl := Except.ok.inj read
    exact passes_of_skipSpace colon (.cons rfl _)
  · cases read

/-- The mark of the next key stands behind what is passed, or the object is closed. -/
theorem leads_nextKey {first more : Bool} (read : nextKey first s = .ok (more, rest)) :
    if more then Passes s (0x22 :: rest) else ∀ n, Leads (n + 1) n s rest := by
  unfold nextKey at read
  split at read
  · cases read
  · next after closing =>
    obtain ⟨rfl, rfl⟩ := Prod.mk.inj (Except.ok.inj read)
    exact fun _ => .of_skipSpace closing (.closing rfl _)
  · next b after _ found =>
    split at read
    · split at read
      · next mark =>
        obtain ⟨rfl, rfl⟩ := Prod.mk.inj (Except.ok.inj read)
        obtain rfl := eq_of_beq mark
        exact passes_of_skipSpace found (.refl _)
      · cases read
    split at read
    · next comma =>
      obtain rfl := eq_of_beq comma
      split at read
      · cases read
      · next key mark =>
        obtain ⟨rfl, rfl⟩ := Prod.mk.inj (Except.ok.inj read)
        exact passes_of_skipSpace found ((Passes.cons rfl _).trans (passes_of_skipSpace mark (.refl _)))
      · cases read
      · cases read
    · cases read

/-- A document that is read keeps every pass at the top. -/
theorem eq_top_of_readDocument {next : Spot} (level : IsLevel item) (read : readDocument item s = .ok x)
    (passed : scan top s = some next) : next = top := by
  unfold readDocument at read
  obtain ⟨⟨y, rest⟩, taken, read⟩ := exists_of_bind read
  dsimp only at read
  split at read
  · next blank =>
    have end_ : skipSpace rest = [] := List.isEmpty_iff.mp blank
    obtain ⟨used, whole, leads⟩ := (level taken).trans (.of_passes (passes_skipSpace rest))
    rw [end_, List.append_nil] at whole
    exact leads 0 next (whole ▸ passed)
  · cases read

/-- A part of a container from its start, which does not reach its end, is no document. -/
theorem exists_fault_of_prefix {whole : Bytes} (level : IsLevel item) (empty : ∃ e, item [] = .error e)
    (enclosed : IsEnclosed whole) (cut : s <+: whole) (proper : s ≠ whole) :
    ∃ e, readDocument item s = .error e := by
  cases read : readDocument item s with
  | error e => exact ⟨e, rfl⟩
  | ok x =>
    obtain ⟨last, rfl⟩ := cut
    have first : s ≠ [] := by
      rintro rfl
      obtain ⟨e, refused⟩ := empty
      rw [readDocument, refused] at read
      cases read
    have more : last ≠ [] := by
      rintro rfl
      exact proper (List.append_nil s).symm
    obtain ⟨spot, passed⟩ := enclosed.exists_spot first more
    have depth : spot.depth + 1 = 0 := congrArg Spot.depth (eq_top_of_readDocument level read passed)
    omega

end RequestTrail.Json
