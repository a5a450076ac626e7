import RequestTrail.Text.Ascii

/-! What is open at a place of a JSON text: how many containers, and whether a string is. One pass over
the bytes tells it. Where all that opens is closed again, a part that ends inside a container is not
closed, and neither is one that starts there. -/
namespace RequestTrail.Json

inductive Place where
  | outside
  | string
  | escape

/-- Where a pass over a text stands. -/
structure Spot where
  place : Place
  depth : Nat

/-- The marks that open a container. -/
def isOpening (b : UInt8) : Bool := b == 0x5B || b == 0x7B

def isClosing (b : UInt8) : Bool := b == 0x5D || b == 0x7D

namespace Spot

/-- Outside of all containers and strings. -/
def top : Spot := ⟨.outside, 0⟩

/-- The same place in a text that stands inside so many more containers. -/
def deeper (spot : Spot) (more : Nat) : Spot := { spot with depth := spot.depth + more }

/-- Passes one byte. A mark that closes nothing ends the pass, and so does a control in a string. -/
def step (spot : Spot) (b : UInt8) : Option Spot :=
  match spot.place with
  | .outside =>
    if b = 0x22 then some { spot with place := .string }
    else if isOpening b then some (spot.deeper 1)
    else if isClosing b then
      if spot.depth = 0 then none else some { spot with depth := spot.depth - 1 }
    else some spot
  | .string =>
    if b < 0x20 then none
    else if b = 0x22 then some { spot with place := .outside }
    else if b = 0x5C then some { spot with place := .escape }
    else some spot
  | .escape => if b < 0x20 then none else some { spot with place := .string }

def scan (spot : Spot) (s : Bytes) : Option Spot := s.foldlM step spot

end Spot

open Spot

/-- All that opens in the text is closed in it, and nothing else is. -/
def IsClosed (s : Bytes) : Prop := scan top s = some top

/-- The text can stand inside a string. -/
def IsHeld (s : Bytes) : Prop := scan ⟨.string, 0⟩ s = some ⟨.string, 0⟩

/-- The text stands between the marks of one container. -/
def IsEnclosed (s : Bytes) : Prop :=
  ∃ opening inner closing, isOpening opening = true ∧ IsClosed inner ∧ isClosing closing = true ∧
    s = opening :: (inner ++ [closing])

variable {spot next : Spot} {a b s inner : Bytes} {x opening closing : UInt8}

/-! ### Passing a text -/

namespace Spot

@[simp] theorem scan_nil (spot : Spot) : scan spot [] = some spot := rfl

@[simp] theorem scan_cons (spot : Spot) (x : UInt8) (s : Bytes) :
    scan spot (x :: s) = (spot.step x).bind (scan · s) := rfl

theorem scan_append (spot : Spot) (a b : Bytes) :
    scan spot (a ++ b) = (scan spot a).bind (scan · b) := List.foldlM_append

/-- Bytes that change nothing one by one change nothing together. -/
theorem scan_of_fixed (fixed : ∀ x ∈ s, spot.step x = some spot) : scan spot s = some spot := by
  induction s with
  | nil => rfl
  | cons x s ih =>
    rw [scan_cons, fixed x (.head s), Option.bind_some]
    exact ih fun y m => fixed y (.tail x m)

/-- What is around a text has no influence on the pass. -/
theorem step_deeper (more : Nat) (passed : spot.step x = some next) :
    (spot.deeper more).step x = some (next.deeper more) := by
  obtain ⟨place, depth⟩ := spot
  cases place with
  | outside => grind [step, deeper]
  | string => grind [step, deeper]
  | escape => grind [step, deeper]

theorem scan_deeper (more : Nat) (passed : scan spot s = some next) :
    scan (spot.deeper more) s = some (next.deeper more) := by
  induction s generalizing spot with
  | nil =>
    obtain rfl := Option.some.inj passed
    rfl
  | cons x s ih =>
    obtain ⟨after, first, rest⟩ := Option.bind_eq_some_iff.mp passed
    rw [scan_cons, step_deeper more first]
    exact ih rest

/-- A control stands outside of strings, and it is no mark. -/
theorem step_of_control (control : x < 0x20) (passed : spot.step x = some next) :
    spot.place = .outside ∧ next = spot := by
  obtain ⟨place, depth⟩ := spot
  cases place with
  | outside =>
    have unmarked : x ≠ 0x22 ∧ isOpening x = false ∧ isClosing x = false := by
      have known : ∀ n : Fin 0x20, UInt8.ofNat n ≠ 0x22 ∧ isOpening (UInt8.ofNat n) = false ∧
          isClosing (UInt8.ofNat n) = false := by decide
      have small : x.toNat < 0x20 := UInt8.lt_iff_toNat_lt.mp control
      simpa using known ⟨x.toNat, small⟩
    obtain ⟨mark, opens, closes⟩ := unmarked
    simp only [step, mark, opens, closes, if_false, Bool.false_eq_true] at passed
    exact ⟨rfl, (Option.some.inj passed).symm⟩
  | string => simp [step, control] at passed
  | escape => simp [step, control] at passed

end Spot

/-! ### Closed texts -/

theorem IsClosed.nil : IsClosed [] := rfl

theorem IsClosed.append (first : IsClosed a) (second : IsClosed b) : IsClosed (a ++ b) := by
  unfold IsClosed at first second ⊢
  rw [scan_append, first, Option.bind_some, second]

/-- What stands outside of strings and is no mark. -/
def isPlain (b : UInt8) : Bool := b != 0x22 && !isOpening b && !isClosing b

theorem isClosed_of_plain (plain : ∀ x ∈ s, isPlain x = true) : IsClosed s := by
  apply scan_of_fixed
  intro x m
  have form := plain x m
  simp only [isPlain, Bool.and_eq_true, bne_iff_ne, ne_eq, Bool.not_eq_true'] at form
  obtain ⟨⟨mark, opens⟩, closes⟩ := form
  simp [step, top, mark, opens, closes]

namespace IsHeld

theorem nil : IsHeld [] := rfl

theorem append (first : IsHeld a) (second : IsHeld b) : IsHeld (a ++ b) := by
  unfold IsHeld at first second ⊢
  rw [scan_append, first, Option.bind_some, second]

theorem cons (printed : ¬x < 0x20) (mark : x ≠ 0x22) (slash : x ≠ 0x5C) (held : IsHeld s) :
    IsHeld (x :: s) := by
  unfold IsHeld at held ⊢
  simpa [step, printed, mark, slash] using held

theorem escape (printed : ¬x < 0x20) (held : IsHeld s) : IsHeld (0x5C :: x :: s) := by
  unfold IsHeld at held ⊢
  simpa [step, printed] using held

/-- A string with its marks. -/
theorem isClosed (held : IsHeld s) : IsClosed (0x22 :: (s ++ [0x22])) := by
  change scan ⟨.string, 0⟩ (s ++ [0x22]) = some top
  rw [scan_append, held]
  rfl

end IsHeld

theorem step_opening (opens : isOpening opening = true) (spot : Spot) (outside : spot.place = .outside) :
    spot.step opening = some (spot.deeper 1) := by
  have mark : opening ≠ 0x22 := by
    rintro rfl
    cases opens
  simp [step, outside, mark, opens]

theorem step_closing (closes : isClosing closing = true) :
    (top.deeper 1).step closing = some top := by
  have mark : closing ≠ 0x22 := by
    rintro rfl
    cases closes
  have opens : isOpening closing = false := by
    simp only [isClosing, Bool.or_eq_true, beq_iff_eq] at closes
    rcases closes with rfl | rfl <;> rfl
  simp [step, top, deeper, mark, opens, closes]

theorem IsEnclosed.isClosed (enclosed : IsEnclosed s) : IsClosed s := by
  obtain ⟨opening, inner, closing, opens, closed, closes, rfl⟩ := enclosed
  have inside : scan (top.deeper 1) inner = some (top.deeper 1) := scan_deeper 1 closed
  unfold IsClosed
  rw [scan_cons, step_opening opens top rfl, Option.bind_some, scan_append, inside, Option.bind_some,
    scan_cons, step_closing closes]
  rfl

/-- In front of the closing mark the container is open. -/
theorem IsEnclosed.exists_spot (enclosed : IsEnclosed (a ++ b)) (first : a ≠ []) (last : b ≠ []) :
    ∃ spot : Spot, scan top a = some (spot.deeper 1) := by
  obtain ⟨opening, inner, closing, opens, closed, _, split⟩ := enclosed
  obtain ⟨x, a, rfl⟩ := List.exists_cons_of_ne_nil first
  obtain ⟨init, y, rfl⟩ : ∃ init y, b = init ++ [y] :=
    ⟨_, _, (List.dropLast_concat_getLast last).symm⟩
  rw [List.cons_append, ← List.append_assoc] at split
  obtain ⟨rfl, rest⟩ := List.cons.inj split
  obtain ⟨rfl, _⟩ := List.append_inj' rest rfl
  unfold IsClosed at closed
  rw [scan_append] at closed
  obtain ⟨spot, passed, _⟩ := Option.bind_eq_some_iff.mp closed
  refine ⟨spot, ?_⟩
  rw [scan_cons, step_opening opens top rfl]
  exact scan_deeper 1 passed

/-- A text that ends inside its container is not closed. -/
theorem IsEnclosed.not_isClosed_left (enclosed : IsEnclosed (a ++ b)) (first : a ≠ []) (last : b ≠ []) :
    ¬IsClosed a := by
  intro closed
  obtain ⟨spot, passed⟩ := enclosed.exists_spot first last
  have same := Option.some.inj (passed.symm.trans closed)
  have depth : spot.depth + 1 = 0 := congrArg Spot.depth same
  omega

/-- A text that starts inside a container, after a line break, closes more than it opens. -/
theorem IsEnclosed.not_isClosed_right (enclosed : IsEnclosed (a ++ x :: b)) (first : a ≠ [])
    (control : x < 0x20) : ¬IsClosed b := by
  intro closed
  obtain ⟨spot, passed⟩ := enclosed.exists_spot first (List.cons_ne_nil x b)
  have whole : scan top (a ++ x :: b) = some top := enclosed.isClosed
  rw [scan_append, passed, Option.bind_some, scan_cons] at whole
  obtain ⟨next, stepped, rest⟩ := Option.bind_eq_some_iff.mp whole
  obtain ⟨outside, rfl⟩ := step_of_control control stepped
  have around : spot.deeper 1 = top.deeper (spot.depth + 1) := by
    obtain ⟨place, depth⟩ := spot
    obtain rfl : place = .outside := outside
    simp [deeper, top]
  rw [around, scan_deeper (spot.depth + 1) closed] at rest
  have depth : 0 + (spot.depth + 1) = 0 := congrArg Spot.depth (Option.some.inj rest)
  omega

end RequestTrail.Json
