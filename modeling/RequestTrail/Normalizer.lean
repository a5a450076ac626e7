import RequestTrail.Text.Search

/-!
# Normalizing tokens

Page tokens and generation tokens are made at run time. A normalizer puts placeholders for them
that count the texts it has seen, so the same run always gives the same texts. Both kinds of token
end at the next ampersand.
-/
namespace RequestTrail

open Text

/-- A parameter whose value is volatile, from its opening text to the end of the value, and the
opening of the placeholder that stands for the value. -/
structure Parameter where
  opening : List Char
  placeholder : List Char

namespace Parameter

def pageToken : Parameter := ⟨"&pageToken=".toList, "token_".toList⟩

def generationMatch : Parameter :=
  ⟨"ifGenerationMatch=".toList, "GenerationMatch_token_".toList⟩

/-- The parameter as it is written at one position. -/
def numbered (p : Parameter) (position : Nat) : List Char :=
  p.opening ++ p.placeholder ++ (toString position).toList

/-- What follows a parameter with a value that is not empty, if one opens the text. -/
def skip? (p : Parameter) (s : List Char) : Option (List Char) :=
  if p.opening.isPrefixOf s then
    match s.drop p.opening.length with
    | [] => none
    | c :: value => if c = '&' then none else some (value.dropWhile (· != '&'))
  else none

theorem skip?_length {p : Parameter} {s rest : List Char} (h : p.skip? s = some rest) :
    rest.length < s.length := by
  unfold skip? at h
  split at h
  · split at h
    · simp at h
    · next c value hs =>
      split at h
      · simp at h
      · obtain rfl := Option.some.inj h
        have whole : (s.drop p.opening.length).length ≤ s.length := by simp
        have part := (List.dropWhile_suffix (· != '&') (l := value)).length_le
        rw [hs, List.length_cons] at whole
        omega
  · simp at h

/-- A placeholder stands for every value, found from left to right and never inside another. -/
def replace (p : Parameter) (position : Nat) (s : List Char) : List Char :=
  match h : p.skip? s with
  | some rest =>
    have : rest.length < s.length := skip?_length h
    p.numbered position ++ replace p position rest
  | none =>
    match s with
    | [] => []
    | c :: rest => c :: replace p position rest
termination_by s.length

@[simp] theorem replace_nil (p : Parameter) (position : Nat) : p.replace position [] = [] := by
  rw [replace]
  split
  · next h => exact absurd (skip?_length h) (Nat.not_lt_zero _)
  · rfl

theorem replace_of_skip? {p : Parameter} {s rest : List Char} (position : Nat)
    (found : p.skip? s = some rest) :
    p.replace position s = p.numbered position ++ p.replace position rest := by
  rw [replace]
  split
  · next other h =>
    obtain rfl : rest = other := Option.some.inj (found.symm.trans h)
    rfl
  · next h => simp [h] at found

theorem replace_cons {p : Parameter} {c : Char} {s : List Char} (position : Nat)
    (elsewhere : p.skip? (c :: s) = none) :
    p.replace position (c :: s) = c :: p.replace position s := by
  rw [replace]
  split
  · next h => simp [h] at elsewhere
  · rfl

end Parameter

/-- Page tokens first, and generation tokens in the result. -/
def normalizeAt (position : Nat) (canonical : String) : String :=
  String.ofList <| Parameter.generationMatch.replace position <|
    Parameter.pageToken.replace position canonical.toList

/-- Counts the texts it has normalized, whether or not they held a token. -/
structure Normalizer where
  position : Nat := 0
deriving DecidableEq, Repr

def Normalizer.normalize (n : Normalizer) (canonical : String) : String × Normalizer :=
  (normalizeAt n.position canonical, ⟨n.position + 1⟩)

/-- All texts in order through one fresh normalizer. -/
def normalize (canonical : List String) : List String :=
  canonical.mapIdx normalizeAt

end RequestTrail
