/-!
# Blanks

The characters with the Unicode property White_Space, and cutting them off the ends of a text.
-/
namespace RequestTrail.Text

def isBlank (c : Char) : Bool :=
  let n := c.toNat
  (0x09 ≤ n && n ≤ 0x0D) || n == 0x20 || n == 0x85 || n == 0xA0 || n == 0x1680 ||
  (0x2000 ≤ n && n ≤ 0x200A) || n == 0x2028 || n == 0x2029 || n == 0x202F || n == 0x205F ||
  n == 0x3000

/-- Drops what satisfies `p` from both ends, and nothing from between. -/
def trimBy (p : Char → Bool) (s : List Char) : List Char :=
  ((s.dropWhile p).reverse.dropWhile p).reverse

def trimStart (s : List Char) : List Char := s.dropWhile isBlank

def trim (s : List Char) : List Char := trimBy isBlank s

/-- Every blank of ASCII counts here too. -/
theorem isBlank_of_isWhitespace {c : Char} (h : c.isWhitespace = true) : isBlank c = true := by
  simp only [Char.isWhitespace, Bool.or_eq_true, decide_eq_true_eq] at h
  rcases h with ((h | h) | h) | h <;> subst h <;> rfl

end RequestTrail.Text
