import RequestTrail.Multipart
import RequestTrail.Proofs.Text.Blank
import RequestTrail.Proofs.Text.Fields
import RequestTrail.Proofs.Text.Utf8

/-! The boundary that a content type declares. Its characters are none of those that separate parameters
or surround a value, so it is found as it was written, bare or quoted. -/
namespace RequestTrail.Multipart

open Text

def isBoundaryChar (c : Char) : Bool := isAlphanumeric c || "'()+_,-./:=?".toList.contains c

structure IsBoundary (boundary : List Char) : Prop where
  nonempty : boundary ≠ []
  chars : ∀ c ∈ boundary, isBoundaryChar c = true

/-- The boundary as a parameter, bare or quoted, behind blanks. -/
def IsParameter (boundary parameter : List Char) : Prop :=
  ∃ blanks name value, (∀ c ∈ blanks, isBlank c = true) ∧ sameName name "boundary".toList = true ∧
    (value = boundary ∨ value = '"' :: (boundary ++ ['"'])) ∧ parameter = blanks ++ (name ++ '=' :: value)

/-- A parameter with a different name, or without one. -/
structure IsOther (parameter : List Char) : Prop where
  whole : ';' ∉ parameter
  named : ∀ name value, '=' ∉ name → parameter = name ++ '=' :: value →
    sameName (trim name) "boundary".toList = false

/-- The media type of an upload, with the boundary as the first parameter of its name. -/
def Declares (boundary contentType : List Char) : Prop :=
  ∃ kind before parameter after, sameName kind "multipart/related".toList = true ∧
    (∀ other ∈ before, IsOther other) ∧ IsParameter boundary parameter ∧ (∀ other ∈ after, ';' ∉ other) ∧
    contentType = kind ++ (before ++ parameter :: after).flatMap (';' :: ·)

variable {boundary contentType : List Char}

/-- A character of a boundary is one byte, and it is not cut off or taken for an end. -/
theorem IsBoundary.char (form : IsBoundary boundary) {c : Char} (m : c ∈ boundary) :
    c.toNat < 0x80 ∧ isBlank c = false ∧ c ≠ '"' ∧ c ≠ ';' ∧ c ≠ '\r' ∧ c ≠ '\n' := by
  have allowed := form.chars c m
  have ascii : c.toNat < 0x80 := by
    simp only [isBoundaryChar, isAlphanumeric, isLetter, Text.isDigit, Bool.or_eq_true, Bool.and_eq_true,
      decide_eq_true_eq, List.contains_iff_mem] at allowed
    rcases allowed with (((letter | letter) | digit) | sign)
    · exact Utf8.ascii_of_le letter.2 (by decide)
    · exact Utf8.ascii_of_le letter.2 (by decide)
    · exact Utf8.ascii_of_le digit.2 (by decide)
    · have signs : ∀ c ∈ "'()+_,-./:=?".toList, c.toNat < 0x80 := by decide
      exact signs c sign
  have known : ∀ n : Fin 0x80, isBoundaryChar (Char.ofNat n) = true → isBlank (Char.ofNat n) = false ∧
      Char.ofNat n ≠ '"' ∧ Char.ofNat n ≠ ';' ∧ Char.ofNat n ≠ '\r' ∧ Char.ofNat n ≠ '\n' := by
    decide +kernel
  have other := known ⟨c.toNat, ascii⟩
  rw [Char.ofNat_toNat] at other
  exact ⟨ascii, other allowed⟩

/-- The media type of an upload, whatever parameters it has. -/
theorem isRelated_append {kind : List Char} (same : sameName (trim kind) "multipart/related".toList = true)
    (parameters : List Char) : isRelated (kind ++ parameters) = true := by
  obtain ⟨left, right, split, blank, _, trimmed⟩ := exists_trim kind
  have lowered : lower (trim kind) = lower "multipart/related".toList := eq_of_beq same
  have nonempty : trim kind ≠ [] := by
    intro empty
    rw [empty] at lowered
    exact absurd lowered (by decide)
  have start : trimStart (kind ++ parameters) = trim kind ++ (right ++ parameters) := by
    rw [split, List.append_assoc, List.append_assoc, ← split, trimStart]
    apply dropWhile_append_of_stops blank
    intro c m
    rw [List.head?_append, List.head?_eq_some_head nonempty] at m
    exact (trimmed nonempty).first c ((List.head?_eq_some_head nonempty).trans m)
  have kinds : lower "multipart/related".toList = "multipart/related".toList := by decide
  rw [isRelated, start, lower, List.map_append]
  apply List.isPrefixOf_iff_prefix.mpr
  rw [← kinds, ← lowered]
  exact List.prefix_append _ _

theorem isRelated_of_declares (declared : Declares boundary contentType) :
    isRelated contentType = true := by
  obtain ⟨kind, before, parameter, after, same, _, _, _, rfl⟩ := declared
  have whole : trim kind = kind := trimBy_of_free (isBlank_of_sameName same (by decide))
  apply isRelated_append
  rwa [whole]

theorem boundaryOf?_of_isOther {parameter : List Char} (other : IsOther parameter) :
    boundaryOf? parameter = none := by
  by_cases assigned : '=' ∈ parameter
  · obtain ⟨name, value, rfl, free⟩ := List.eq_append_cons_of_mem assigned
    have differs := other.named name value free rfl
    rw [boundaryOf?, cutAtFirst_singleton free]
    simp only [bind, Option.bind_some, differs, Bool.false_eq_true, if_false]
  · have uncut : cutAtFirst ['='] parameter = none := by
      apply cutAtFirst_eq_none_iff.mpr
      refine Or.inr fun i stands => assigned ?_
      exact List.mem_of_mem_drop (stands.subset (List.mem_singleton.mpr rfl))
    rw [boundaryOf?, uncut]
    rfl

theorem not_mem_blanks {blanks : List Char} {c : Char} (blank : ∀ c ∈ blanks, isBlank c = true)
    (visible : isBlank c = false) : c ∉ blanks := by
  intro m
  rw [blank c m] at visible
  cases visible

/-- The value of the parameter, without blanks and quotation marks. -/
theorem IsParameter.boundaryOf? {parameter : List Char} (form : IsBoundary boundary)
    (declared : IsParameter boundary parameter) :
    Multipart.boundaryOf? parameter = some boundary := by
  obtain ⟨blanks, name, value, blank, named, valued, rfl⟩ := declared
  have unassigned : '=' ∉ blanks ++ name := by
    rw [List.mem_append, not_or]
    exact ⟨not_mem_blanks blank (by decide), not_mem_of_sameName named (by decide) (by decide)⟩
  have visible : ∀ c ∈ name, isBlank c = false := isBlank_of_sameName named (by decide)
  have nonempty : name ≠ [] := by
    rintro rfl
    exact absurd named (by decide)
  have trimmed : trim (blanks ++ name) = name := by
    have none : ∀ c ∈ ([] : List Char), isBlank c = true := fun _ m => by cases m
    have cut := trimBy_append nonempty blank none (fun c m => visible c (List.mem_of_mem_head? m))
      fun c m => visible c (List.mem_of_mem_getLast? m)
    rwa [List.append_nil] at cut
  have bare : ∀ c ∈ boundary, (c == '"') = false := fun c m => by simp [(form.char m).2.2.1]
  have unquoted : trimBy (· == '"') (trim value) = boundary := by
    rcases valued with rfl | rfl
    · have whole : trim value = value := trimBy_of_free fun c m => (form.char m).2.1
      rw [whole, trimBy_of_free bare]
    · have shown : ∀ c ∈ '"' :: (boundary ++ ['"']), isBlank c = false := by
        intro c m
        rcases List.mem_cons.mp m with rfl | m
        · rfl
        rcases List.mem_append.mp m with m | m
        · exact (form.char m).2.1
        · rw [List.mem_singleton.mp m]
          rfl
      have whole : trim ('"' :: (boundary ++ ['"'])) = ['"'] ++ (boundary ++ ['"']) := trimBy_of_free shown
      have mark : ∀ c ∈ ['"'], (c == '"') = true := fun c m => by simp [List.mem_singleton.mp m]
      rw [whole]
      exact trimBy_append form.nonempty mark mark (fun c m => bare c (List.mem_of_mem_head? m))
        fun c m => bare c (List.mem_of_mem_getLast? m)
  rw [Multipart.boundaryOf?, ← List.append_assoc, cutAtFirst_singleton unassigned]
  simp only [bind, Option.bind_some, trimmed, named, if_true, unquoted]

theorem IsParameter.whole {parameter : List Char} (form : IsBoundary boundary)
    (declared : IsParameter boundary parameter) : ';' ∉ parameter := by
  obtain ⟨blanks, name, value, blank, named, valued, rfl⟩ := declared
  have freeBoundary : ';' ∉ boundary := fun m => (form.char m).2.2.2.1 rfl
  have freeValue : ';' ∉ value := by
    rcases valued with rfl | rfl
    · exact freeBoundary
    · simp [freeBoundary]
  have freeName : ';' ∉ name := not_mem_of_sameName named (by decide) (by decide)
  have freeBlanks : ';' ∉ blanks := not_mem_blanks blank (by decide)
  simp [freeBlanks, freeName, freeValue]

theorem isOther_of_not_mem {parameter : List Char} (whole : ';' ∉ parameter) (unassigned : '=' ∉ parameter) :
    IsOther parameter := by
  refine ⟨whole, fun name value _ same => absurd ?_ unassigned⟩
  rw [same]
  exact List.mem_append_right name (.head value)

theorem boundary?_of_declares (form : IsBoundary boundary) (declared : Declares boundary contentType) :
    boundary? contentType = some boundary := by
  obtain ⟨kind, before, parameter, after, same, others, isParameter, wholeAfter, rfl⟩ := declared
  have whole : ';' ∉ kind := not_mem_of_sameName same (by decide) (by decide)
  have unassigned : '=' ∉ kind := not_mem_of_sameName same (by decide) (by decide)
  have freeParameters : ∀ p ∈ before ++ parameter :: after, ';' ∉ p := by
    intro p m
    rcases List.mem_append.mp m with m | m
    · exact (others p m).whole
    rcases List.mem_cons.mp m with rfl | m
    · exact isParameter.whole form
    · exact wholeAfter p m
  have passed : (kind :: before).findSome? boundaryOf? = none := by
    apply List.findSome?_eq_none_iff.mpr
    intro p m
    rcases List.mem_cons.mp m with rfl | m
    · exact boundaryOf?_of_isOther (isOther_of_not_mem whole unassigned)
    · exact boundaryOf?_of_isOther (others p m)
  rw [boundary?, fields_append_flatMap whole freeParameters, ← List.cons_append, List.findSome?_append,
    passed, Option.none_or, List.findSome?_cons, isParameter.boundaryOf? form]

end RequestTrail.Multipart
