import RequestTrail.Proofs.Multipart.Part
import RequestTrail.Proofs.Text.Fields

/-! Headers as lines that are joined by a break of one kind or the other, and the name that is told by
what follows them. Metadata that is not closed tells none. -/
namespace RequestTrail.Multipart

open Text

/-- Lines of headers, none of which is empty. What they show first is no brace. -/
structure IsHeaderLines (lines : List (List Char)) : Prop where
  nonempty : ∀ line ∈ lines, line ≠ []
  unbroken : ∀ line ∈ lines, IsUnbroken line
  braceless : ∀ c ∈ (trimStart lines.flatten).head?, c ≠ '{'

/-- Lines in front of the first delimiter, if there are any. -/
structure IsPreamble (boundary : List Char) (preamble : Bytes) : Prop where
  absent : ¬delimiter boundary <:+: preamble
  broken : preamble = [] ∨ ∃ front, preamble = front ++ utf8 crlf

variable {boundary needle ending a b s : List Char} {lines : List (List Char)} {preamble : Bytes}

/-! ### The preamble -/

theorem IsPreamble.nil (boundary : List Char) : IsPreamble boundary [] :=
  ⟨fun inside => delimiter_ne_nil boundary (List.infix_nil.mp inside), .inl rfl⟩

/-- A delimiter that starts in the preamble ends in it. -/
theorem IsPreamble.not_crosses (opening : IsPreamble boundary preamble) (whole : IsUnbroken boundary)
    (rest : Bytes) : ¬Crosses (delimiter boundary) preamble rest := by
  rcases opening.broken with rfl | ⟨front, rfl⟩
  · rintro ⟨left, _, nonempty, _, _, ends, _⟩
    exact nonempty (List.suffix_nil.mp ends)
  · have lines : front ++ utf8 crlf = front ++ [0x0D] ++ [0x0A] := by
      rw [List.append_assoc]
      rfl
    rw [lines]
    apply not_crosses_of_last
    intro m
    obtain ⟨c, inside, m⟩ := List.mem_flatMap.mp ((List.dropLast_sublist _).subset m)
    have other : '\n' ≠ c := fun same => whole.dashed.2 (same ▸ inside)
    exact Utf8.not_mem_utf8EncodeChar (by decide) other m

/-- What stands in front of the first delimiter is not looked at. -/
theorem IsPreamble.objectNameIn? (opening : IsPreamble boundary preamble) (whole : IsUnbroken boundary)
    (rest : Bytes) : Multipart.objectNameIn? boundary (preamble ++ (delimiter boundary ++ rest)) =
      Multipart.objectNameIn? boundary (delimiter boundary ++ rest) := by
  have passed := cutAtFirst_append_left opening.absent (opening.not_crosses whole (delimiter boundary ++ rest))
  have same : firstPart? (delimiter boundary) (preamble ++ (delimiter boundary ++ rest)) =
      firstPart? (delimiter boundary) (delimiter boundary ++ rest) := by
    rw [firstPart?_eq, firstPart?_eq, passed, Option.map_map]
    rfl
  rw [Multipart.objectNameIn?, Multipart.objectNameIn?, same]

/-! ### Metadata -/

theorem nameTold?_congr (same : trim a = trim b) : nameTold? a = nameTold? b := by
  rw [nameTold?, nameTold?, same]

/-- What is left open, or closed too often, tells nothing. -/
theorem nameTold?_of_not_isClosed (unclosed : ¬Json.IsClosed (utf8 s)) : nameTold? s = none := by
  cases parsed : Json.Value.parse (utf8 (trim s)) with
  | error e => rw [nameTold?, parsed]; rfl
  | ok v =>
    have closed : Json.IsClosed (utf8 (trim s)) := Json.Value.isClosed_of_parse parsed
    obtain ⟨left, right, same, blankLeft, blankRight, _⟩ := exists_trim s
    rw [same, utf8_append, utf8_append] at unclosed
    exact absurd ((Json.isClosed_of_blank blankLeft).append
      (closed.append (Json.isClosed_of_blank blankRight))) unclosed

/-! ### Lines -/

theorem head?_trimStart (s : List Char) : (trimStart s).head? = s.find? (!isBlank ·) := by
  rw [trimStart, List.find?_not_eq_head?_dropWhile]

/-- Breaks show nothing, so what a block of lines shows first stands in its lines. -/
theorem head?_trimStart_intercalate {separator : List Char} (blank : ∀ c ∈ separator, isBlank c = true)
    (lines : List (List Char)) :
    (trimStart (List.intercalate separator lines)).head? = (trimStart lines.flatten).head? := by
  have hidden : separator.find? (!isBlank ·) = none := by
    apply List.find?_eq_none.mpr
    intro c m
    simp [blank c m]
  rw [head?_trimStart, head?_trimStart]
  induction lines with
  | nil => rfl
  | cons line lines ih =>
    cases lines with
    | nil => rw [List.intercalate_singleton, List.flatten_singleton]
    | cons next lines =>
      rw [List.intercalate_cons_cons, List.append_assoc, List.flatten_cons, List.find?_append, List.find?_append,
        List.find?_append, ih, hidden, Option.none_or]

theorem IsHeaderLines.braceless_intercalate (headers : IsHeaderLines lines) {separator : List Char}
    (blank : ∀ c ∈ separator, isBlank c = true) :
    ∀ c ∈ (trimStart (List.intercalate separator lines)).head?, c ≠ '{' := by
  rw [head?_trimStart_intercalate blank]
  exact headers.braceless

/-- The first visible character of a block of lines, however they are ended. -/
theorem IsHeaderLines.exists_shown (headers : IsHeaderLines lines) (shown : trimStart lines.flatten ≠ [])
    {separator : List Char} (blank : ∀ c ∈ separator, isBlank c = true) :
    ∃ run c rest, List.intercalate separator lines = run ++ c :: rest ∧ (∀ c ∈ run, isBlank c = true) ∧
      isBlank c = false ∧ c ≠ '{' := by
  obtain ⟨run, rest, split, blankRun, stops⟩ := exists_run isBlank (List.intercalate separator lines)
  have starts : trimStart (List.intercalate separator lines) = rest := by
    rw [trimStart, split]
    exact dropWhile_append_of_stops blankRun stops
  have first := head?_trimStart_intercalate blank lines
  rw [starts] at first
  cases rest with
  | nil => exact absurd (List.head?_eq_none_iff.mp first.symm) shown
  | cons c rest => exact ⟨run, c, rest, split, blankRun, stops c rfl, headers.braceless c first.symm⟩

theorem blank_intercalate {separator : List Char} (blank : ∀ c ∈ separator, isBlank c = true)
    (hidden : trimStart lines.flatten = []) : ∀ c ∈ List.intercalate separator lines, isBlank c = true := by
  apply List.dropWhile_eq_nil_iff.mp
  apply List.head?_eq_none_iff.mp
  exact (head?_trimStart_intercalate blank lines).trans (congrArg List.head? hidden)

theorem IsHeaderLines.not_crlf (headers : IsHeaderLines lines) : ∀ line ∈ lines, ¬crlf <:+: line :=
  fun line m inside => (headers.unbroken line m).1 (inside.subset List.mem_cons_self)

/-! ### Breaks -/

theorem IsBreak.blank (form : IsBreak ending) : ∀ c ∈ ending, isBlank c = true := by
  cases form with
  | crlf => exact blank_crlf
  | lf => decide

theorem IsBreak.exists_front (form : IsBreak ending) : ∃ front, ending = front ++ ['\n'] ∧ '\n' ∉ front := by
  cases form with
  | crlf => exact ⟨['\r'], rfl, by decide⟩
  | lf => exact ⟨[], rfl, List.not_mem_nil⟩

/-- What is in no line is not in lines with breaks between them either. -/
theorem IsBreak.not_infix_intercalate (form : IsBreak ending) (whole : IsUnbroken needle)
    (nonempty : needle ≠ []) (absent : ∀ line ∈ lines, ¬needle <:+: line) : ¬needle <:+: List.intercalate ending lines := by
  induction lines with
  | nil => exact fun inside => nonempty (List.infix_nil.mp inside)
  | cons line lines ih =>
    have here : ¬needle <:+: line := absent line (.head lines)
    cases lines with
    | nil => rwa [List.intercalate_singleton]
    | cons next lines =>
      rw [List.intercalate_cons_cons, List.append_assoc]
      exact form.not_infix_append whole here (ih fun l m => absent l (.tail line m))

/-- Lines that are not empty are not empty with what stands in front of a break either. -/
theorem IsHeaderLines.nil_not_mem_fields (headers : IsHeaderLines lines) {front : List Char}
    (free : '\n' ∉ front) (some : lines ≠ []) : [] ∉ fields '\n' (List.intercalate (front ++ ['\n']) lines) := by
  have each : ∀ line ∈ lines, line ≠ [] ∧ '\n' ∉ line := fun line m =>
    ⟨headers.nonempty line m, (headers.unbroken line m).2⟩
  clear headers
  induction lines with
  | nil => exact absurd rfl some
  | cons line lines ih =>
    obtain ⟨nonempty, unbroken⟩ := each line (.head lines)
    cases lines with
    | nil =>
      rw [List.intercalate_singleton, fields_of_not_mem unbroken, List.mem_singleton]
      exact nonempty.symm
    | cons next lines =>
      rw [List.intercalate_cons_cons, ← List.append_assoc line, List.append_assoc, List.singleton_append,
        fields_append_cons _ (by simp [unbroken, free]), List.mem_cons, not_or]
      exact ⟨by simp [nonempty], ih (List.cons_ne_nil _ _) fun l m => each l (.tail line m)⟩

theorem IsHeaderLines.not_doubled (headers : IsHeaderLines lines) (form : IsBreak ending) :
    ¬['\n', '\n'] <:+: List.intercalate ending lines ++ ['\n'] := by
  intro inside
  obtain ⟨front, rfl, free⟩ := form.exists_front
  by_cases empty : lines = []
  · rw [empty] at inside
    exact absurd inside.length_le (by simp)
  · exact headers.nil_not_mem_fields free empty (nil_mem_fields inside)

theorem IsHeaderLines.not_blankLine (headers : IsHeaderLines lines) :
    ¬blankLine <:+: List.intercalate crlf lines := by
  cases lines with
  | nil => exact fun inside => absurd inside.length_le (by decide)
  | cons first lines =>
    intro inside
    apply Multipart.not_blankLine headers.nonempty headers.not_crlf
    rw [← intercalate_crlf, List.append_assoc]
    exact inside.trans (List.prefix_append _ _).isInfix

theorem IsHeaderLines.not_mem_intercalate (headers : IsHeaderLines lines) :
    '\r' ∉ List.intercalate ['\n'] lines := by
  have each : ∀ line ∈ lines, '\r' ∉ line := fun line m => (headers.unbroken line m).1
  clear headers
  induction lines with
  | nil => exact List.not_mem_nil
  | cons line lines ih =>
    have here : '\r' ∉ line := each line (.head lines)
    cases lines with
    | nil => rwa [List.intercalate_singleton]
    | cons next lines =>
      have later := ih fun l m => each l (.tail line m)
      simpa [here] using later

/-- A part in which no line is empty shows no metadata, unless an object is all of it. -/
theorem metadata?_of_not_spaced (braceless : ∀ c ∈ (trimStart s).head?, c ≠ '{') (absent : ¬blankLine <:+: s)
    (absent' : ¬['\n', '\n'] <:+: s) : metadata? (trim s) = none := by
  obtain ⟨left, right, same, blankLeft, _, trimmed⟩ := exists_trim s
  have inside : trim s <:+: s := ⟨left, right, by rw [List.append_assoc, ← same]⟩
  have cut : cutAtFirst blankLine (trim s) = none := cutAtFirst_of_absent fun h => absent (h.trans inside)
  have cut' : cutAtFirst ['\n', '\n'] (trim s) = none := cutAtFirst_of_absent fun h => absent' (h.trans inside)
  cases shown : trim s with
  | nil => rfl
  | cons c rest =>
    rw [shown] at same trimmed cut cut'
    have visible : isBlank c = false := (trimmed (List.cons_ne_nil c rest)).first c rfl
    have first : (trimStart s).head? = some c := by
      rw [same, trimStart, List.cons_append, dropWhile_append_of_stops blankLeft (by simpa using visible)]
      rfl
    rw [metadata?_of_other (braceless c first), cut, cut']
    rfl

end RequestTrail.Multipart
