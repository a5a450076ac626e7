import RequestTrail.Proofs.Json.Syntax
import RequestTrail.Proofs.Multipart.ContentType

/-! The first part of an upload: where it stands in the body, and where its metadata stands in it. Headers
are lines with breaks between them, so the first blank line is the one that ends them. -/
namespace RequestTrail.Multipart

open Text

def crlf : List Char := ['\r', '\n']

/-- The blank line after the headers, with the break that ends the last of them. -/
def blankLine : List Char := crlf ++ crlf

/-- What may end a line. -/
inductive IsBreak : List Char → Prop where
  | crlf : IsBreak crlf
  | lf : IsBreak ['\n']

def dashed (boundary : List Char) : List Char := '-' :: '-' :: boundary

/-- The text has no line break in it. -/
def IsUnbroken (s : List Char) : Prop := '\r' ∉ s ∧ '\n' ∉ s

instance (s : List Char) : Decidable (IsUnbroken s) :=
  inferInstanceAs (Decidable (_ ∧ _))

/-- Lines of headers that hold no delimiter and do not look like an object. -/
structure IsHeaderBlock (boundary : List Char) (lines : List (List Char)) : Prop where
  nonempty : ∀ line ∈ lines, line ≠ []
  unbroken : ∀ line ∈ lines, ¬crlf <:+: line
  braceless : ∀ c ∈ (trimStart (List.intercalate crlf lines)).head?, c ≠ '{'
  absent : ¬dashed boundary <:+: List.intercalate crlf lines

/-- The name that a text tells as the metadata of an upload. -/
def nameTold? (metadata : List Char) : Option String := do
  let value ← (Json.Value.parse (utf8 (trim metadata))).toOption
  (← value.member? "name").string?

/-- A first part as it is written for the metadata, with headers or without. -/
inductive IsPart (boundary metadata : List Char) : List Char → Prop where
  | bare : IsPart boundary metadata (crlf ++ (crlf ++ (metadata ++ crlf)))
  | headed {lines : List (List Char)} : IsHeaderBlock boundary lines →
      IsPart boundary metadata
        (crlf ++ (List.intercalate crlf lines ++ (crlf ++ (crlf ++ (metadata ++ crlf)))))

variable {boundary metadata part needle ending a b : List Char} {lines : List (List Char)}

/-! ### The delimiters -/

/-- The first part stands between the first two places of the delimiter. -/
theorem firstPart?_eq (delimiter body : Bytes) : firstPart? delimiter body =
    (cutAtFirst delimiter body).map fun cut => ((cutAtFirst delimiter cut.2).map (·.1)).getD cut.2 := by
  simp only [firstPart?, firstPartSpan?, cutAtFirst]
  cases firstIndex delimiter body with
  | none => rfl
  | some i =>
    simp only [bind, Option.bind_some, Option.map_some, pure]
    cases firstIndex delimiter (body.drop (i + delimiter.length)) with
    | none => simp [List.take_of_length_le]
    | some j => simp

theorem delimiter_ne_nil (boundary : List Char) : delimiter boundary ≠ [] := by
  intro empty
  rw [delimiter, Utf8.utf8_cons_of_ascii (by decide)] at empty
  cases empty

/-- A part ends where the delimiter is found in its text, at the latest behind it. What follows the
delimiter may be any bytes. -/
theorem firstPart?_written {before after : List Char}
    (cut : cutAtFirst (dashed boundary) (part ++ dashed boundary) = some (before, after)) (content : Bytes) :
    firstPart? (delimiter boundary)
      (delimiter boundary ++ (utf8 part ++ (delimiter boundary ++ content))) = some (utf8 before) := by
  have inBytes : cutAtFirst (delimiter boundary) (utf8 (part ++ dashed boundary)) =
      some (utf8 before, utf8 after) := by
    rw [delimiter, Utf8.cutAtFirst_utf8 (by decide)]
    exact congrArg (Option.map _) cut
  have next : cutAtFirst (delimiter boundary) (utf8 part ++ (delimiter boundary ++ content)) =
      some (utf8 before, utf8 after ++ content) := by
    have found := cutAtFirst_append_right inBytes content
    rwa [utf8_append, List.append_assoc] at found
  rw [firstPart?_eq, cutAtFirst_of_prefix (delimiter_ne_nil boundary), Option.map_some]
  dsimp only
  rw [next]
  rfl

theorem IsBoundary.isUnbroken (form : IsBoundary boundary) : IsUnbroken boundary :=
  ⟨fun m => (form.char m).2.2.2.2.1 rfl, fun m => (form.char m).2.2.2.2.2 rfl⟩

theorem IsUnbroken.dashed (whole : IsUnbroken boundary) : IsUnbroken (dashed boundary) := by
  simpa [IsUnbroken, Multipart.dashed] using whole

/-- What holds no break is on one side of it. -/
theorem IsBreak.not_infix_append (form : IsBreak ending) (whole : IsUnbroken needle)
    (absent : ¬needle <:+: a) (absent' : ¬needle <:+: b) : ¬needle <:+: a ++ (ending ++ b) := by
  intro inside
  cases form with
  | lf => exact (infix_append_cons whole.2 inside).elim absent absent'
  | crlf =>
    rcases infix_append_cons whole.1 inside with left | right
    · exact absent left
    have right : needle <:+: [] ++ '\n' :: b := right
    rcases infix_append_cons whole.2 right with nowhere | right
    · exact absent (nowhere.trans List.nil_infix)
    · exact absent' right

theorem IsPart.absent (whole : IsUnbroken boundary) (absent : ¬dashed boundary <:+: metadata)
    (written : IsPart boundary metadata part) : ¬dashed boundary <:+: part := by
  have nowhere : ¬dashed boundary <:+: [] := fun inside => List.cons_ne_nil _ _ (List.infix_nil.mp inside)
  have last : ¬dashed boundary <:+: metadata ++ (crlf ++ []) :=
    IsBreak.crlf.not_infix_append whole.dashed absent nowhere
  have behind := IsBreak.crlf.not_infix_append whole.dashed nowhere last
  cases written with
  | bare => simpa using IsBreak.crlf.not_infix_append whole.dashed nowhere behind
  | headed headers =>
    have inHeaders := IsBreak.crlf.not_infix_append whole.dashed headers.absent behind
    simpa using IsBreak.crlf.not_infix_append whole.dashed nowhere inHeaders

/-- A part without a delimiter that ends with a break is found as it was written. -/
theorem firstPart?_of_absent {init : List Char} (whole : IsUnbroken boundary)
    (absent : ¬dashed boundary <:+: init ++ ['\n']) (content : Bytes) : firstPart? (delimiter boundary)
      (delimiter boundary ++ (utf8 (init ++ ['\n']) ++ (delimiter boundary ++ content))) =
        some (utf8 (init ++ ['\n'])) := by
  have last : '\n' ∉ (dashed boundary).dropLast := fun m => whole.dashed.2 ((List.dropLast_sublist _).subset m)
  have found : cutAtFirst (dashed boundary) (init ++ ['\n'] ++ (dashed boundary ++ [])) =
      some (init ++ ['\n'], []) :=
    cutAtFirst_append (List.cons_ne_nil _ _) absent (not_crosses_of_last last _)
  rw [List.append_nil] at found
  exact firstPart?_written found content

theorem IsPart.firstPart? (whole : IsUnbroken boundary) (absent : ¬dashed boundary <:+: metadata)
    (written : IsPart boundary metadata part) (content : Bytes) :
    Multipart.firstPart? (delimiter boundary)
      (delimiter boundary ++ (utf8 part ++ (delimiter boundary ++ content))) = some (utf8 part) := by
  obtain ⟨init, rfl⟩ : ∃ init, part = init ++ ['\n'] := by
    cases written with
    | bare => exact ⟨crlf ++ (crlf ++ (metadata ++ ['\r'])), by simp [crlf]⟩
    | @headed lines _ =>
      exact ⟨crlf ++ (List.intercalate crlf lines ++ (crlf ++ (crlf ++ (metadata ++ ['\r'])))),
        by simp [crlf]⟩
  exact firstPart?_of_absent whole (written.absent whole absent) content

/-! ### The headers -/

/-- A blank line does not start within a line before a break. -/
theorem blankLine_after_line {line rest : List Char} (unbroken : ¬crlf <:+: line)
    (inside : blankLine <:+: line ++ (crlf ++ rest)) : blankLine <:+: crlf ++ rest := by
  rcases infix_append_iff.mp inside with left | right | ⟨left, right, nonempty, _, same, ends, starts⟩
  · have half : crlf <:+: blankLine := (List.prefix_append crlf crlf).isInfix
    exact absurd (half.trans left) unbroken
  · exact right
  · rcases left with _ | ⟨c, _ | ⟨d, left⟩⟩
    · exact absurd rfl nonempty
    · obtain ⟨rfl, rfl⟩ := List.cons.inj same
      exact absurd (List.cons_prefix_cons.mp starts).1 (by decide)
    · obtain ⟨rfl, tails⟩ := List.cons.inj same
      obtain ⟨rfl, _⟩ := List.cons.inj tails
      have half : crlf <:+: crlf ++ left := (List.prefix_append crlf left).isInfix
      exact absurd (half.trans ends.isInfix) unbroken

/-- A line starts with a break neither by itself nor with the break that ends it. -/
theorem not_crlf_prefix {line rest : List Char} (nonempty : line ≠ []) (unbroken : ¬crlf <:+: line) :
    ¬crlf <+: line ++ (crlf ++ rest) := by
  intro starts
  rcases line with _ | ⟨c, _ | ⟨d, line⟩⟩
  · exact nonempty rfl
  · have rest := (List.cons_prefix_cons.mp starts).2
    exact absurd (List.cons_prefix_cons.mp rest).1 (by decide)
  · obtain ⟨rfl, tails⟩ := List.cons_prefix_cons.mp starts
    obtain ⟨rfl, _⟩ := List.cons_prefix_cons.mp tails
    exact unbroken (List.prefix_append crlf line).isInfix

/-- Lines that are not empty leave no blank line up to the break after the last of them. -/
theorem not_blankLine (nonempty : ∀ line ∈ lines, line ≠ []) (unbroken : ∀ line ∈ lines, ¬crlf <:+: line) :
    ¬blankLine <:+: lines.flatMap (· ++ crlf) ++ ['\r'] := by
  induction lines with
  | nil =>
    intro inside
    exact absurd inside.length_le (by decide)
  | cons line lines ih =>
    have later := ih (fun l m => nonempty l (.tail line m)) fun l m => unbroken l (.tail line m)
    intro inside
    rw [List.flatMap_cons, List.append_assoc, List.append_assoc] at inside
    have broken := blankLine_after_line (unbroken line (.head lines)) inside
    rcases List.infix_cons_iff.mp broken with starts | inside
    · have rest := (List.cons_prefix_cons.mp (List.cons_prefix_cons.mp starts).2).2
      cases lines with
      | nil => exact absurd rest.length_le (by decide)
      | cons next lines =>
        rw [List.flatMap_cons, List.append_assoc, List.append_assoc] at rest
        have member : next ∈ line :: next :: lines := .tail line (.head lines)
        exact not_crlf_prefix (nonempty next member) (unbroken next member) rest
    · rcases List.infix_cons_iff.mp inside with starts | inside
      · exact absurd (List.cons_prefix_cons.mp starts).1 (by decide)
      · exact later inside

theorem intercalate_crlf (first : List Char) (lines : List (List Char)) :
    List.intercalate crlf (first :: lines) ++ crlf = (first :: lines).flatMap (· ++ crlf) := by
  induction lines generalizing first with
  | nil => simp [List.intercalate]
  | cons next lines ih =>
    have rest := ih next
    simp only [List.intercalate, List.intersperse, List.flatten_cons, List.append_assoc,
      List.flatMap_cons] at rest ⊢
    rw [rest]

/-- The headers of a part, without the blanks they may start with, end at the first blank line. -/
theorem cutAtFirst_headers {run rest : List Char} (nonempty : ∀ line ∈ lines, line ≠ [])
    (unbroken : ∀ line ∈ lines, ¬crlf <:+: line) (split : List.intercalate crlf lines = run ++ rest)
    (visible : rest ≠ []) (after : List Char) :
    cutAtFirst blankLine (rest ++ (blankLine ++ after)) = some (rest, after) := by
  apply cutAtFirst_of_dropLast (by decide)
  intro inside
  cases lines with
  | nil => exact visible (List.append_eq_nil_iff.mp split.symm).2
  | cons first lines =>
    have whole : run ++ (rest ++ blankLine.dropLast) =
        (first :: lines).flatMap (· ++ crlf) ++ ['\r'] := by
      rw [← intercalate_crlf, split]
      simp [blankLine, crlf]
    apply not_blankLine nonempty unbroken
    rw [← whole]
    exact inside.trans (List.suffix_append run _).isInfix

/-! ### The metadata -/

theorem blank_crlf : ∀ c ∈ crlf, isBlank c = true := by decide

theorem blank_blankLine : ∀ c ∈ blankLine, isBlank c = true := by decide

/-- What does not start with a brace has its metadata after a blank line. -/
theorem metadata?_of_other {c : Char} (other : c ≠ '{') (rest : List Char) :
    metadata? (c :: rest) =
      (cutAtFirst blankLine (c :: rest) <|> cutAtFirst ['\n', '\n'] (c :: rest)).map (·.2) := by
  unfold metadata?
  split
  · next same => exact absurd (List.cons.inj same).1 other
  · rfl

variable {left core right : List Char}

/-- Headers are shown from their first visible character on, and what follows them up to its last one. -/
theorem trim_headers {front run : List Char} {c : Char} (blankFront : ∀ c ∈ front, isBlank c = true)
    (blankRun : ∀ c ∈ run, isBlank c = true) (visible : isBlank c = false) (trimmed : IsTrimmed core)
    (blankRight : ∀ c ∈ right, isBlank c = true) (rest between : List Char) :
    trim (front ++ (run ++ c :: rest ++ (between ++ (core ++ right)))) = c :: (rest ++ (between ++ core)) := by
  have shown := (trimmed.behind visible (rest ++ between)).trim_append
    (List.forall_mem_append.mpr ⟨blankFront, blankRun⟩) blankRight
  simpa only [List.append_assoc, List.cons_append] using shown

/-- The metadata follows the headers, as far as it is not blank at its end. -/
theorem metadata?_headers {run rest : List Char} {c : Char} (nonempty : ∀ line ∈ lines, line ≠ [])
    (unbroken : ∀ line ∈ lines, ¬crlf <:+: line) (split : List.intercalate crlf lines = run ++ c :: rest)
    (blankRun : ∀ c ∈ run, isBlank c = true) (visible : isBlank c = false) (other : c ≠ '{')
    (trimmed : IsTrimmed core) (blankRight : ∀ c ∈ right, isBlank c = true) (left : List Char) :
    metadata? (trim (crlf ++ (List.intercalate crlf lines ++ (blankLine ++ (left ++ (core ++ right)))))) =
      some (left ++ core) := by
  have shown := trim_headers blank_crlf blankRun visible trimmed blankRight rest (blankLine ++ left)
  rw [← split, List.append_assoc, List.append_assoc, ← List.cons_append] at shown
  have cut := cutAtFirst_headers nonempty unbroken split (List.cons_ne_nil c rest) (left ++ core)
  rw [shown, List.cons_append, metadata?_of_other other, ← List.cons_append, cut]
  rfl

/-- Behind blanks alone the object is the whole part. -/
theorem metadata?_blank {more : List Char} (trimmed : IsTrimmed ('{' :: more))
    (blankLeft : ∀ c ∈ left, isBlank c = true) (blankRight : ∀ c ∈ right, isBlank c = true) :
    metadata? (trim (left ++ ('{' :: more ++ right))) = some ('{' :: more) := by
  rw [trimmed.trim_append blankLeft blankRight]
  rfl

/-- An object behind headers is what is left of its part. -/
theorem exists_metadata?_headers {more : List Char} (nonempty : ∀ line ∈ lines, line ≠ [])
    (unbroken : ∀ line ∈ lines, ¬crlf <:+: line)
    (braceless : ∀ c ∈ (trimStart (List.intercalate crlf lines)).head?, c ≠ '{')
    (trimmed : IsTrimmed ('{' :: more)) (blankLeft : ∀ c ∈ left, isBlank c = true)
    (blankRight : ∀ c ∈ right, isBlank c = true) :
    ∃ text, metadata? (trim (crlf ++ (List.intercalate crlf lines ++
      (blankLine ++ (left ++ ('{' :: more ++ right)))))) = some text ∧ trim text = '{' :: more := by
  have none : ∀ c ∈ ([] : List Char), isBlank c = true := fun _ m => by cases m
  obtain ⟨run, rest, split, blankRun, stops⟩ := exists_run isBlank (List.intercalate crlf lines)
  rcases rest with _ | ⟨c, rest⟩
  · refine ⟨'{' :: more, ?_, by simpa using trimmed.trim_append none none⟩
    rw [split, List.append_nil, ← List.append_assoc, ← List.append_assoc, ← List.append_assoc]
    apply metadata?_blank trimmed _ blankRight
    simp only [List.forall_mem_append]
    exact ⟨⟨⟨blank_crlf, blankRun⟩, blank_blankLine⟩, blankLeft⟩
  · have shown : trimStart (List.intercalate crlf lines) = c :: rest := by
      rw [trimStart, split]
      exact dropWhile_append_of_stops blankRun stops
    have other : c ≠ '{' := braceless c (by rw [shown]; rfl)
    refine ⟨left ++ '{' :: more, ?_, by simpa using trimmed.trim_append blankLeft none⟩
    exact metadata?_headers nonempty unbroken split blankRun (stops c rfl) other trimmed blankRight left

/-- The object that a part is written for is what is left of the part. -/
theorem IsPart.metadata? {inner : List Char} (written : IsPart boundary metadata part)
    (padded : Json.Padded ('{' :: (inner ++ ['}'])) metadata) :
    ∃ rest, Multipart.metadata? (trim part) = some rest ∧ trim rest = '{' :: (inner ++ ['}']) := by
  obtain ⟨left, right, gapLeft, gapRight, rfl⟩ := padded
  have trimmed : IsTrimmed ('{' :: (inner ++ ['}'])) := isTrimmed_of_marks inner (by decide) (by decide)
  have blankEnd := List.forall_mem_append.mpr ⟨gapRight.blank, blank_crlf⟩
  have none : ∀ c ∈ ([] : List Char), isBlank c = true := fun _ m => by cases m
  cases written with
  | bare =>
    refine ⟨_, ?_, by simpa using trimmed.trim_append none none⟩
    rw [List.append_assoc, List.append_assoc, ← List.append_assoc, ← List.append_assoc]
    apply metadata?_blank trimmed _ blankEnd
    simp only [List.forall_mem_append]
    exact ⟨⟨blank_crlf, blank_crlf⟩, gapLeft.blank⟩
  | @headed lines headers =>
    have found := exists_metadata?_headers headers.nonempty headers.unbroken headers.braceless trimmed
      gapLeft.blank blankEnd
    simpa only [blankLine, List.append_assoc] using found

/-- The name of an upload is told by the metadata of its first part. -/
theorem objectNameIn?_of_firstPart? {body : Bytes}
    (found : firstPart? (delimiter boundary) body = some (utf8 part)) :
    objectNameIn? boundary body = (metadata? (trim part)).bind nameTold? := by
  have decoded : Utf8.decode? (utf8 part) = some part := Utf8.decode?_utf8 part
  rw [objectNameIn?, found]
  simp only [bind, Option.bind_some, decoded]
  rfl

end RequestTrail.Multipart
