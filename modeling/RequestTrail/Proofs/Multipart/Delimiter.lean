import RequestTrail.Proofs.Multipart.Content
import RequestTrail.Proofs.Multipart.Headers
import RequestTrail.Proofs.Multipart.RoundTrip

/-! Where a part ends. The delimiter counts in the middle of a line as well, so it ends the part within its
headers, which leaves no metadata, or within the object, which leaves the object open. Then no name is told. -/
namespace RequestTrail.Multipart

open Text

/-- What stands in front of the metadata of a part. -/
inductive IsHead : List Char → Prop where
  | bare : IsHead blankLine
  | headed {lines : List (List Char)} : IsHeaderLines lines →
      IsHead (crlf ++ (List.intercalate crlf lines ++ blankLine))

variable {r : Record} {contentType name : String} {boundary head metadata before after left right : List Char}

/-! ### The head -/

theorem IsHead.exists_init (form : IsHead head) : ∃ init, head = init ++ ['\n'] := by
  cases form with
  | bare => exact ⟨crlf ++ ['\r'], rfl⟩
  | @headed lines _ =>
    exact ⟨crlf ++ (List.intercalate crlf lines ++ (crlf ++ ['\r'])), by simp [blankLine, crlf]⟩

/-- A delimiter that starts in the head ends in it. -/
theorem IsHead.not_crosses (form : IsHead head) (whole : IsUnbroken boundary) (b : List Char) :
    ¬Crosses (dashed boundary) head b := by
  obtain ⟨init, rfl⟩ := form.exists_init
  apply not_crosses_of_last
  exact fun m => whole.dashed.2 ((List.dropLast_sublist _).subset m)

/-- Without a delimiter in it the head makes a part of whatever metadata. -/
theorem IsHead.isPart (form : IsHead head) (absent : ¬dashed boundary <:+: head) (metadata : List Char) :
    IsPart boundary metadata (head ++ (metadata ++ crlf)) := by
  cases form with
  | bare =>
    have written : IsPart boundary metadata _ := .bare
    simpa [blankLine] using written
  | @headed lines headers =>
    have inside : ¬dashed boundary <:+: List.intercalate crlf lines := by
      intro inside
      exact absent (inside.trans ⟨crlf, blankLine, by simp only [List.append_assoc]⟩)
    have block : IsHeaderBlock boundary lines :=
      ⟨headers.nonempty, headers.not_crlf, headers.braceless_intercalate blank_crlf, inside⟩
    have written : IsPart boundary metadata _ := .headed block
    simpa [blankLine] using written

/-- An object behind the head is what is left of the part, and so is the start of one. -/
theorem IsHead.exists_metadata? {more : List Char} (form : IsHead head) (trimmed : IsTrimmed ('{' :: more))
    (blankLeft : ∀ c ∈ left, isBlank c = true) (blankRight : ∀ c ∈ right, isBlank c = true) :
    ∃ text, metadata? (trim (head ++ (left ++ ('{' :: more ++ right)))) = some text ∧
      trim text = '{' :: more := by
  have none : ∀ c ∈ ([] : List Char), isBlank c = true := fun _ m => by cases m
  cases form with
  | bare =>
    refine ⟨'{' :: more, ?_, by simpa using trimmed.trim_append none none⟩
    rw [← List.append_assoc]
    exact metadata?_blank trimmed (List.forall_mem_append.mpr ⟨blank_blankLine, blankLeft⟩) blankRight
  | headed headers =>
    have found := exists_metadata?_headers headers.nonempty headers.not_crlf
      (headers.braceless_intercalate blank_crlf) trimmed blankLeft blankRight
    simpa only [List.append_assoc] using found

/-- A head that is cut at a delimiter shows no metadata. -/
theorem IsHead.metadata?_of_cut (form : IsHead head)
    (cut : cutAtFirst (dashed boundary) head = some (before, after)) : metadata? (trim before) = none := by
  obtain ⟨_, same, _⟩ := cutAtFirst_eq_some_iff.mp cut
  cases form with
  | bare =>
    have m : '-' ∈ blankLine := by simp [same, dashed]
    exact absurd m (by decide)
  | @headed lines headers =>
    rw [dashed, cutAtFirst_append_of_not_mem (by decide : '-' ∉ crlf)] at cut
    obtain ⟨⟨start, rest⟩, found, split⟩ := Option.map_eq_some_iff.mp cut
    obtain ⟨rfl, rfl⟩ := Prod.mk.inj split
    obtain ⟨_, same, _⟩ := cutAtFirst_eq_some_iff.mp found
    -- The delimiter starts in one of the lines, so what is left are the lines up to there.
    obtain ⟨more, block, _⟩ := append_cons_eq_append (by decide : '-' ∉ blankLine) same.symm
    have inside : start <+: List.intercalate crlf lines := ⟨_, block.symm⟩
    rw [trim_append_left blank_crlf]
    apply metadata?_of_not_spaced
    · intro c m
      apply headers.braceless_intercalate blank_crlf c
      rw [head?_trimStart] at m ⊢
      rw [block, List.find?_append, m]
      rfl
    · exact fun h => headers.not_blankLine (h.trans inside.isInfix)
    · exact fun h => headers.not_doubled .crlf (h.trans (inside.trans (List.prefix_append _ _)).isInfix)

/-! ### The name -/

theorem objectNameIn?_of_head (form : IsHead head) (inside : dashed boundary <:+: head)
    (metadata : List Char) (content : Bytes) : objectNameIn? boundary
      (delimiter boundary ++ (utf8 (head ++ (metadata ++ crlf)) ++ (delimiter boundary ++ content))) = none := by
  obtain ⟨before, after, cut⟩ := exists_cutAtFirst (List.cons_ne_nil _ _) inside
  have found := cutAtFirst_append_right cut (metadata ++ crlf ++ dashed boundary)
  rw [← List.append_assoc] at found
  rw [objectNameIn?_of_firstPart? (firstPart?_written found content), form.metadata?_of_cut cut]
  rfl

theorem not_mem_of_isGap (gap : Json.IsGap left) : '-' ∉ left :=
  fun m => absurd (gap.blank '-' m) (by decide)

/-- Up to a delimiter an object is open. -/
theorem not_isClosed_of_cut {inner : List Char} (enclosed : Json.IsEnclosed (utf8 ('{' :: inner)))
    (gap : Json.IsGap right)
    (cut : cutAtFirst (dashed boundary) ('{' :: inner ++ right) = some (before, after)) :
    ∃ more, before = '{' :: more ∧ ¬Json.IsClosed (utf8 before) := by
  obtain ⟨_, same, _⟩ := cutAtFirst_eq_some_iff.mp cut
  obtain ⟨rest, split, _⟩ := append_cons_eq_append (not_mem_of_isGap gap) same.symm
  rw [split, utf8_append] at enclosed
  cases before with
  | nil => exact absurd (List.cons.inj split).1 (by decide)
  | cons c more =>
    obtain rfl : '{' = c := (List.cons.inj split).1
    refine ⟨more, rfl, ?_⟩
    apply enclosed.not_isClosed_left
    · rw [Utf8.utf8_cons_of_ascii (by decide)]
      exact List.cons_ne_nil _ _
    · rw [Utf8.utf8_cons_of_ascii (by decide)]
      exact List.cons_ne_nil _ _

/-- An object that is left open behind the head tells nothing. -/
theorem objectNameIn?_of_not_isClosed {more : List Char} {body : Bytes} (form : IsHead head)
    (gap : Json.IsGap left) (unclosed : ¬Json.IsClosed (utf8 ('{' :: more)))
    (first : firstPart? (delimiter boundary) body = some (utf8 (head ++ (left ++ '{' :: more)))) :
    objectNameIn? boundary body = none := by
  have none : ∀ c ∈ ([] : List Char), isBlank c = true := fun _ m => by cases m
  obtain ⟨core, right, rfl, trimmed, blankRight⟩ := exists_isTrimmed_cons (by decide : isBlank '{' = false) more
  obtain ⟨text, shown, same⟩ := form.exists_metadata? trimmed gap.blank blankRight
  have told : nameTold? text = nameTold? ('{' :: (core ++ right)) :=
    nameTold?_congr (same.trans (trimmed.trim_append none blankRight).symm)
  rw [objectNameIn?_of_firstPart? first, ← List.cons_append, shown, Option.bind_some, told]
  exact nameTold?_of_not_isClosed unclosed

/-- A delimiter in the object leaves it open. -/
theorem objectNameIn?_of_metadata (form : IsHead head) (whole : IsUnbroken boundary)
    (absent : ¬dashed boundary <:+: head) (tells : Json.Tells metadata "name" name)
    (inside : dashed boundary <:+: metadata) (content : Bytes) : objectNameIn? boundary
      (delimiter boundary ++ (utf8 (head ++ (metadata ++ crlf)) ++ (delimiter boundary ++ content))) = none := by
  obtain ⟨object, members, _, _, _, ⟨left, right, gapLeft, gapRight, rfl⟩, isObject, _⟩ := tells
  have enclosed : Json.IsEnclosed (utf8 object) := isObject.isEnclosed
  have starts : ∃ inner, object = '{' :: inner := by
    obtain ⟨inner, rfl, _⟩ := isObject
    exact ⟨_, rfl⟩
  obtain ⟨inner, rfl⟩ := starts
  have later := infix_append_of_not_mem (not_mem_of_isGap gapLeft) inside
  obtain ⟨start, after, cut⟩ := exists_cutAtFirst (List.cons_ne_nil _ _) later
  obtain ⟨more, rfl, unclosed⟩ := not_isClosed_of_cut enclosed gapRight cut
  -- The head and the gap are passed, and the part ends within the object.
  have rest := cutAtFirst_append_right cut (crlf ++ dashed boundary)
  have behind := (cutAtFirst_append_of_not_mem (not_mem_of_isGap gapLeft)).trans (congrArg (Option.map _) rest)
  have found := (cutAtFirst_append_left absent (form.not_crosses whole _)).trans (congrArg (Option.map _) behind)
  apply objectNameIn?_of_not_isClosed form gapLeft unclosed
  apply firstPart?_written
  simpa only [List.append_assoc, Option.map_some] using found

/-- The metadata of an upload tells its name exactly when the delimiter stands nowhere in the first part,
at the start of a line or within one. -/
theorem objectName?_eq_ite {preamble content : Bytes} (typed : r.header? "content-type" = some contentType)
    (related : isRelated contentType.toList = true) (declared : boundary? contentType.toList = some boundary)
    (whole : IsUnbroken boundary) (opening : IsPreamble boundary preamble) (written : IsHead head)
    (tells : Json.Tells metadata "name" name)
    (body : r.body = preamble ++
      (delimiter boundary ++ (utf8 (head ++ (metadata ++ crlf)) ++ (delimiter boundary ++ content)))) :
    r.objectName? = if dashed boundary <:+: head ++ metadata then none else some name := by
  rw [objectName?_of_boundary typed declared, related, if_pos rfl, body, opening.objectNameIn? whole]
  by_cases inside : dashed boundary <:+: head ++ metadata
  · rw [if_pos inside]
    by_cases early : dashed boundary <:+: head
    · exact objectNameIn?_of_head written early metadata content
    rcases infix_append_iff.mp inside with here | later | across
    · exact absurd here early
    · exact objectNameIn?_of_metadata written whole early tells later content
    · exact absurd across (written.not_crosses whole metadata)
  · have absentHead : ¬dashed boundary <:+: head := fun h => inside (h.trans (List.prefix_append _ _).isInfix)
    have absent : ¬dashed boundary <:+: metadata := fun h => inside (h.trans (List.suffix_append _ _).isInfix)
    rw [if_neg inside]
    exact objectNameIn?_written whole tells absent (written.isPart absentHead metadata) content

def namedBoundary : List Char := "abc".toList

def namedLines : List (List Char) := ["Content-Type: application/json".toList]

def namedMetadata (name : String) : List Char :=
  '{' :: (Json.quote "name".toList ++ ':' :: Json.quote name.toList ++ ['}'])

/-- The parts of an upload of an object with a name, without the delimiters. -/
def namedParts (name : String) : List (List Char) :=
  [crlf ++ (List.intercalate crlf namedLines ++ blankLine) ++ namedMetadata name, blankLine ++ "content".toList]

def namedUpload (name : String) : Record where
  method := "POST"
  uri := "https://h/upload/b/x/o?uploadType=multipart"
  headers := [("Content-Type", "multipart/related; boundary=abc")]
  body := utf8 ((namedParts name).flatMap (fun part => dashed namedBoundary ++ (part ++ crlf)) ++
    (dashed namedBoundary ++ "--".toList))

/-- One name holds all of the delimiter but its last character, the other one all of it. -/
theorem objectName?_eq_ite_named :
    (namedUpload "dir/--ab").objectName? = some "dir/--ab" ∧ (namedUpload "dir/--abc").objectName? = none := by
  let head := crlf ++ (List.intercalate crlf namedLines ++ blankLine)
  let content := utf8 (blankLine ++ "content".toList ++ crlf ++ dashed namedBoundary ++ "--".toList)
  have headers : IsHeaderLines namedLines := ⟨by decide, by decide, by decide +kernel⟩
  have typed (name : String) :
      (namedUpload name).header? "content-type" = some "multipart/related; boundary=abc" := rfl
  have declared : boundary? "multipart/related; boundary=abc".toList = some namedBoundary := by decide +kernel
  have body (name : String) : (namedUpload name).body = [] ++ (delimiter namedBoundary ++
      (utf8 (head ++ (namedMetadata name ++ crlf)) ++ (delimiter namedBoundary ++ content))) := by
    change utf8 _ = utf8 (dashed namedBoundary) ++ (_ ++ (utf8 (dashed namedBoundary) ++ _))
    simp only [content, ← utf8_append]
    simp [namedParts, head]
  have named (name : String) (plain : ∀ c ∈ name.toList, c ≠ '"' ∧ c ≠ '\\' ∧ 0x20 ≤ c.toNat) :
      (namedUpload name).objectName? =
        if dashed namedBoundary <:+: head ++ namedMetadata name then none else some name :=
    objectName?_eq_ite (typed name) (by decide +kernel) declared (by decide) (.nil _) (.headed headers)
      (Json.tells_of_plain (by decide) plain) (body name)
  constructor
  · rw [named "dir/--ab" (by decide)]
    exact if_neg (by decide +kernel)
  · rw [named "dir/--abc" (by decide)]
    exact if_pos (by decide +kernel)

/-- No line of a part starts with the delimiter, and the name is lost. -/
theorem objectName?_named_eq_none :
    Json.Tells (namedMetadata "dir/--abc") "name" "dir/--abc" ∧
      (∀ part ∈ namedParts "dir/--abc", ¬crlf ++ dashed namedBoundary <:+: part) ∧
      (namedUpload "dir/--abc").objectName? = none :=
  ⟨Json.tells_of_plain (by decide) (by decide), by decide +kernel, by decide +kernel⟩

end RequestTrail.Multipart
