import Mathlib.Data.List.Infix
import RequestTrail.Proofs.Multipart.Content
import RequestTrail.Proofs.Multipart.Headers

/-! The same part with its lines ended in two ways. A blank line of two carriage returns is looked for in all
of the part first, so one that stands in the metadata is taken for the end of headers that have none. What
follows it closes more than it opens, and tells nothing. -/
namespace RequestTrail.Multipart

open Text

/-- A part with headers whose lines are all ended alike. The metadata has breaks of its own. -/
def headedPart (ending : List Char) (lines : List (List Char)) (metadata last : List Char) : List Char :=
  ending ++ (List.intercalate ending lines ++ (ending ++ ending ++ (metadata ++ last)))

variable {r r' : Record} {contentType : String} {boundary metadata ending last left core right : List Char}
  {lines : List (List Char)}

/-! ### The part -/

theorem not_infix_headedPart (form : IsBreak ending) (whole : IsUnbroken boundary) (closing : IsBreak last)
    (absentLines : ∀ line ∈ lines, ¬dashed boundary <:+: line) (absent : ¬dashed boundary <:+: metadata) :
    ¬dashed boundary <:+: headedPart ending lines metadata last := by
  have nowhere : ¬dashed boundary <:+: [] := fun inside => List.cons_ne_nil _ _ (List.infix_nil.mp inside)
  have inLines := form.not_infix_intercalate whole.dashed (List.cons_ne_nil _ _) absentLines
  have inLast : ¬dashed boundary <:+: metadata ++ last := by
    simpa using closing.not_infix_append whole.dashed absent nowhere
  have inRest := form.not_infix_append whole.dashed inLines (form.not_infix_append whole.dashed nowhere inLast)
  simpa [headedPart] using form.not_infix_append whole.dashed nowhere inRest

theorem firstPart?_headedPart (form : IsBreak ending) (whole : IsUnbroken boundary) (closing : IsBreak last)
    (absentLines : ∀ line ∈ lines, ¬dashed boundary <:+: line) (absent : ¬dashed boundary <:+: metadata)
    (content : Bytes) : firstPart? (delimiter boundary) (delimiter boundary ++
      (utf8 (headedPart ending lines metadata last) ++ (delimiter boundary ++ content))) =
        some (utf8 (headedPart ending lines metadata last)) := by
  have nowhere := not_infix_headedPart form whole closing absentLines absent
  obtain ⟨front, rfl, _⟩ := closing.exists_front
  have ends : headedPart ending lines metadata (front ++ ['\n']) =
      ending ++ (List.intercalate ending lines ++ (ending ++ ending ++ (metadata ++ front))) ++ ['\n'] := by
    simp [headedPart]
  rw [ends] at nowhere ⊢
  exact firstPart?_of_absent whole nowhere content

/-! ### The metadata -/

/-- Lines that show nothing leave the metadata alone. -/
theorem trim_headedPart (form : IsBreak ending) (closing : IsBreak last) (hidden : trimStart lines.flatten = [])
    (trimmed : IsTrimmed core) (blankLeft : ∀ c ∈ left, isBlank c = true)
    (blankRight : ∀ c ∈ right, isBlank c = true) :
    trim (headedPart ending lines (left ++ (core ++ right)) last) = core := by
  have front : ∀ c ∈ ending ++ (List.intercalate ending lines ++ (ending ++ ending ++ left)),
      isBlank c = true := by
    simp only [List.forall_mem_append]
    exact ⟨form.blank, blank_intercalate form.blank hidden, ⟨form.blank, form.blank⟩, blankLeft⟩
  have shown := trimmed.trim_append front (List.forall_mem_append.mpr ⟨blankRight, closing.blank⟩)
  simpa only [headedPart, List.append_assoc] using shown

theorem metadata?_headedPart_crlf (headers : IsHeaderLines lines) (shown : trimStart lines.flatten ≠ [])
    (closing : IsBreak last) (trimmed : IsTrimmed core) (blankRight : ∀ c ∈ right, isBlank c = true)
    (left : List Char) :
    metadata? (trim (headedPart crlf lines (left ++ (core ++ right)) last)) = some (left ++ core) := by
  obtain ⟨run, c, rest, split, blankRun, visible, other⟩ := headers.exists_shown shown blank_crlf
  have found := metadata?_headers headers.nonempty headers.not_crlf split blankRun visible other trimmed
    (List.forall_mem_append.mpr ⟨blankRight, closing.blank⟩) left
  simpa only [headedPart, blankLine, List.append_assoc] using found

/-- Without a carriage return in front of it, the metadata is cut at a blank line of its own. -/
theorem metadata?_headedPart_lf (headers : IsHeaderLines lines) (shown : trimStart lines.flatten ≠ [])
    (closing : IsBreak last) (trimmed : IsTrimmed core) (blankRight : ∀ c ∈ right, isBlank c = true)
    (left : List Char) :
    metadata? (trim (headedPart ['\n'] lines (left ++ (core ++ right)) last)) =
      some (((cutAtFirst blankLine (left ++ core)).map (·.2)).getD (left ++ core)) := by
  obtain ⟨run, c, rest, split, blankRun, visible, other⟩ := headers.exists_shown shown IsBreak.lf.blank
  have inLines : c :: rest <:+ List.intercalate ['\n'] lines := ⟨run, split.symm⟩
  have free : '\r' ∉ c :: rest ++ ['\n', '\n'] := by
    intro m
    rcases List.mem_append.mp m with m | m
    · exact headers.not_mem_intercalate (inLines.subset m)
    · exact absurd m (by decide)
  have clean : ¬['\n', '\n'] <:+: c :: rest ++ ['\n'] := by
    intro inside
    apply headers.not_doubled .lf
    rw [split, List.append_assoc]
    exact inside.trans (List.suffix_append run _).isInfix
  have whole := trim_headers IsBreak.lf.blank blankRun visible trimmed
    (List.forall_mem_append.mpr ⟨blankRight, closing.blank⟩) rest (['\n', '\n'] ++ left)
  have whole : trim (headedPart ['\n'] lines (left ++ (core ++ right)) last) =
      c :: (rest ++ (['\n', '\n'] ++ (left ++ core))) := by
    simpa [headedPart, split] using whole
  have first : cutAtFirst blankLine (c :: (rest ++ (['\n', '\n'] ++ (left ++ core)))) =
      (cutAtFirst blankLine (left ++ core)).map fun cut => (c :: rest ++ ['\n', '\n'] ++ cut.1, cut.2) := by
    have passed : cutAtFirst blankLine (c :: rest ++ ['\n', '\n'] ++ (left ++ core)) =
        (cutAtFirst blankLine (left ++ core)).map fun cut => (c :: rest ++ ['\n', '\n'] ++ cut.1, cut.2) :=
      cutAtFirst_append_of_not_mem free
    simpa using passed
  have second : cutAtFirst ['\n', '\n'] (c :: (rest ++ (['\n', '\n'] ++ (left ++ core)))) =
      some (c :: rest, left ++ core) := cutAtFirst_of_dropLast (by decide) clean (left ++ core)
  rw [whole, metadata?_of_other other, first, second]
  cases cutAtFirst blankLine (left ++ core) with
  | none => rfl
  | some cut => rfl

/-! ### The name -/

/-- What follows a blank line in a JSON text closes more than it opens. -/
theorem not_isClosed_of_blankLine {before after : List Char}
    (form : Json.IsJson (before ++ (blankLine ++ after))) : ¬Json.IsClosed (utf8 after) := by
  obtain ⟨depth, form⟩ := form
  rcases form.cases with atom | ⟨enclosed, _⟩
  · have printed := atom.printed '\r' (by simp [blankLine, crlf])
    exact absurd printed (by decide)
  · have bytes : utf8 (before ++ (blankLine ++ after)) =
        utf8 before ++ [0x0D, 0x0A, 0x0D] ++ 0x0A :: utf8 after := by
      rw [utf8_append, List.append_assoc]
      rfl
    rw [bytes] at enclosed
    exact enclosed.not_isClosed_right (by simp) (by decide)

/-- A blank line in the gap before a JSON text changes nothing, and one in the text leaves too little. -/
theorem nameTold?_cut (gap : Json.IsGap left) (form : Json.IsJson core) :
    nameTold? (((cutAtFirst blankLine (left ++ core)).map (·.2)).getD (left ++ core)) =
      if blankLine <:+: core ∧ ¬blankLine <:+: left then none else nameTold? core := by
  have told {front : List Char} (blank : ∀ c ∈ front, isBlank c = true) :
      nameTold? (front ++ core) = nameTold? core := nameTold?_congr (trim_append_left blank core)
  have nonempty : blankLine ≠ [] := by decide
  by_cases early : blankLine <:+: left
  · obtain ⟨before, after, cut⟩ := exists_cutAtFirst nonempty early
    obtain ⟨_, rfl, _⟩ := cutAtFirst_eq_some_iff.mp cut
    rw [cutAtFirst_append_right cut core, if_neg fun within => within.2 early]
    exact told fun c m => gap.blank c (by simp [m])
  · have apart : ¬Crosses blankLine left core := by
      obtain ⟨depth, form⟩ := form
      obtain ⟨c, rest, rfl⟩ := List.exists_cons_of_ne_nil form.isTrimmed.nonempty
      apply not_crosses_of_head
      intro m
      have blank := blank_blankLine c (List.mem_of_mem_tail m)
      rw [form.isTrimmed.first c rfl] at blank
      cases blank
    rw [cutAtFirst_append_left early apart]
    by_cases inside : blankLine <:+: core
    · obtain ⟨before, after, cut⟩ := exists_cutAtFirst nonempty inside
      obtain ⟨_, same, _⟩ := cutAtFirst_eq_some_iff.mp cut
      rw [cut, if_pos ⟨inside, early⟩]
      exact nameTold?_of_not_isClosed (not_isClosed_of_blankLine (same ▸ form))
    · rw [cutAtFirst_of_absent inside, if_neg fun within => inside within.1]
      exact told gap.blank

theorem objectNameIn?_lf_eq_ite {last' : List Char} (whole : IsUnbroken boundary) (headers : IsHeaderLines lines)
    (absentLines : ∀ line ∈ lines, ¬dashed boundary <:+: line) (gapLeft : Json.IsGap left)
    (form : Json.IsJson core) (gapRight : Json.IsGap right)
    (absent : ¬dashed boundary <:+: left ++ (core ++ right)) (closing : IsBreak last) (closing' : IsBreak last')
    (content content' : Bytes) :
    objectNameIn? boundary (delimiter boundary ++
        (utf8 (headedPart ['\n'] lines (left ++ (core ++ right)) last') ++ (delimiter boundary ++ content'))) =
      if trimStart lines.flatten ≠ [] ∧ blankLine <:+: core ∧ ¬blankLine <:+: left then none
      else objectNameIn? boundary (delimiter boundary ++
        (utf8 (headedPart crlf lines (left ++ (core ++ right)) last) ++ (delimiter boundary ++ content))) := by
  have trimmed : IsTrimmed core := by
    obtain ⟨depth, form⟩ := form
    exact form.isTrimmed
  rw [objectNameIn?_of_firstPart? (firstPart?_headedPart .lf whole closing' absentLines absent content'),
    objectNameIn?_of_firstPart? (firstPart?_headedPart .crlf whole closing absentLines absent content)]
  by_cases hidden : trimStart lines.flatten = []
  · rw [if_neg fun within => within.1 hidden,
      trim_headedPart .crlf closing hidden trimmed gapLeft.blank gapRight.blank,
      trim_headedPart .lf closing' hidden trimmed gapLeft.blank gapRight.blank]
  · rw [metadata?_headedPart_crlf headers hidden closing trimmed gapRight.blank,
      metadata?_headedPart_lf headers hidden closing' trimmed gapRight.blank, Option.bind_some, Option.bind_some,
      nameTold?_cut gapLeft form, nameTold?_congr (trim_append_left gapLeft.blank core)]
    by_cases within : blankLine <:+: core ∧ ¬blankLine <:+: left
    · rw [if_pos within, if_pos ⟨hidden, within⟩]
    · rw [if_neg within, if_neg fun all => within all.2]

/-- The name that is read where the lines are ended without carriage returns, from the one that is read where
they are ended with them. It is lost at a blank line with carriage returns in the metadata, unless one stands
in front of the text already, or the headers show nothing. -/
theorem objectName?_lf_eq_ite {last' : List Char} {preamble content content' : Bytes}
    (typed : r.header? "content-type" = some contentType) (typed' : r'.header? "content-type" = some contentType)
    (declared : boundary? contentType.toList = some boundary) (whole : IsUnbroken boundary)
    (opening : IsPreamble boundary preamble) (headers : IsHeaderLines lines)
    (absentLines : ∀ line ∈ lines, ¬dashed boundary <:+: line) (gapLeft : Json.IsGap left)
    (form : Json.IsJson core) (gapRight : Json.IsGap right)
    (absent : ¬dashed boundary <:+: left ++ (core ++ right)) (closing : IsBreak last) (closing' : IsBreak last')
    (body : r.body = preamble ++ (delimiter boundary ++
      (utf8 (headedPart crlf lines (left ++ (core ++ right)) last) ++ (delimiter boundary ++ content))))
    (body' : r'.body = preamble ++ (delimiter boundary ++
      (utf8 (headedPart ['\n'] lines (left ++ (core ++ right)) last') ++ (delimiter boundary ++ content')))) :
    r'.objectName? =
      if trimStart lines.flatten ≠ [] ∧ blankLine <:+: core ∧ ¬blankLine <:+: left then none
      else r.objectName? := by
  rw [objectName?_of_boundary typed declared, objectName?_of_boundary typed' declared, body, body',
    opening.objectNameIn? whole, opening.objectNameIn? whole,
    objectNameIn?_lf_eq_ite whole headers absentLines gapLeft form gapRight absent closing closing'
      content content']
  cases isRelated contentType.toList with
  | true => rfl
  | false => exact (ite_self none).symm

def spacedBoundary : List Char := "abc".toList

def spacedLines : List (List Char) := ["Content-Type: application/json".toList]

/-- An object with a blank line in it. -/
def spacedObject : List Char :=
  '{' :: (blankLine ++ (Json.quote "name".toList ++ ':' :: Json.quote "obj".toList) ++ ['}'])

/-- The object behind a gap and headers whose lines are ended in one way. -/
def spacedUpload (ending gap : List Char) : Record where
  method := "POST"
  uri := "https://h/upload/b/x/o?uploadType=multipart"
  headers := [("Content-Type", "multipart/related; boundary=abc")]
  body := delimiter spacedBoundary ++ (utf8 (headedPart ending spacedLines (gap ++ (spacedObject ++ [])) crlf) ++
    (delimiter spacedBoundary ++ utf8 "--".toList))

theorem isJson_spacedObject : Json.IsJson spacedObject := by
  have key : Json.IsWritten "name".toList := (Json.spells_of_plain (by decide)).isWritten
  have value : Json.IsWritten "obj".toList := (Json.spells_of_plain (by decide)).isWritten
  have entry : Json.IsEntry (Json.IsForm 0) ("name".toList, Json.quote "obj".toList)
      (blankLine ++ (Json.quote "name".toList ++ ':' :: Json.quote "obj".toList)) :=
    ⟨blankLine, [], _, by decide, by decide, key, .string value, ⟨[], [], by decide, by decide, rfl⟩, rfl⟩
  exact ⟨1, .inr (.inr ⟨_, _, rfl, .inr (.last entry)⟩)⟩

/-- The blank line in the object counts, unless there is one in front of the object. -/
theorem objectName?_lf_eq_ite_spaced :
    (spacedUpload ['\n'] []).objectName? = none ∧
      (spacedUpload ['\n'] blankLine).objectName? = (spacedUpload crlf blankLine).objectName? := by
  have headers : IsHeaderLines spacedLines := ⟨by decide, by decide, by decide +kernel⟩
  have declared : boundary? "multipart/related; boundary=abc".toList = some spacedBoundary := by decide +kernel
  have typed (ending gap : List Char) :
      (spacedUpload ending gap).header? "content-type" = some "multipart/related; boundary=abc" := rfl
  have named (gap : List Char) (form : Json.IsGap gap)
      (absent : ¬dashed spacedBoundary <:+: gap ++ (spacedObject ++ [])) :=
    objectName?_lf_eq_ite (typed crlf gap) (typed ['\n'] gap) declared (by decide) (.nil _) headers
      (by decide +kernel) form isJson_spacedObject (by decide) absent .crlf .crlf rfl rfl
  constructor
  · rw [named [] (by decide) (by decide +kernel)]
    exact if_pos (by decide +kernel)
  · rw [named blankLine (by decide) (by decide +kernel)]
    exact if_neg (by decide +kernel)

/-- One name is told by the same metadata behind the same headers, or none. -/
theorem objectName?_spaced_ne :
    Json.IsJson spacedObject ∧ IsHeaderLines spacedLines ∧ ¬dashed spacedBoundary <:+: spacedObject ∧
      (spacedUpload crlf []).objectName? = some "obj" ∧ (spacedUpload ['\n'] []).objectName? = none :=
  ⟨isJson_spacedObject, ⟨by decide, by decide, by decide +kernel⟩, by decide +kernel, by decide +kernel,
    by decide +kernel⟩

end RequestTrail.Multipart
