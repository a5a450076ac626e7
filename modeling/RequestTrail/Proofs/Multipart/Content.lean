import RequestTrail.Proofs.Multipart.Part
import RequestTrail.Trail

/-! What follows the second delimiter of a body is never looked at. Both delimiters are found in any start
of the body that holds two of them, and the name of an upload is read between them. -/
namespace RequestTrail.Multipart

open Text

variable {r : Record} {contentType : String} {boundary : List Char} {needle front : Bytes}

/-- The list stands in the other one twice, without overlap. -/
def StandsTwice (needle s : Bytes) : Prop :=
  ∃ before between after, s = before ++ (needle ++ (between ++ (needle ++ after)))

theorem StandsTwice.exists_cuts (nonempty : needle ≠ []) (twice : StandsTwice needle front) :
    ∃ before part rest after, cutAtFirst needle front = some (before, rest) ∧
      cutAtFirst needle rest = some (part, after) := by
  obtain ⟨start, between, last, rfl⟩ := twice
  obtain ⟨before, more, first⟩ := exists_cutAtFirst nonempty (List.suffix_append start needle).isInfix
  -- The first place is not behind the one that is known, so the other one is left whole.
  have cut := cutAtFirst_append_right first (between ++ (needle ++ last))
  rw [List.append_assoc] at cut
  have left : needle <:+: more ++ (between ++ (needle ++ last)) :=
    ⟨more ++ between, last, by simp only [List.append_assoc]⟩
  obtain ⟨part, after, second⟩ := exists_cutAtFirst nonempty left
  exact ⟨before, part, _, after, cut, second⟩

/-- The first part is the same in every body that goes on from the same start. -/
theorem firstPart?_append_of_twice (nonempty : needle ≠ []) (twice : StandsTwice needle front)
    (content : Bytes) : firstPart? needle (front ++ content) = firstPart? needle front := by
  obtain ⟨before, part, rest, after, first, second⟩ := twice.exists_cuts nonempty
  have first' := cutAtFirst_append_right first content
  have second' := cutAtFirst_append_right second content
  rw [firstPart?_eq, firstPart?_eq, first, first', Option.map_some, Option.map_some]
  dsimp only
  rw [second, second']
  rfl

theorem objectNameIn?_append_of_twice (twice : StandsTwice (delimiter boundary) front) (content : Bytes) :
    objectNameIn? boundary (front ++ content) = objectNameIn? boundary front := by
  rw [objectNameIn?, objectNameIn?, firstPart?_append_of_twice (delimiter_ne_nil boundary) twice]

/-- The name under a content type is the one that its boundary finds in the body. -/
theorem objectName?_of_boundary (typed : r.header? "content-type" = some contentType)
    (declared : boundary? contentType.toList = some boundary) :
    r.objectName? = if isRelated contentType.toList then objectNameIn? boundary r.body else none := by
  simp only [Record.objectName?, typed, declared, bind, Option.bind_some]

/-- Two uploads whose bodies go on differently behind the second delimiter have the same name and the
same line. -/
theorem canonical_eq_of_twice {body body' : Bytes} (typed : r.header? "content-type" = some contentType)
    (declared : boundary? contentType.toList = some boundary)
    (twice : StandsTwice (delimiter boundary) front) (starts : front <+: body) (starts' : front <+: body') :
    Record.objectName? { r with body := body } = Record.objectName? { r with body := body' } ∧
      Record.canonical { r with body := body } = Record.canonical { r with body := body' } := by
  obtain ⟨content, rfl⟩ := starts
  obtain ⟨content', rfl⟩ := starts'
  have named (content : Bytes) : Record.objectName? { r with body := front ++ content } =
      if isRelated contentType.toList then objectNameIn? boundary front else none := by
    rw [objectName?_of_boundary (r := { r with body := front ++ content }) typed declared,
      objectNameIn?_append_of_twice twice]
  have same : Record.objectName? { r with body := front ++ content } =
      Record.objectName? { r with body := front ++ content' } := by
    rw [named, named]
  refine ⟨same, ?_⟩
  rw [Record.canonical, Record.canonical, same]

/-- One content is cut short within a character, the other one tells another name. -/
theorem canonical_eq_of_twice_binary :
    let front := utf8 "--b\r\n\r\n\x7b\"name\":\"one\"\x7d\r\n--b".toList
    let upload : Record := ⟨"POST", "https://h/o", [("Content-Type", "multipart/related; boundary=b")], []⟩
    let body := front ++ [0xC3]
    let body' := front ++ utf8 "\r\n\r\n\x7b\"name\":\"two\"\x7d--b".toList
    Record.objectName? { upload with body := body } = some "one" ∧
      Record.objectName? { upload with body := body' } = some "one" ∧
      Record.canonical { upload with body := body } = Record.canonical { upload with body := body' } := by
  intro front upload body body'
  have typed : upload.header? "content-type" = some "multipart/related; boundary=b" := by decide +kernel
  have declared : boundary? "multipart/related; boundary=b".toList = some ['b'] := by decide +kernel
  have twice : StandsTwice (delimiter ['b']) front :=
    ⟨[], utf8 "\r\n\r\n\x7b\"name\":\"one\"\x7d\r\n".toList, [], by decide +kernel⟩
  obtain ⟨named, line⟩ :=
    canonical_eq_of_twice typed declared twice (List.prefix_append front _) (List.prefix_append front _)
  have one : Record.objectName? { upload with body := body } = some "one" := by decide +kernel
  exact ⟨one, named.symm.trans one, line⟩

end RequestTrail.Multipart
