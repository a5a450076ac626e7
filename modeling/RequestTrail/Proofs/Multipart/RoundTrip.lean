import Mathlib.Data.List.Infix
import RequestTrail.Proofs.Json.Complete
import RequestTrail.Proofs.Multipart.Part

/-! The name in the metadata of an upload is read back. The content type declares the boundary, the
delimiters cut out the first part, its headers end at a blank line, and what follows is an object with
the name. The content may be any bytes. -/
namespace RequestTrail.Multipart

open Text

variable {r : Record} {boundary metadata part : List Char} {name value : String}

/-- The first header under a name, in any case. -/
def FirstHeader (r : Record) (name value : String) : Prop :=
  ∃ before field after, r.headers = before ++ (field, value) :: after ∧
    sameName field.toList name.toList = true ∧
    ∀ h ∈ before, sameName h.1.toList name.toList = false

theorem header?_of_firstHeader (first : FirstHeader r name value) : r.header? name = some value := by
  obtain ⟨before, field, after, headers, named, others⟩ := first
  have passed : before.find? (fun h => sameName h.1.toList name.toList) = none :=
    List.find?_eq_none.mpr fun h m => by simp [others h m]
  have found : ((field, value) :: after).find? (fun h => sameName h.1.toList name.toList) =
      some (field, value) := List.find?_cons_of_pos named
  rw [Record.header?, headers, List.find?_append, passed, Option.none_or, found]
  rfl

/-- The name that a text of metadata tells is found in every part that is written for it. -/
theorem objectNameIn?_written (whole : IsUnbroken boundary) (tells : Json.Tells metadata "name" name)
    (absent : ¬dashed boundary <:+: metadata) (written : IsPart boundary metadata part) (content : Bytes) :
    objectNameIn? boundary
      (delimiter boundary ++ (utf8 part ++ (delimiter boundary ++ content))) = some name := by
  obtain ⟨object, members, before, after, spelling, padded, isObject, split, spelled, last⟩ := tells
  obtain ⟨inner, rfl, _⟩ := id isObject
  obtain ⟨rest, found, trimmed⟩ := written.metadata? padded
  obtain ⟨v, parsed, named⟩ := isObject.member? split spelled last
  have told : nameTold? rest = some name := by
    rw [nameTold?, trimmed, parsed]
    simp only [Except.toOption, bind, Option.bind_some, named, Json.Value.string?, String.ofList_toList]
  rw [objectNameIn?_of_firstPart? (written.firstPart? whole absent content), found, Option.bind_some, told]

/-- An upload whose first content type declares the boundary has the name that its metadata tells. -/
theorem objectName?_written {contentType : String} {content : Bytes} (form : IsBoundary boundary)
    (header : FirstHeader r "content-type" contentType) (declared : Declares boundary contentType.toList)
    (tells : Json.Tells metadata "name" name) (absent : ¬dashed boundary <:+: metadata)
    (written : IsPart boundary metadata part)
    (body : r.body = delimiter boundary ++ (utf8 part ++ (delimiter boundary ++ content))) :
    r.objectName? = some name := by
  have related : isRelated contentType.toList = true := isRelated_of_declares declared
  have found : boundary? contentType.toList = some boundary := boundary?_of_declares form declared
  have inBody : objectNameIn? boundary r.body = some name := by
    rw [body]
    exact objectNameIn?_written form.isUnbroken tells absent written content
  rw [Record.objectName?, header?_of_firstHeader header]
  simp only [bind, Option.bind_some, related, found, inBody, if_true]

/-- Metadata with two names. The key of the last one is escaped, and its value is written with units. -/
def sampleMetadata : List Char :=
  (" \x7b\"name\":\"old\", \"size\" : -1.5," ++
    "\"n\\u0061me\":\"\\uD83D\\uDE00/\\u0062\" ,\"tags\":[[]]\x7d\n").toList

theorem tells_sampleMetadata : Json.Tells sampleMetadata "name" "😀/b" := by
  have gap : Json.IsGap [] := by decide
  have space : Json.IsGap [' '] := by decide
  have key : Json.Spells "n\\u0061me".toList "name".toList := by
    have unit : Json.IsUnit "0061".toList 'a'.toNat := ⟨rfl, by decide⟩
    exact .plain (by decide) (by decide) (by decide) (.unit unit (Json.spells_of_plain (by decide)))
  have spelled : Json.Spells "\\uD83D\\uDE00/\\u0062".toList "😀/b".toList := by
    have high : Json.IsUnit "D83D".toList (0xD800 + ('😀'.toNat - 0x10000) / 0x400) := ⟨rfl, by decide⟩
    have low : Json.IsUnit "DE00".toList (0xDC00 + ('😀'.toNat - 0x10000) % 0x400) := ⟨rfl, by decide⟩
    have unit : Json.IsUnit "0062".toList 'b'.toNat := ⟨rfl, by decide⟩
    exact .pair (by decide) high low (.plain (by decide) (by decide) (by decide) (.unit unit .nil))
  have number : Json.IsNumber "-1.5".toList :=
    ⟨['-'], ['1'], ".5".toList, [], .inr rfl, ⟨⟨by decide, by decide⟩, by decide⟩,
      .inr ⟨['5'], ⟨by decide, by decide⟩, rfl⟩, .inl rfl, rfl⟩
  have inRange : Json.InRange "-1.5".toList := by
    intro failed
    cases failed
  have empty : Json.IsValue 125 "[]".toList := .inr (.inl ⟨[], [], rfl, .inl ⟨rfl, gap⟩⟩)
  have nested : Json.IsValue 126 "[[]]".toList :=
    .inr (.inl ⟨["[]".toList], "[]".toList, rfl, .inr (.last ⟨empty, [], [], gap, gap, rfl⟩)⟩)
  have old : Json.Spells "old".toList "old".toList := Json.spells_of_plain (by decide)
  let member := Json.IsMember (Json.IsValue 126)
  have first : member ("name", Json.quote "old".toList) "\"name\":\"old\"".toList :=
    ⟨[], [], "name".toList, _, gap, gap, Json.spells_of_plain (by decide), .inl (.string old),
      ⟨[], [], gap, gap, rfl⟩, rfl⟩
  have second : member ("size", "-1.5".toList) " \"size\" : -1.5".toList :=
    ⟨[' '], [' '], "size".toList, _, space, space, Json.spells_of_plain (by decide),
      .inl (.number number inRange), ⟨[' '], [], space, gap, rfl⟩, rfl⟩
  have third : member ("name", Json.quote "\\uD83D\\uDE00/\\u0062".toList)
      "\"n\\u0061me\":\"\\uD83D\\uDE00/\\u0062\" ".toList :=
    ⟨[], [], "n\\u0061me".toList, _, gap, gap, key, .inl (.string spelled), ⟨[], [' '], gap, space, rfl⟩, rfl⟩
  have fourth : member ("tags", "[[]]".toList) "\"tags\":[[]]".toList :=
    ⟨[], [], "tags".toList, _, gap, gap, Json.spells_of_plain (by decide), nested,
      ⟨[], [], gap, gap, rfl⟩, rfl⟩
  exact ⟨_, _, [_, _], [_], _, ⟨[' '], ['\n'], space, by decide, rfl⟩,
    ⟨_, rfl, .inr (.next first (.next second (.next third (.last fourth))))⟩, rfl, spelled, by decide⟩

def sampleBoundary : List Char := "b'd:=?".toList

/-- A header with a letter of two bytes, and a line that is not empty but blank. -/
def sampleLines : List (List Char) := ["A: \u00E9".toList, [' ']]

/-- The first content type counts. The content goes on with one more delimiter and with bytes that are
no text. -/
def sampleUpload : Record where
  method := "POST"
  uri := "https://h/upload/b/x/o?uploadType=multipart"
  headers := [("Accept", "*/*"),
    ("CONTENT-Type", "Multipart/Related;type=\"a=b\"; \tBoundary=\"b'd:=?\"; q"),
    ("content-type", "text/plain")]
  body := utf8 ("--b'd:=?\r\nA: \u00E9\r\n \r\n\r\n".toList ++ sampleMetadata) ++
    (utf8 "\r\n--b'd:=?--b'd:=?".toList ++ [0xFF, 0x0D])

theorem objectName?_written_sample : sampleUpload.objectName? = some "😀/b" := by
  let contentType := "Multipart/Related;type=\"a=b\"; \tBoundary=\"b'd:=?\"; q"
  let content := utf8 "--b'd:=?".toList ++ [0xFF, 0x0D]
  let part := crlf ++ (List.intercalate crlf sampleLines ++ (crlf ++ (crlf ++ (sampleMetadata ++ crlf))))
  have form : IsBoundary sampleBoundary := ⟨by decide, by decide⟩
  have header : FirstHeader sampleUpload "content-type" contentType :=
    ⟨[("Accept", "*/*")], "CONTENT-Type", [("content-type", "text/plain")], rfl, by decide, by decide⟩
  have other : IsOther "type=\"a=b\"".toList := by
    refine ⟨by decide, fun name value free same => ?_⟩
    have whole : "type".toList ++ '=' :: "\"a=b\"".toList = name ++ '=' :: value := same
    obtain ⟨rfl, _⟩ := append_cons_inj (by decide) free whole
    decide
  have parameter : IsParameter sampleBoundary " \tBoundary=\"b'd:=?\"".toList :=
    ⟨" \t".toList, "Boundary".toList, _, by decide, by decide, .inr rfl, rfl⟩
  have declared : Declares sampleBoundary contentType.toList :=
    ⟨"Multipart/Related".toList, ["type=\"a=b\"".toList], _, [" q".toList], by decide, by simpa using other,
      parameter, by decide, by decide⟩
  have absent : ¬dashed sampleBoundary <:+: sampleMetadata := by decide +kernel
  have headers : IsHeaderBlock sampleBoundary sampleLines :=
    ⟨by decide, by decide +kernel, by decide, by decide +kernel⟩
  have body : sampleUpload.body =
      delimiter sampleBoundary ++ (utf8 part ++ (delimiter sampleBoundary ++ content)) := by
    decide +kernel
  exact objectName?_written form header declared tells_sampleMetadata absent (.headed headers) body

end RequestTrail.Multipart
