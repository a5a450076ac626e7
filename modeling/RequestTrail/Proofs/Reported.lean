import RequestTrail.Operation
import RequestTrail.Proofs.Normalizer.Settled
import RequestTrail.Trail

/-! Which lines of operations a trail can show, and where. A line is shown at a position when it is
settled there. An upload with a generation writes its number, and an absent token leaves its placeholder
without one, so these lines stand for what a trail shows only after they are normalized too. -/
namespace RequestTrail

open Text Parameter

variable {position : Nat}

/-- Some recorded requests have the line at the position. -/
def Reported (position : Nat) (line : String) : Prop :=
  ∃ requests : List Record, (render requests)[position]? = some line

/-- Method and URI may be any texts, so a record can have any line with a colon. -/
theorem exists_canonical {line : String} (colon : ':' ∈ line.toList) :
    ∃ r : Record, r.canonical = line := by
  obtain ⟨method, uri, whole⟩ := List.append_of_mem colon
  let r : Record := ⟨String.ofList method, String.ofList uri, [], []⟩
  have nameless : r.objectName? = none := rfl
  refine ⟨r, String.toList_inj.mp ?_⟩
  rw [Record.canonical, nameless, String.append_empty, whole]
  simp [r]

theorem reported_normalizeAt {line : String} (colon : ':' ∈ line.toList) (position : Nat) :
    Reported position (normalizeAt position line) := by
  obtain ⟨r, rfl⟩ := exists_canonical colon
  refine ⟨List.replicate (position + 1) r, ?_⟩
  rw [getElem?_render]
  simp

/-- What a trail shows is normalized, and so it is settled. -/
theorem settled_of_reported {line : String} (reported : Reported position line) :
    Settled position line := by
  obtain ⟨requests, shown⟩ := reported
  rw [getElem?_render] at shown
  obtain ⟨r, _, rfl⟩ := Option.map_eq_some_iff.mp shown
  exact normalizeAt_eq_self_iff.mp (normalizeAt_normalizeAt position position r.canonical)

theorem reported_iff_settled {line : String} (colon : ':' ∈ line.toList) :
    Reported position line ↔ Settled position line := by
  refine ⟨settled_of_reported, fun settled => ?_⟩
  rw [← normalizeAt_eq_self_iff.mpr settled]
  exact reported_normalizeAt colon position

namespace Settled

variable {x name value : String}

/-- A name that ends otherwise than the name of a generation token. -/
theorem not_suffix_append {name tail : List Char} (start : List Char) (longer : ¬name <:+ tail)
    (shorter : ¬tail <:+ name) : ¬name <:+ start ++ tail := by
  intro ends
  rcases List.suffix_or_suffix_of_suffix ends (List.suffix_append start tail) with h | h
  · exact longer h
  · exact shorter h

theorem first_other (plainName : IsPlain name) (plainValue : IsPlain value)
    (other : ¬"ifGenerationMatch".toList <:+ name.toList) :
    Settled position (name ++ "=" ++ value) :=
  (first plainName plainValue).mpr fun ends => absurd ends other

theorem next_other (plainName : IsPlain name) (plainValue : IsPlain value) (page : name ≠ "pageToken")
    (other : ¬"ifGenerationMatch".toList <:+ name.toList) :
    Settled position (x ++ ("&" ++ name ++ "=" ++ value)) ↔ Settled position x := by
  rw [next plainName plainValue]
  refine and_iff_left ⟨fun same => absurd same page, fun ends => absurd ends other⟩

end Settled

namespace Operation

/-- The texts that stand in the line of an operation as they are given. -/
def verbatim : Operation → List String
  | .getObject bucket _ | .getBucket bucket | .postObject bucket _ | .updateMetadata bucket _ _
  | .deleteMetageneration bucket _ _ => [bucket]
  | .copy sourceBucket _ targetBucket _ _ => [sourceBucket, targetBucket]
  | .upload bucket object _ => [bucket, object]
  | .deleteGenerationMatch bucket _ token | .compose bucket _ token => [bucket, token.getD ""]
  | .list bucket _ under _ pageToken => [bucket, under, pageToken.getD ""]
  | .batch => []

/-- The tokens of the operation are placeholders of the position. -/
def NumberedAt (position : Nat) : Operation → Prop
  | .upload _ _ generationMatch => generationMatch = false
  | .deleteGenerationMatch _ _ token | .compose _ _ token =>
    token.getD "" = "token_" ++ toString position
  | .list _ _ _ _ pageToken =>
    pageToken.getD "" = "" ∨ pageToken.getD "" = "token_" ++ toString position
  | _ => True

/-- The operation has a generation and no token for it. -/
def isUnnumbered : Operation → Bool
  | .upload _ _ generationMatch => generationMatch
  | .deleteGenerationMatch _ _ token | .compose _ _ token => token.getD "" == ""
  | _ => false

theorem colon_mem_render (s : Service) (op : Operation) : ':' ∈ (op.render s).toList := by
  have get : ':' ∈ "GET:".toList := by decide
  have post : ':' ∈ "POST:".toList := by decide
  have delete : ':' ∈ "DELETE:".toList := by decide
  cases op <;> simp only [render, String.toList_append, List.mem_append, get, post, delete, true_or]

theorem isNumbered_generation_iff {token : String} :
    generationMatch.IsNumbered position ("GenerationMatch_".toList ++ token.toList) ↔
      token = "token_" ++ toString position := by
  have placeholder : generationMatch.placeholder = "GenerationMatch_".toList ++ "token_".toList := by
    decide
  have whole : generationMatch.placeholder ++ (toString position).toList =
      "GenerationMatch_".toList ++ ("token_" ++ toString position).toList := by
    rw [placeholder, List.append_assoc, String.toList_append]
  rw [IsNumbered, whole, List.append_cancel_left_eq, String.toList_inj]
  exact or_iff_right (List.append_ne_nil_of_left_ne_nil (by decide) _)

theorem isNumbered_page_iff {token : String} : pageToken.IsNumbered position token.toList ↔
    token = "" ∨ token = "token_" ++ toString position := by
  have placeholder : pageToken.placeholder = "token_".toList := rfl
  rw [IsNumbered, placeholder, ← String.toList_append, String.toList_inj, String.toList_eq_nil_iff]

/-- A generation without a token is never the placeholder of a position. -/
theorem not_settled_of_isUnnumbered {s : Service} {op : Operation} (unnumbered : op.isUnnumbered = true) :
    ¬Settled position (op.render s) := by
  intro settled
  have empty {start token : String} (missing : (token == "") = true)
      (h : Settled position (start ++ ("ifGenerationMatch=GenerationMatch_" ++ token))) : False := by
    obtain rfl := eq_of_beq missing
    have whole : (start ++ ("ifGenerationMatch=GenerationMatch_" ++ "")).toList =
        start.toList ++ (generationMatch.opening ++ ("GenerationMatch_".toList ++ "".toList)) ++ [] := by
      have opened : "ifGenerationMatch=GenerationMatch_".toList =
          generationMatch.opening ++ "GenerationMatch_".toList := by decide
      simp only [String.toList_append, opened, List.append_assoc, List.append_nil]
    have numbered := isNumbered_generation_iff.mp (h.isNumbered whole (by decide) (Or.inl rfl))
    exact absurd (String.append_eq_empty_iff.mp numbered.symm).1 (by decide)
  cases op with
  | upload bucket object generationMatch =>
    obtain rfl : generationMatch = true := unnumbered
    have whole : ((upload bucket object true).render s).toList =
        ("POST:" ++ bucketPath s.upload bucket ++ "/o?").toList ++
          (Parameter.generationMatch.opening ++ ['0']) ++
          '&' :: ("uploadType=multipart:" ++ object).toList := by
      have opened : "ifGenerationMatch=0&".toList =
          Parameter.generationMatch.opening ++ ['0'] ++ ['&'] := by decide
      rw [render, if_pos rfl]
      simp only [String.toList_append, opened, List.append_assoc, List.cons_append, List.nil_append]
    rcases settled.isNumbered whole (by decide) (Or.inr ⟨_, rfl⟩) with none | zero
    · cases none
    · exact absurd (List.cons.inj zero).1 (by decide)
  | deleteGenerationMatch bucket object token | compose bucket object token =>
    exact empty unnumbered settled
  | _ => cases unnumbered

section Plain

variable {s : Service} {base bucket start : String}

theorem isPlain_bucketPath (plainBase : IsPlain base) (plainBucket : IsPlain bucket) :
    IsPlain (bucketPath base bucket) :=
  (plainBase.append (by decide)).append plainBucket

theorem isPlain_objectPath (plainBase : IsPlain base) (plainBucket : IsPlain bucket)
    (object : String) : IsPlain (objectPath base bucket object) :=
  ((isPlain_bucketPath plainBase plainBucket).append (by decide)).append (.encoded object)

/-- A generation at the end of a line. -/
theorem settled_generation_iff {token : String} (plainStart : IsPlain start)
    (plainToken : IsPlain token) : Settled position (start ++ generationParameter (some token)) ↔
      token = "token_" ++ toString position := by
  have split : start ++ generationParameter (some token) =
      start ++ "ifGenerationMatch" ++ "=" ++ ("GenerationMatch_" ++ token) := by
    have opened : "ifGenerationMatch=GenerationMatch_" =
        "ifGenerationMatch" ++ "=" ++ "GenerationMatch_" := by decide
    have written : generationParameter (some token) =
        "ifGenerationMatch" ++ "=" ++ "GenerationMatch_" ++ token := congrArg (· ++ token) opened
    simp only [-String.reduceAppend, written, String.append_assoc]
  have named : "ifGenerationMatch".toList <:+ (start ++ "ifGenerationMatch").toList := by simp
  rw [split, Settled.first (plainStart.append (by decide)) (.append (by decide) plainToken),
    String.toList_append (s := "GenerationMatch_"), isNumbered_generation_iff]
  exact ⟨fun h => h named, fun h _ => h⟩

/-- A metageneration is written as it is. -/
theorem settled_metageneration (plainStart : IsPlain start) (n : Int64) :
    Settled position (start ++ "?" ++ metagenerationParameter n) := by
  have split : start ++ "?" ++ metagenerationParameter n =
      start ++ "?" ++ "ifMetagenerationMatch" ++ "=" ++ toString n.toInt := by
    have opened : "ifMetagenerationMatch=" = "ifMetagenerationMatch" ++ "=" := by decide
    have written : metagenerationParameter n = "ifMetagenerationMatch" ++ "=" ++ toString n.toInt :=
      congrArg (· ++ toString n.toInt) opened
    simp only [-String.reduceAppend, written, String.append_assoc]
  have name : IsPlain (start ++ "?" ++ "ifMetagenerationMatch") :=
    (plainStart.append (by decide)).append (by decide)
  rw [split]
  refine Settled.first_other name (.integer n.toInt) ?_
  rw [String.toList_append]
  exact Settled.not_suffix_append _ (by decide) (by decide)

/-- The parameter that asks for an upload comes last and holds the object name. -/
theorem settled_upload {object : String} (plainStart : IsPlain start) (plainObject : IsPlain object) :
    Settled position (start ++ "uploadType=multipart:" ++ object) := by
  have split : start ++ "uploadType=multipart:" ++ object =
      start ++ "uploadType" ++ "=" ++ ("multipart:" ++ object) := by
    have opened : "uploadType=multipart:" = "uploadType" ++ "=" ++ "multipart:" := by decide
    simp only [-String.reduceAppend, opened, String.append_assoc]
  rw [split]
  refine Settled.first_other (plainStart.append (by decide)) (.append (by decide) plainObject) ?_
  rw [String.toList_append]
  exact Settled.not_suffix_append _ (by decide) (by decide)

/-- Of the parameters of a listing only the page token is volatile. -/
theorem settled_list_iff {flag count under : String} {token : Option String}
    (plainStart : IsPlain start) (plainFlag : IsPlain flag) (plainCount : IsPlain count)
    (plainToken : IsPlain (token.getD "")) (plainUnder : IsPlain under) :
    Settled position (start ++ "/o?delimiter=/&includeTrailingDelimiter=" ++ flag ++ "&maxResults=" ++
        count ++ pageParameter token ++ "&prefix=" ++ under) ↔
      token.getD "" = "" ∨ token.getD "" = "token_" ++ toString position := by
  have fixed : Settled position (start ++ "/o?delimiter" ++ "=" ++ "/" ++
      ("&" ++ "includeTrailingDelimiter" ++ "=" ++ flag) ++ ("&" ++ "maxResults" ++ "=" ++ count)) := by
    rw [Settled.next_other (by decide) plainCount (by decide) (by decide),
      Settled.next_other (by decide) plainFlag (by decide) (by decide)]
    refine Settled.first_other (plainStart.append (by decide)) (by decide) ?_
    rw [String.toList_append]
    exact Settled.not_suffix_append _ (by decide) (by decide)
  have split (page : String) : start ++ "/o?delimiter=/&includeTrailingDelimiter=" ++ flag ++
      "&maxResults=" ++ count ++ page ++ "&prefix=" ++ under =
      start ++ "/o?delimiter" ++ "=" ++ "/" ++ ("&" ++ "includeTrailingDelimiter" ++ "=" ++ flag) ++
        ("&" ++ "maxResults" ++ "=" ++ count) ++ page ++ ("&" ++ "prefix" ++ "=" ++ under) := by
    have opened : "/o?delimiter=/&includeTrailingDelimiter=" =
        "/o?delimiter" ++ "=" ++ "/" ++ "&" ++ "includeTrailingDelimiter" ++ "=" := by decide
    have counted : "&maxResults=" = "&" ++ "maxResults" ++ "=" := by decide
    have last : "&prefix=" = "&" ++ "prefix" ++ "=" := by decide
    simp only [-String.reduceAppend, opened, counted, last, String.append_assoc]
  rw [split, Settled.next_other (by decide) plainUnder (by decide) (by decide)]
  cases token with
  | none =>
    rw [pageParameter, String.append_empty]
    exact iff_of_true fixed (Or.inl rfl)
  | some token =>
    have named : pageParameter (some token) = "&" ++ "pageToken" ++ "=" ++ token :=
      congrArg (· ++ token) (by decide)
    have paged : IsPlain "pageToken" := by decide
    have other : ¬"ifGenerationMatch".toList <:+ "pageToken".toList := by decide
    rw [Option.getD_some] at plainToken ⊢
    rw [named, Settled.next paged plainToken]
    exact ⟨fun h => isNumbered_page_iff.mp (h.2.1 rfl),
      fun h => ⟨fixed, fun _ => isNumbered_page_iff.mpr h, fun ends => absurd ends other⟩⟩

/-- Operations with plain names are settled where their tokens have the number of the position. -/
theorem settled_render_iff {op : Operation} (root : IsPlain s.root)
    (plain : ∀ text ∈ op.verbatim, IsPlain text) :
    Settled position (op.render s) ↔ op.NumberedAt position := by
  have storage : IsPlain s.storage := root.append (by decide)
  cases op with
  | getObject bucket object | postObject bucket object =>
    have path := isPlain_objectPath storage (plain bucket (by simp [verbatim])) object
    exact iff_of_true (.of_isPlain (.append (by decide) path)) trivial
  | getBucket bucket =>
    have path := isPlain_bucketPath storage (plain bucket (by simp [verbatim]))
    exact iff_of_true (.of_isPlain (.append (by decide) path)) trivial
  | copy sourceBucket sourceObject targetBucket targetObject form =>
    have source := isPlain_objectPath storage (plain sourceBucket (by simp [verbatim])) sourceObject
    have call : IsPlain ("/" ++ form.text) := by cases form <;> decide
    have target := isPlain_objectPath call (plain targetBucket (by simp [verbatim])) targetObject
    exact iff_of_true (.of_isPlain ((IsPlain.append (by decide) source).append target)) trivial
  | upload bucket object generationMatch =>
    cases generationMatch with
    | true => exact iff_of_false (not_settled_of_isUnnumbered rfl) Bool.noConfusion
    | false =>
      have upload : IsPlain s.upload := root.append (by decide)
      have path := isPlain_bucketPath upload (plain bucket (by simp [verbatim]))
      have asked : IsPlain ("POST:" ++ bucketPath s.upload bucket ++ "/o?" ++ "") :=
        ((IsPlain.append (by decide) path).append (by decide)).append (by decide)
      exact iff_of_true (settled_upload asked (plain object (by simp [verbatim]))) rfl
  | updateMetadata bucket object n | deleteMetageneration bucket object n =>
    have path := isPlain_objectPath storage (plain bucket (by simp [verbatim])) object
    exact iff_of_true (settled_metageneration (.append (by decide) path) n) trivial
  | deleteGenerationMatch bucket object token | compose bucket object token =>
    have path := isPlain_objectPath storage (plain bucket (by simp [verbatim])) object
    exact settled_generation_iff ((IsPlain.append (by decide) path).append (by decide))
      (plain (token.getD "") (by simp [verbatim]))
  | list bucket trailingDelimiter under maxResults pageToken =>
    have path := isPlain_bucketPath storage (plain bucket (by simp [verbatim]))
    have flag : IsPlain (if trailingDelimiter then "true" else "false") := by
      cases trailingDelimiter <;> decide
    exact settled_list_iff (.append (by decide) path) flag (.natural maxResults.toNat)
      (plain (pageToken.getD "") (by simp [verbatim])) (plain under (by simp [verbatim]))
  | batch => exact iff_of_true (.of_isPlain (.append (by decide) (root.append (by decide)))) trivial

end Plain

end Operation

/-- A line of an operation is shown at a position where every token in it is the placeholder of the
position, and once it is normalized it can be shown everywhere. With plain names the tokens of the
operation decide. A generation without a token is never shown, whatever the names are. -/
theorem reported_render_iff (s : Service) (op : Operation) (position : Nat) :
    (Reported position (op.render s) ↔ Settled position (op.render s)) ∧
      Reported position (normalizeAt position (op.render s)) ∧
      (op.isUnnumbered = true → ¬Reported position (op.render s)) ∧
      (IsPlain s.root → (∀ text ∈ op.verbatim, IsPlain text) →
        (Reported position (op.render s) ↔ op.NumberedAt position)) := by
  have colon := op.colon_mem_render s
  have settled : Reported position (op.render s) ↔ Settled position (op.render s) :=
    reported_iff_settled colon
  refine ⟨settled, reported_normalizeAt colon position, fun unnumbered reported => ?_,
    fun root plain => settled.trans (Operation.settled_render_iff root plain)⟩
  exact Operation.not_settled_of_isUnnumbered unnumbered (settled_of_reported reported)

/-- A composition with a numbered token is shown at the position of that number and not before it. -/
theorem reported_render_iff_compose :
    let op := Operation.compose "bucket" "dir/big" (some "token_4")
    Reported 4 (op.render .default) ∧ ¬Reported 3 (op.render .default) := by
  intro op
  have at' (position : Nat) : Reported position (op.render .default) ↔ op.NumberedAt position :=
    (reported_render_iff .default op position).2.2.2 (by decide +kernel) (by decide +kernel)
  refine ⟨(at' 4).mpr ?_, fun reported => ?_⟩
  · change "token_4" = "token_" ++ toString 4
    decide +kernel
  · have numbered : "token_4" = "token_" ++ toString 3 := (at' 3).mp reported
    exact absurd numbered (by decide +kernel)

/-- No trail shows the line of an upload with a generation, whatever is recorded. -/
theorem not_reported_upload :
    ¬∃ (requests : List Record) (position : Nat), (render requests)[position]? =
      some ((Operation.upload "bucket" "obj" true).render .default) := by
  rintro ⟨requests, position, shown⟩
  exact Operation.not_settled_of_isUnnumbered rfl (settled_of_reported ⟨requests, shown⟩)

end RequestTrail
