import RequestTrail.Client
import RequestTrail.Operation
import RequestTrail.Proofs.Normalizer.TokenEqual
import RequestTrail.Proofs.Retry
import RequestTrail.Tracker

/-! The lines of a tracker against the lines of the operations that were asked for. A call is known by
its method and URI, or as an upload also by its body. Both lines of a call differ at most in tokens,
which normalizing forgets. -/
namespace RequestTrail

open Http Text

/-- The line shows the method and the URI before and after its first colon. -/
def ShownBy (line : String) (q : Request) : Prop :=
  cutAtFirst [':'] line.toList = some (q.method.toList, q.uri.text.toList)

/-- No content type says that the request is an upload. -/
def CarriesNoUpload (q : Request) : Prop :=
  ∀ contentType, (Record.ofRequest q).header? "content-type" = some contentType →
    Multipart.isRelated contentType.toList = false

/-- A token made at run time. -/
def IsToken (token : String) : Prop := token ≠ "" ∧ '&' ∉ token.toList

/-- The request is a real call of the operation. Where the operation names a token, the request has
one of its own. -/
def Performs (s : Service) (q : Request) (op : Operation) : Prop :=
  match op with
  | .upload bucket object generationMatch =>
    q.method = "POST" ∧
    q.uri.text = Operation.bucketPath s.upload bucket ++ "/o?" ++
      (if generationMatch then "ifGenerationMatch=0&" else "") ++ "uploadType=multipart" ∧
    (Record.ofRequest q).objectName? = some object
  | .list bucket trailingDelimiter under maxResults (some token) =>
    CarriesNoUpload q ∧ IsToken token ∧ ∃ actual, IsToken actual ∧
      ShownBy ((Operation.list bucket trailingDelimiter under maxResults (some actual)).render s) q
  | .deleteGenerationMatch bucket object token =>
    CarriesNoUpload q ∧ '&' ∉ (token.getD "").toList ∧ ∃ actual, IsToken actual ∧
      q.method = "DELETE" ∧
      q.uri.text = Operation.objectPath s.storage bucket object ++ "?" ++ "ifGenerationMatch=" ++ actual
  | .compose bucket object token =>
    CarriesNoUpload q ∧ '&' ∉ (token.getD "").toList ∧ ∃ actual, IsToken actual ∧
      q.method = "POST" ∧
      q.uri.text = Operation.objectPath s.storage bucket object ++ "/compose?" ++
        "ifGenerationMatch=" ++ actual
  | op => CarriesNoUpload q ∧ ShownBy (op.render s) q

theorem ShownBy.line_eq {line : String} {q : Request} (shown : ShownBy line q) :
    line = q.method ++ ":" ++ q.uri.text := by
  obtain ⟨_, whole, _⟩ := cutAtFirst_eq_some_iff.mp shown
  apply String.toList_inj.mp
  simpa using whole

theorem ShownBy.of_line_eq {line : String} {q : Request} (free : ':' ∉ q.method.toList)
    (whole : line = q.method ++ ":" ++ q.uri.text) : ShownBy line q := by
  have split : line.toList = q.method.toList ++ ':' :: q.uri.text.toList := by simp [whole]
  rw [ShownBy, split]
  exact cutAtFirst_singleton free _

theorem CarriesNoUpload.of_headers_empty {q : Request} (bare : q.headers = .empty) :
    CarriesNoUpload q := by
  intro contentType named
  have none : (Record.ofRequest q).headers = [] := by
    rw [Record.ofRequest, bare]
    rfl
  rw [Record.header?, none, List.find?_nil] at named
  cases named

theorem CarriesNoUpload.objectName? {q : Request} (plain : CarriesNoUpload q) :
    (Record.ofRequest q).objectName? = none := by
  unfold Record.objectName?
  cases header : (Record.ofRequest q).header? "content-type" with
  | none => rfl
  | some contentType => simp [plain contentType header]

theorem CarriesNoUpload.canonical {q : Request} (plain : CarriesNoUpload q) :
    (Record.ofRequest q).canonical = q.method ++ ":" ++ q.uri.text := by
  rw [Record.canonical, plain.objectName?, String.append_empty]
  rfl

theorem canonical_of_shownBy {q : Request} {line : String} (plain : CarriesNoUpload q)
    (shown : ShownBy line q) : (Record.ofRequest q).canonical = line := by
  rw [plain.canonical, shown.line_eq]

theorem IsToken.toList_ne_nil {token : String} (h : IsToken token) : token.toList ≠ [] :=
  fun empty => h.1 (String.toList_inj.mp (by simpa using empty))

/-- A page token is a segment of its own. -/
theorem sameButTokens_pageToken (start : String) {v w rest : String} {more : List Char}
    (hv : IsToken v) (hw : IsToken w) (ends : rest.toList = '&' :: more) :
    SameButTokens (start ++ "&pageToken=" ++ v ++ rest) (start ++ "&pageToken=" ++ w ++ rest) := by
  have split {token : String} (h : IsToken token) :
      fields '&' (start ++ "&pageToken=" ++ token ++ rest).toList =
        fields '&' start.toList ++ (Segment.pageName ++ token.toList) :: fields '&' more := by
    have free : '&' ∉ Segment.pageName ++ token.toList :=
      fun m => (List.mem_append.mp m).elim (by decide) h.2
    have opening : "&pageToken=".toList = '&' :: Segment.pageName := rfl
    rw [← fields_append_cons more free, ← fields_append_separator]
    simp only [String.toList_append, opening, ends, List.append_assoc, List.cons_append]
  have later : (fields '&' start.toList).length ≠ 0 := by
    simpa using fields_ne_nil '&' start.toList
  refine .of_fields (split hv) (split hw) ?_
  rw [beq_eq_false_iff_ne.mpr later]
  exact .pageToken rfl hv.toList_ne_nil hw.toList_ne_nil

/-- A generation token at the end of a text, in whatever segment. -/
theorem sameButTokens_generation (start : String) {v w : String} (hv : IsToken v) (hw : IsToken w) :
    SameButTokens (start ++ "ifGenerationMatch=" ++ v) (start ++ "ifGenerationMatch=" ++ w) := by
  obtain empty | ⟨others, last, split⟩ := List.eq_nil_or_concat' (fields '&' start.toList)
  · exact absurd empty (fields_ne_nil _ _)
  have grown {token : String} (h : IsToken token) :
      fields '&' (start ++ "ifGenerationMatch=" ++ token).toList =
        others ++ [last ++ (Parameter.generationMatch.opening ++ token.toList)] := by
    have free : '&' ∉ Parameter.generationMatch.opening ++ token.toList :=
      fun m => (List.mem_append.mp m).elim (by decide) h.2
    rw [← fields_append_of_not_mem split free]
    simp only [String.toList_append, List.append_assoc]
    rfl
  exact .of_fields (grown hv) (grown hw)
    (.append_opening _ hv.toList_ne_nil hw.toList_ne_nil)

/-- The token that an operation names, as it stands in its line. -/
theorem isToken_placeholder {token : Option String} (free : '&' ∉ (token.getD "").toList) :
    IsToken ("GenerationMatch_" ++ token.getD "") := by
  refine ⟨fun empty => ?_, by simpa using free⟩
  have := congrArg String.toList empty
  simp at this

/-- The line of a listing up to its page token. -/
def listStart (s : Service) (bucket : String) (trailingDelimiter : Bool) (maxResults : UInt64) : String :=
  "GET:" ++ Operation.bucketPath s.storage bucket ++ "/o?delimiter=/&includeTrailingDelimiter=" ++
    (if trailingDelimiter then "true" else "false") ++ "&maxResults=" ++ toString maxResults.toNat

theorem render_list (s : Service) (bucket under token : String) (trailingDelimiter : Bool)
    (maxResults : UInt64) :
    (Operation.list bucket trailingDelimiter under maxResults (some token)).render s =
      listStart s bucket trailingDelimiter maxResults ++ "&pageToken=" ++ token ++
        ("&prefix=" ++ under) := by
  calc (Operation.list bucket trailingDelimiter under maxResults (some token)).render s
    _ = listStart s bucket trailingDelimiter maxResults ++ ("&pageToken=" ++ token) ++ "&prefix=" ++
        under := rfl
    _ = _ := by simp only [String.append_assoc]

theorem generationParameter_eq (token : Option String) :
    Operation.generationParameter token =
      "ifGenerationMatch=" ++ ("GenerationMatch_" ++ token.getD "") := by
  have opening : "ifGenerationMatch=GenerationMatch_" = "ifGenerationMatch=" ++ "GenerationMatch_" := by
    decide
  calc Operation.generationParameter token
    _ = "ifGenerationMatch=" ++ "GenerationMatch_" ++ token.getD "" :=
      congrArg (· ++ token.getD "") opening
    _ = "ifGenerationMatch=" ++ ("GenerationMatch_" ++ token.getD "") := String.append_assoc

/-- A request with a generation token of its own, against a line that names another. -/
theorem sameButTokens_of_generation {q : Request} {start path actual : String}
    {token : Option String} (plain : CarriesNoUpload q) (head : start = q.method ++ ":" ++ path)
    (uri : q.uri.text = path ++ "ifGenerationMatch=" ++ actual) (own : IsToken actual)
    (free : '&' ∉ (token.getD "").toList) :
    SameButTokens (Record.ofRequest q).canonical (start ++ Operation.generationParameter token) := by
  have shown : (Record.ofRequest q).canonical = start ++ "ifGenerationMatch=" ++ actual := by
    simp only [plain.canonical, uri, head, String.append_assoc]
  have named : start ++ Operation.generationParameter token =
      start ++ "ifGenerationMatch=" ++ ("GenerationMatch_" ++ token.getD "") := by
    simp only [generationParameter_eq, String.append_assoc]
  rw [shown, named]
  exact sameButTokens_generation start own (isToken_placeholder free)

/-- A call and its operation have lines that are normalized alike. -/
theorem Performs.sameButTokens {s : Service} {q : Request} {op : Operation}
    (real : Performs s q op) : SameButTokens (Record.ofRequest q).canonical (op.render s) := by
  have shown {line : String} (h : CarriesNoUpload q ∧ ShownBy line q) :
      SameButTokens (Record.ofRequest q).canonical line := by
    rw [canonical_of_shownBy h.1 h.2]
    exact .refl line
  cases op with
  | upload bucket object generationMatch =>
    obtain ⟨method, uri, name⟩ := real
    have same : (Record.ofRequest q).canonical =
        (Operation.upload bucket object generationMatch).render s := by
      have verb : "POST:" = "POST" ++ ":" := by decide
      have last : "uploadType=multipart:" = "uploadType=multipart" ++ ":" := by decide
      have line : (Operation.upload bucket object generationMatch).render s = "POST:" ++
          Operation.bucketPath s.upload bucket ++ "/o?" ++
          (if generationMatch then "ifGenerationMatch=0&" else "") ++ "uploadType=multipart:" ++
          object := rfl
      rw [line, Record.canonical, name]
      simp only [-String.reduceAppend, Record.ofRequest, method, uri, verb, last,
        String.append_assoc]
    rw [same]
    exact .refl _
  | list bucket trailingDelimiter under maxResults pageToken =>
    cases pageToken with
    | none => exact shown real
    | some token =>
      obtain ⟨plain, hw, actual, hv, line⟩ := real
      have ends : ("&prefix=" ++ under).toList = '&' :: ("prefix=".toList ++ under.toList) := by
        simp only [String.toList_append]
        rfl
      rw [canonical_of_shownBy plain line, render_list, render_list]
      exact sameButTokens_pageToken _ hv hw ends
  | deleteGenerationMatch bucket object token =>
    obtain ⟨plain, free, actual, own, method, uri⟩ := real
    have verb : "DELETE:" = "DELETE" ++ ":" := by decide
    refine sameButTokens_of_generation plain ?_ uri own free
    simp only [-String.reduceAppend, method, verb, String.append_assoc]
  | compose bucket object token =>
    obtain ⟨plain, free, actual, own, method, uri⟩ := real
    have verb : "POST:" = "POST" ++ ":" := by decide
    refine sameButTokens_of_generation plain ?_ uri own free
    simp only [-String.reduceAppend, method, verb, String.append_assoc]
  | _ => exact shown real

theorem normalize_map_eq {α : Type} {line other : α → String} {items : List α}
    (same : ∀ a ∈ items, SameButTokens (line a) (other a)) :
    normalize (items.map line) = normalize (items.map other) := by
  rw [normalize, normalize, mapIdx_eq_mapIdx_iff]
  refine ⟨by simp, fun i x y hx hy => ?_⟩
  rw [List.getElem?_map] at hx hy
  obtain ⟨a, here, rfl⟩ := Option.map_eq_some_iff.mp hx
  rw [here] at hy
  obtain rfl := Option.some.inj hy
  exact (normalizeAt_eq_iff i _ _).mpr (same a (List.mem_of_getElem? here))

section Sending

variable {σ : Type} {tracker : Tracker σ} {c : Client σ}

/-- A call that is answered for good at its first attempt adds one record. -/
theorem records_send {q : Request} (alone : tracker.delegate = none)
    (installed : c.initializer = tracker.toInitializer)
    (final : ∀ own, Retry.again Client.retryable c.retries 1 (c.transport 1 q own).1.result = false)
    (w : World σ) :
    (tracker.history (c.send q w).2).records =
      (tracker.history w).records ++ [Record.ofRequest q] := by
  have ready : c.initializer ⟨q, none⟩ w =
      ⟨.ok (), ⟨q, some (Tracker.recording tracker.key)⟩, w⟩ := by
    rw [installed, Tracker.toInitializer, alone]
    rfl
  rw [Client.send, ready]
  dsimp only
  rw [Retry.run_of_final (final w.own)]
  simp [Client.outcome, Client.attempt, Client.handOver, Pending.prepare, Tracker.recording,
    Tracker.history, World.record]

theorem records_foldl_send (alone : tracker.delegate = none)
    (installed : c.initializer = tracker.toInitializer) (qs : List Request)
    (final : ∀ q ∈ qs, ∀ own,
      Retry.again Client.retryable c.retries 1 (c.transport 1 q own).1.result = false)
    (w : World σ) :
    (tracker.history (qs.foldl (fun w q => (c.send q w).2) w)).records =
      (tracker.history w).records ++ qs.map Record.ofRequest := by
  induction qs generalizing w with
  | nil => simp
  | cons q qs ih =>
    have rest := ih (fun r m => final r (.tail q m)) (c.send q w).2
    rw [List.foldl_cons, rest, records_send alone installed (final q (.head qs))]
    simp

/-- Calls sent in order, each of them answered for good at its first attempt, leave the normalized
lines of their operations, whatever tokens the service made up meanwhile. -/
theorem lines_eq_normalize_render {s : Service} (alone : tracker.delegate = none)
    (installed : c.initializer = tracker.toInitializer) (calls : List (Operation × Request))
    (real : ∀ call ∈ calls, Performs s call.2 call.1)
    (final : ∀ call ∈ calls, ∀ own,
      Retry.again Client.retryable c.retries 1 (c.transport 1 call.2 own).1.result = false)
    (w : World σ) (fresh : (tracker.history w).records = []) :
    tracker.lines ((calls.map (·.2)).foldl (fun w q => (c.send q w).2) w) =
      normalize (calls.map fun call => call.1.render s) := by
  have once : ∀ q ∈ calls.map (·.2), ∀ own,
      Retry.again Client.retryable c.retries 1 (c.transport 1 q own).1.result = false :=
    List.forall_mem_map.mpr final
  rw [Tracker.lines, History.lines, records_foldl_send alone installed _ once, fresh,
    List.nil_append, render, List.map_map, List.map_map]
  exact normalize_map_eq fun call m => (real call m).sameButTokens

end Sending

/-- A request for the next page of a bucket, with the token that the service gave. -/
def nextPage (actual : String) : Request where
  method := "GET"
  uri := .absolute "http".toList "host".toList ⟨"/storage/v1/b/x/o".toList,
    some ("delimiter=/&includeTrailingDelimiter=true&maxResults=10&pageToken=".toList ++
      actual.toList ++ "&prefix=a/".toList)⟩

/-- A request to compose an object at the generation that the service gave. -/
def composeAt (actual : String) : Request where
  method := "POST"
  uri := .absolute "http".toList "host".toList ⟨"/storage/v1/b/x/o/y/compose".toList,
    some ("ifGenerationMatch=".toList ++ actual.toList)⟩

theorem performs_nextPage :
    Performs ⟨"http://host"⟩ (nextPage "CgRk") (.list "x" true "a/" 10 (some "t")) := by
  refine ⟨.of_headers_empty rfl, ⟨by decide, by decide⟩, "CgRk", ⟨by decide, by decide⟩, ?_⟩
  exact .of_line_eq (by decide) (by decide +kernel)

theorem performs_composeAt :
    Performs ⟨"http://host"⟩ (composeAt "42") (.compose "x" "y" none) := by
  refine ⟨.of_headers_empty rfl, by decide, "42", ⟨by decide, by decide⟩, rfl, ?_⟩
  decide

/-- A page and a composition, each with a token of its own, against a transport that always
answers. -/
theorem lines_of_nextPage_composeAt :
    let tracker : Tracker Unit := { key := 0 }
    let c : Client Unit :=
      { initializer := tracker.toInitializer
        transport := fun _ _ own => (⟨.ok ⟨200, []⟩, 0⟩, own) }
    tracker.lines ([nextPage "CgRk", composeAt "42"].foldl (fun w q => (c.send q w).2)
        ⟨fun _ => .empty, ()⟩) =
      normalize [(Operation.list "x" true "a/" 10 (some "t")).render ⟨"http://host"⟩,
        (Operation.compose "x" "y" none).render ⟨"http://host"⟩] := by
  intro tracker c
  have real : ∀ call ∈ [(Operation.list "x" true "a/" 10 (some "t"), nextPage "CgRk"),
      (.compose "x" "y" none, composeAt "42")], Performs ⟨"http://host"⟩ call.2 call.1 := by
    intro call m
    rcases List.mem_pair.mp m with rfl | rfl
    · exact performs_nextPage
    · exact performs_composeAt
  exact lines_eq_normalize_render rfl rfl _ real (fun _ _ _ => rfl) _ rfl

end RequestTrail
