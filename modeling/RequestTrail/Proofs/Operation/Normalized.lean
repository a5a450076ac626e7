import RequestTrail.Proofs.Normalizer.Clear
import RequestTrail.Proofs.Reported
import RequestTrail.Proofs.RoundTrip

/-! What normalizing makes of the line of an operation. Names in which no parameter opens leave the
parameters that the operation has by itself, so nothing changes but the number of its token. -/
namespace RequestTrail.Operation

/-- The names that stand in the line as they are given. Other object names are encoded. -/
def names : Operation → List String
  | .getObject bucket _ | .getBucket bucket | .postObject bucket _ | .updateMetadata bucket _ _
  | .deleteMetageneration bucket _ _ | .deleteGenerationMatch bucket _ _ | .compose bucket _ _ => [bucket]
  | .copy sourceBucket _ targetBucket _ _ => [sourceBucket, targetBucket]
  | .upload bucket object _ => [bucket, object]
  | .list bucket _ under _ _ => [bucket, under]
  | .batch => []

def token? : Operation → Option String
  | .deleteGenerationMatch _ _ token | .compose _ _ token | .list _ _ _ _ token => token
  | _ => none

/-- The operation with the placeholder of a position for its token. A page token that is empty stays
as it is. -/
def numbered (position : Nat) : Operation → Operation
  | .deleteGenerationMatch bucket object _ =>
    .deleteGenerationMatch bucket object (some ("token_" ++ toString position))
  | .compose bucket object _ => .compose bucket object (some ("token_" ++ toString position))
  | .list bucket trailingDelimiter under maxResults token =>
    .list bucket trailingDelimiter under maxResults (token.map (shownPage position))
  | op => op

/-- The line of an operation at a position. An upload names no token, so the placeholder of its
generation is in no line that `render` writes. -/
def lineAt (s : Service) (position : Nat) : Operation → String
  | .upload bucket object true =>
    "POST:" ++ bucketPath s.upload bucket ++ "/o?" ++ "ifGenerationMatch=GenerationMatch_token_" ++
      toString position ++ "&uploadType=multipart:" ++ object
  | op => (op.numbered position).render s

variable {s : Service} {base bucket : String} {position : Nat}

theorem isClear_bucketPath (hbase : IsClear base) (hbucket : IsClear bucket) :
    IsClear (bucketPath base bucket) :=
  hbase.join (by decide) hbucket

theorem isClear_objectPath (hbase : IsClear base) (hbucket : IsClear bucket) (object : String) :
    IsClear (objectPath base bucket object) :=
  (isClear_bucketPath hbase hbucket).join (by decide) (.of_isPlain (.encoded object))

theorem isClear_line {method path : String} (hmethod : IsClear method ∧ Ends method)
    (hpath : IsClear path) : IsClear (method ++ path) :=
  hmethod.1.append hpath (hmethod.2.apart path)

theorem isClear_metageneration {path : String} (hpath : IsClear path) (n : Int64) :
    IsClear (path ++ "?" ++ metagenerationParameter n) := by
  have number : IsClear (toString n.toInt) := .of_isPlain (.integer n.toInt)
  have ends : Ends "ifMetagenerationMatch=" := by decide
  have parameter : IsClear (metagenerationParameter n) :=
    IsClear.append (by decide) number (ends.apart _)
  exact hpath.join (by decide) parameter

theorem isClear_listStart (hstorage : IsClear s.storage) (hbucket : IsClear bucket)
    (trailingDelimiter : Bool) (maxResults : UInt64) :
    IsClear (listStart s bucket trailingDelimiter maxResults) := by
  let asked := "/o?delimiter=/&includeTrailingDelimiter=" ++ if trailingDelimiter then "true" else "false"
  have split : listStart s bucket trailingDelimiter maxResults =
      "GET:" ++ bucketPath s.storage bucket ++ asked ++ "&maxResults=" ++ toString maxResults.toNat := by
    simp only [listStart, asked, String.append_assoc]
  have clear : IsClear asked ∧ Starts asked := by
    cases trailingDelimiter <;> decide
  have path : IsClear ("GET:" ++ bucketPath s.storage bucket) :=
    isClear_line (by decide) (isClear_bucketPath hstorage hbucket)
  have number : IsClear (toString maxResults.toNat) := .of_isPlain (.natural _)
  rw [split]
  exact (path.append clear.1 (clear.2.apart _)).join (by decide) number

theorem isClear_storage (root : IsClear s.root) : IsClear s.storage := by
  have starts : Starts "/storage/v1" := by decide
  exact root.append (by decide) (starts.apart _)

theorem isClear_upload (root : IsClear s.root) : IsClear s.upload := by
  have starts : Starts "/upload/storage/v1" := by decide
  exact root.append (by decide) (starts.apart _)

theorem isClear_batch (root : IsClear s.root) : IsClear s.batch := by
  have starts : Starts "/batch/storage/v1" := by decide
  exact root.append (by decide) (starts.apart _)

/-- A generation that ends a line after a clear path. -/
theorem normalizeAt_generationParameter {path m : String} {token : Option String} (hpath : IsClear path)
    (seam : IsSeam m) (free : ∀ t ∈ token, '&' ∉ t.toList) (position : Nat) :
    normalizeAt position (path ++ m ++ generationParameter token) =
      path ++ m ++ generationParameter (some ("token_" ++ toString position)) := by
  have clear : IsClear (path ++ m) := hpath.append seam.clear (seam.starts.apart path)
  have ends : Ends (path ++ m) := seam.ends.append seam.nonempty path
  have value : '&' ∉ (token.getD "").toList := by
    cases token with
    | none => exact List.not_mem_nil
    | some t => exact free t rfl
  have named : IsToken ("GenerationMatch_" ++ token.getD "") := isToken_placeholder value
  have nothing : IsClear "" := by decide
  have placeholder : "ifGenerationMatch=GenerationMatch_token_" =
      "ifGenerationMatch=GenerationMatch_" ++ "token_" := by decide
  have numbered : generationParameter (some ("token_" ++ toString position)) =
      "ifGenerationMatch=GenerationMatch_" ++ ("token_" ++ toString position) := rfl
  calc normalizeAt position (path ++ m ++ generationParameter token)
    _ = normalizeAt position
          (path ++ m ++ ("ifGenerationMatch=" ++ ("GenerationMatch_" ++ token.getD "") ++ "")) := by
      rw [generationParameter_eq, String.append_empty]
    _ = path ++ m ++ ("ifGenerationMatch=GenerationMatch_token_" ++ toString position ++ "") :=
      normalizeAt_generation clear ends named.1 named.2 nothing (Or.inl rfl) position
    _ = path ++ m ++ generationParameter (some ("token_" ++ toString position)) := by
      simp only [-String.reduceAppend, numbered, placeholder, String.append_assoc, String.append_empty]

/-- An upload without a generation ends with the name of its object. -/
theorem isClear_uploadLine {path object : String} (hpath : IsClear path) (hobject : IsClear object) :
    IsClear (path ++ "/o?" ++ "" ++ "uploadType=multipart:" ++ object) := by
  have asked : IsClear (path ++ "/o?" ++ "") := hpath.join (by decide) (by decide)
  exact asked.join (by decide) hobject

/-- The generation of an upload is a number, and normalizing takes it for a token. -/
theorem normalizeAt_uploadLine {path object : String} (hpath : IsClear path) (hobject : IsClear object)
    (position : Nat) :
    normalizeAt position
        (path ++ "/o?" ++ "ifGenerationMatch=0&" ++ "uploadType=multipart:" ++ object) =
      path ++ "/o?" ++ "ifGenerationMatch=GenerationMatch_token_" ++ toString position ++
        "&uploadType=multipart:" ++ object := by
  have zero : "ifGenerationMatch=0&" = "ifGenerationMatch=" ++ "0" ++ "&" := by decide
  have last : "&uploadType=multipart:" = "&" ++ "uploadType=multipart:" := by decide
  have asked : IsClear (path ++ "/o?") := by
    have starts : Starts "/o?" := by decide
    exact hpath.append (by decide) (starts.apart path)
  have asks : Ends (path ++ "/o?") := Ends.append (by decide) (by decide) path
  have name : IsClear ("&uploadType=multipart:" ++ object) := by
    have ends : Ends "&uploadType=multipart:" := by decide
    exact IsClear.append (by decide) hobject (ends.apart object)
  have stops : ∃ more, ("&uploadType=multipart:" ++ object).toList = '&' :: more := by
    rw [String.toList_append]
    exact ⟨_, rfl⟩
  calc normalizeAt position
        (path ++ "/o?" ++ "ifGenerationMatch=0&" ++ "uploadType=multipart:" ++ object)
    _ = normalizeAt position
          (path ++ "/o?" ++ ("ifGenerationMatch=" ++ "0" ++ ("&uploadType=multipart:" ++ object))) := by
      simp only [-String.reduceAppend, zero, last, String.append_assoc]
    _ = path ++ "/o?" ++ ("ifGenerationMatch=GenerationMatch_token_" ++ toString position ++
          ("&uploadType=multipart:" ++ object)) :=
      normalizeAt_generation asked asks (by decide) (by decide) name (Or.inr stops) position
    _ = _ := by simp only [String.append_assoc]

theorem normalizeAt_list {bucket under : String} {token : Option String} (hstorage : IsClear s.storage)
    (hbucket : IsClear bucket) (hunder : IsClear under) (free : ∀ t ∈ token, '&' ∉ t.toList)
    (trailingDelimiter : Bool) (maxResults : UInt64) (position : Nat) :
    normalizeAt position ((list bucket trailingDelimiter under maxResults token).render s) =
      (list bucket trailingDelimiter under maxResults (token.map (shownPage position))).render s := by
  have start := isClear_listStart hstorage hbucket trailingDelimiter maxResults
  cases token with
  | none =>
    have line : (list bucket trailingDelimiter under maxResults none).render s =
        listStart s bucket trailingDelimiter maxResults ++ "" ++ "&prefix=" ++ under := rfl
    rw [Option.map_none, line, String.append_empty]
    exact normalizeAt_of_isClear (start.join (by decide) hunder) position
  | some token =>
    have ends : Ends "&prefix=" := by decide
    have last : IsClear ("&prefix=" ++ under) := IsClear.append (by decide) hunder (ends.apart under)
    have stops : ("&prefix=" ++ under).toList = '&' :: ("prefix=".toList ++ under.toList) := by
      rw [String.toList_append]
      rfl
    have shown := normalizeAt_pageToken start (free token rfl) last stops position
    rw [Option.map_some, render_list, render_list]
    simpa only [String.append_assoc] using shown

/-- Operations whose token is the placeholder of the position are what they are numbered as. -/
theorem lineAt_of_numberedAt {op : Operation} (numbered : op.NumberedAt position) :
    op.lineAt s position = op.render s := by
  cases op with
  | upload bucket object generationMatch =>
    obtain rfl : generationMatch = false := numbered
    rfl
  | deleteGenerationMatch bucket object token | compose bucket object token =>
    have named : generationParameter token = generationParameter (some (token.getD "")) := rfl
    have token_eq : token.getD "" = "token_" ++ toString position := numbered
    simp only [lineAt, Operation.numbered, render, named, token_eq]
  | list bucket trailingDelimiter under maxResults token =>
    have fixed : token.map (shownPage position) = token := by
      cases token with
      | none => rfl
      | some token =>
        rw [Option.map_some, shownPage]
        split
        next empty => rw [empty]
        next given =>
          have either : token = "" ∨ token = "token_" ++ toString position := numbered
          rw [either.resolve_left given]
    rw [lineAt, Operation.numbered, fixed]
    intro _ _ contradiction
    cases contradiction
  | _ => rfl

/-- Normalizing the line of an operation puts the number of the position into its token. -/
theorem normalizeAt_render {op : Operation} (root : IsClear s.root)
    (clear : ∀ name ∈ op.names, IsClear name) (free : ∀ token ∈ op.token?, '&' ∉ token.toList)
    (position : Nat) :
    normalizeAt position (op.render s) = op.lineAt s position ∧
      (op.NumberedAt position → normalizeAt position (op.render s) = op.render s) := by
  have storage := isClear_storage root
  have whole : normalizeAt position (op.render s) = op.lineAt s position := by
    cases op with
    | getObject bucket object | postObject bucket object =>
      have path := isClear_objectPath storage (clear bucket (by simp [names])) object
      exact normalizeAt_of_isClear (isClear_line (by decide) path) position
    | getBucket bucket =>
      have path := isClear_bucketPath storage (clear bucket (by simp [names]))
      exact normalizeAt_of_isClear (isClear_line (by decide) path) position
    | copy sourceBucket sourceObject targetBucket targetObject form =>
      have source := isClear_objectPath storage (clear sourceBucket (by simp [names])) sourceObject
      have call : IsClear ("/" ++ form.text) ∧ Starts ("/" ++ form.text) ∧ "/" ++ form.text ≠ "" := by
        cases form <;> decide
      have target := isClear_objectPath call.1 (clear targetBucket (by simp [names])) targetObject
      have starts : Starts (objectPath ("/" ++ form.text) targetBucket targetObject) := by
        simp only [objectPath, bucketPath, String.append_assoc]
        rw [← String.append_assoc]
        exact call.2.1.append call.2.2 _
      have line := (isClear_line (by decide) source).append target (starts.apart ("POST:" ++ _))
      exact normalizeAt_of_isClear line position
    | upload bucket object generationMatch =>
      have path := isClear_bucketPath (isClear_upload root) (clear bucket (by simp [names]))
      have asked : IsClear ("POST:" ++ bucketPath s.upload bucket) := isClear_line (by decide) path
      have name : IsClear object := clear object (by simp [names])
      cases generationMatch with
      | false => exact normalizeAt_of_isClear (isClear_uploadLine asked name) position
      | true => exact normalizeAt_uploadLine asked name position
    | updateMetadata bucket object n | deleteMetageneration bucket object n =>
      have path := isClear_objectPath storage (clear bucket (by simp [names])) object
      exact normalizeAt_of_isClear (isClear_metageneration (isClear_line (by decide) path) n) position
    | deleteGenerationMatch bucket object token | compose bucket object token =>
      have path := isClear_objectPath storage (clear bucket (by simp [names])) object
      exact normalizeAt_generationParameter (isClear_line (by decide) path) (by decide) free position
    | list bucket trailingDelimiter under maxResults token =>
      exact normalizeAt_list storage (clear bucket (by simp [names])) (clear under (by simp [names]))
        free trailingDelimiter maxResults position
    | batch => exact normalizeAt_of_isClear (isClear_line (by decide) (isClear_batch root)) position
  exact ⟨whole, fun numbered => whole.trans (lineAt_of_numberedAt numbered)⟩

/-- A listing whose names go as far into an opening as clear names can, with a page token that looks like
a generation, and a composition that has the number of its position. -/
theorem normalizeAt_render_list :
    let listing := list "b&pageToken" true "ifGenerationMatch" 5 (some "ifGenerationMatch=7")
    let composition := compose "b" "x&pageToken=1" (some "token_3")
    normalizeAt 12 (listing.render .default) = "GET:https://www.googleapis.com/storage/v1/b/b&pageToken/o" ++
        "?delimiter=/&includeTrailingDelimiter=true&maxResults=5&pageToken=token_12" ++
        "&prefix=ifGenerationMatch" ∧
      normalizeAt 3 (composition.render .default) = composition.render .default := by
  intro listing composition
  have root : IsClear Service.default.root := by decide
  constructor
  · have filled : normalizeAt 12 (listing.render .default) = listing.lineAt .default 12 ∧ _ :=
      normalizeAt_render root (by decide) (by decide) 12
    exact filled.1.trans (by decide +kernel)
  · apply (normalizeAt_render root (by decide) (by decide) 3).2
    change "token_3" = "token_" ++ toString 3
    decide +kernel

end RequestTrail.Operation
