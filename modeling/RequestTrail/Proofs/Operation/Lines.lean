import RequestTrail.Proofs.Operation.Reader

/-! Every line is read back as the operation it was rendered from, so operations that share a line
are the same. -/
namespace RequestTrail.Operation

open Text

variable {s : Service} {bucket object : String} {rest : List Char}

theorem after?_under (root opening rest : List Char) :
    after? (root ++ opening) (root ++ rest) = after? opening rest := by
  induction root with
  | nil => rfl
  | cons c root ih =>
    simp only [after?, List.cons_append, List.isPrefixOf_cons_cons, beq_self_eq_true, Bool.true_and,
      List.length_cons, List.drop_succ_cons] at ih ⊢
    exact ih

theorem metagenerationParameter_toList (n : Int64) : (metagenerationParameter n).toList =
    "ifMetagenerationMatch=".toList ++ (toString n.toInt).toList :=
  String.toList_append

theorem generationParameter_toList (token : Option String) : (generationParameter token).toList =
    "ifGenerationMatch=GenerationMatch_".toList ++ (token.getD "").toList :=
  String.toList_append

theorem toList_append_append (a b : String) (rest : List Char) :
    a.toList ++ (b.toList ++ rest) = (a ++ b).toList ++ rest := by
  rw [String.toList_append, List.append_assoc]

theorem storageBase_toList (s : Service) :
    (s.storage ++ "/b/").toList = s.root.toList ++ "/storage/v1/b/".toList := by
  simp only [Service.storage, String.append_assoc, String.reduceAppend, String.toList_append]

theorem uploadBase_toList (s : Service) :
    (s.upload ++ "/b/").toList = s.root.toList ++ "/upload/storage/v1/b/".toList := by
  simp only [Service.upload, String.append_assoc, String.reduceAppend, String.toList_append]

/-- A character that is never written ends the name before it. -/
theorem unwritten {c : Char} {more : List Char} (h : ObjectName.isWritten c = false) :
    ∀ d ∈ (c :: more).head?, ObjectName.isWritten d = false := by
  rintro d ⟨⟩
  exact h

section Methods

theorem ofLine?_get (target : String) : ofLine? s ("GET:" ++ target) = readGet? s target.toList := by
  simp only [ofLine?, String.toList_append, after?_append]

theorem ofLine?_post (target : String) :
    ofLine? s ("POST:" ++ target) = readPost? s target.toList := by
  have notGet : after? "GET:".toList ("POST:".toList ++ target.toList) = none := rfl
  simp only [ofLine?, String.toList_append, notGet, after?_append]

theorem ofLine?_delete (target : String) :
    ofLine? s ("DELETE:" ++ target) = readDelete? s target.toList := by
  have notGet : after? "GET:".toList ("DELETE:".toList ++ target.toList) = none := rfl
  have notPost : after? "POST:".toList ("DELETE:".toList ++ target.toList) = none := rfl
  simp only [ofLine?, String.toList_append, notGet, notPost, after?_append, Option.bind_some]

end Methods

section Get

theorem readGet?_object (free : '/' ∉ bucket.toList) :
    readGet? s (objectPath s.storage bucket object).toList = some (.getObject bucket object) := by
  simp only [readGet?, readObject?_last s.storage object free]

theorem readObject?_bucket (free : '/' ∉ bucket.toList)
    (stops : rest = [] ∨ ∃ more, rest = '/' :: more) (none : after? "/o/".toList rest = none) :
    readObject? s.storage ((bucketPath s.storage bucket).toList ++ rest) = .none := by
  simp only [readObject?, readBucket?_append s.storage free stops, Option.bind_eq_bind,
    Option.bind_some, none, Option.bind_none]

theorem readGet?_bucket (free : '/' ∉ bucket.toList) :
    readGet? s (bucketPath s.storage bucket).toList = some (.getBucket bucket) := by
  have noObject := readObject?_bucket (s := s) free (.inl rfl) rfl
  have path := readBucket?_append s.storage free (.inl rfl)
  rw [List.append_nil] at noObject path
  simp only [readGet?, noObject, path]
  rfl

theorem readGet?_listed (free : '/' ∉ bucket.toList) :
    readGet? s ((bucketPath s.storage bucket).toList ++
      ("/o?delimiter=/&includeTrailingDelimiter=".toList ++ rest)) = readListed? bucket rest := by
  have stops : ∃ more, "/o?delimiter=/&includeTrailingDelimiter=".toList ++ rest = '/' :: more :=
    ⟨_, rfl⟩
  simp only [readGet?, readObject?_bucket free (.inr stops) rfl,
    readBucket?_append s.storage free (.inr stops), Option.bind_eq_bind, Option.bind_some,
    after?_append]

theorem readListed?_render (bucket : String) (trailingDelimiter : Bool) (under : String)
    (maxResults : UInt64) {pageToken : Option String}
    (free : ∀ token ∈ pageToken, '&' ∉ token.toList) :
    readListed? bucket ((if trailingDelimiter then "true" else "false").toList ++
      ("&maxResults=".toList ++ ((toString maxResults.toNat).toList ++
        ((pageParameter pageToken).toList ++ ("&prefix=".toList ++ under.toList))))) =
    some (.list bucket trailingDelimiter under maxResults pageToken) := by
  have stops : ∃ more, (pageParameter pageToken).toList ++ ("&prefix=".toList ++ under.toList) =
      '&' :: more := by
    cases pageToken with
    | none => exact ⟨_, rfl⟩
    | some token => exact ⟨_, by rw [pageParameter, String.toList_append]; rfl⟩
  have cut := cutAt_append (IsPlain.natural maxResults.toNat).joins (.inr stops)
  simp only [readListed?, readFlag?_append, after?_append, cut, readPage_append free,
    ofDigitChars_toString, UInt64.ofNat_toNat, String.ofList_toList, Option.bind_eq_bind,
    Option.bind_some]
  rfl

end Get

section Post

theorem readPost?_posted (free : '/' ∉ bucket.toList)
    (stops : ∀ c ∈ rest.head?, ObjectName.isWritten c = false) :
    readPost? s ((objectPath s.storage bucket object).toList ++ rest) =
      readPosted? bucket object rest := by
  simp only [readPost?, readObject?_append s.storage object free stops]

/-- No other path of the service is one under its storage. -/
theorem readObject?_elsewhere (other : after? "/storage/v1/b/".toList rest = none) :
    readObject? s.storage (s.root.toList ++ rest) = none := by
  simp only [readObject?, readBucket?, storageBase_toList, after?_under, other, Option.map_none,
    Option.bind_eq_bind, Option.bind_none]

theorem readPost?_uploaded (free : '/' ∉ bucket.toList) (stops : ∃ more, rest = '/' :: more) :
    readPost? s ((bucketPath s.upload bucket).toList ++ rest) = readUploaded? bucket rest := by
  have path : (bucketPath s.upload bucket).toList ++ rest =
      s.root.toList ++ ("/upload/storage/v1/b/".toList ++ (bucket.toList ++ rest)) := by
    rw [bucketPath, String.toList_append, uploadBase_toList, List.append_assoc, List.append_assoc]
  have noObject : readObject? s.storage ((bucketPath s.upload bucket).toList ++ rest) = none := by
    rw [path]
    exact readObject?_elsewhere rfl
  simp only [readPost?, noObject, readBucket?_append s.upload free (.inr stops)]

theorem readPost?_batch : readPost? s s.batch.toList = some .batch := by
  have path : s.batch.toList = s.root.toList ++ "/batch/storage/v1".toList := String.toList_append
  have noObject : readObject? s.storage s.batch.toList = none := by
    rw [path]
    exact readObject?_elsewhere rfl
  have noBucket : readBucket? s.upload s.batch.toList = none := by
    rw [readBucket?, uploadBase_toList, path, after?_under]
    rfl
  have whole := after?_append s.batch.toList []
  rw [List.append_nil] at whole
  simp only [readPost?, noObject, noBucket, whole, Option.map_some]

theorem readUploaded?_render (bucket object : String) (generationMatch : Bool) :
    readUploaded? bucket ("/o?".toList ++
      ((if generationMatch then "ifGenerationMatch=0&" else "").toList ++
        ("uploadType=multipart:".toList ++ object.toList))) =
      some (.upload bucket object generationMatch) := by
  cases generationMatch with
  | false =>
    have absent : after? "ifGenerationMatch=0&uploadType=multipart:".toList
        ("uploadType=multipart:".toList ++ object.toList) = none := rfl
    have nothing : "".toList = [] := rfl
    simp only [readUploaded?, after?_append, Option.bind_eq_bind, Option.bind_some,
      Bool.false_eq_true, if_false, nothing, List.nil_append, absent, String.ofList_toList]
    rfl
  | true =>
    have given : "ifGenerationMatch=0&".toList ++ ("uploadType=multipart:".toList ++ object.toList) =
        "ifGenerationMatch=0&uploadType=multipart:".toList ++ object.toList := by
      simp only [toList_append_append, String.reduceAppend]
    simp only [readUploaded?, after?_append, Option.bind_eq_bind, Option.bind_some, if_true, given,
      String.ofList_toList]
    rfl

theorem readPost?_metageneration (free : '/' ∉ bucket.toList) (n : Int64) :
    readPost? s ((objectPath s.storage bucket object).toList ++ ("?".toList ++
      ("ifMetagenerationMatch=".toList ++ (toString n.toInt).toList))) =
      some (.updateMetadata bucket object n) := by
  have query : "?".toList ++ ("ifMetagenerationMatch=".toList ++ (toString n.toInt).toList) =
      "?ifMetagenerationMatch=".toList ++ (toString n.toInt).toList := by
    simp only [toList_append_append, String.reduceAppend]
  have stops : ∀ c ∈ ("?ifMetagenerationMatch=".toList ++ (toString n.toInt).toList).head?,
      ObjectName.isWritten c = false := unwritten rfl
  rw [query, readPost?_posted free stops]
  simp only [readPosted?, after?_append, readInteger_toString, Int64.ofInt_toInt]

theorem readPost?_compose (free : '/' ∉ bucket.toList) (token : String) :
    readPost? s ((objectPath s.storage bucket object).toList ++ ("/compose?".toList ++
      ("ifGenerationMatch=GenerationMatch_".toList ++ token.toList))) =
      some (.compose bucket object (some token)) := by
  have query : "/compose?".toList ++ ("ifGenerationMatch=GenerationMatch_".toList ++ token.toList) =
      "/compose?ifGenerationMatch=GenerationMatch_".toList ++ token.toList := by
    simp only [toList_append_append, String.reduceAppend]
  have stops : ∀ c ∈ ("/compose?ifGenerationMatch=GenerationMatch_".toList ++ token.toList).head?,
      ObjectName.isWritten c = false := unwritten rfl
  have notMetadata : after? "?ifMetagenerationMatch=".toList
      ("/compose?ifGenerationMatch=GenerationMatch_".toList ++ token.toList) = none := rfl
  rw [query, readPost?_posted free stops]
  simp only [readPosted?, notMetadata, after?_append, String.ofList_toList]

theorem readCopied?_render {targetBucket targetObject : String} (form : CopyForm)
    (free : '/' ∉ targetBucket.toList) :
    readCopied? bucket object (objectPath ("/" ++ form.text) targetBucket targetObject).toList =
      some (.copy bucket object targetBucket targetObject form) := by
  cases form with
  | whole =>
    have target := readObject?_last "/copyTo" targetObject free
    simp only [readCopied?, CopyForm.text, String.reduceAppend, target]
  | stepwise =>
    have target := readObject?_last "/rewriteTo" targetObject free
    have notWhole : readObject? "/copyTo" (objectPath "/rewriteTo" targetBucket targetObject).toList =
        none := by
      have written : (objectPath "/rewriteTo" targetBucket targetObject).toList =
          "/rewriteTo/b/".toList ++
            (targetBucket.toList ++ ("/o/".toList ++ (ObjectName.encode targetObject).toList)) := by
        simp only [objectPath, bucketPath, String.toList_append, List.append_assoc]
        rfl
      rw [written]
      rfl
    simp only [readCopied?, CopyForm.text, String.reduceAppend, notWhole, target, Option.map_some]

theorem readPosted?_copy (form : CopyForm) (rest : List Char) :
    readPosted? bucket object ("/".toList ++ form.text.toList ++ rest) =
      readCopied? bucket object ("/".toList ++ form.text.toList ++ rest) := by
  cases form <;> rfl

end Post

section Delete

theorem readDelete?_metageneration (free : '/' ∉ bucket.toList) (n : Int64) :
    readDelete? s ((objectPath s.storage bucket object).toList ++ ("?".toList ++
      ("ifMetagenerationMatch=".toList ++ (toString n.toInt).toList))) =
      some (.deleteMetageneration bucket object n) := by
  have query : "?".toList ++ ("ifMetagenerationMatch=".toList ++ (toString n.toInt).toList) =
      "?ifMetagenerationMatch=".toList ++ (toString n.toInt).toList := by
    simp only [toList_append_append, String.reduceAppend]
  have stops : ∀ c ∈ ("?ifMetagenerationMatch=".toList ++ (toString n.toInt).toList).head?,
      ObjectName.isWritten c = false := unwritten rfl
  rw [query]
  simp only [readDelete?, readObject?_append s.storage object free stops, Option.bind_eq_bind,
    Option.bind_some, after?_append, readInteger_toString, Int64.ofInt_toInt]
  rfl

theorem readDelete?_generation (free : '/' ∉ bucket.toList) (token : String) :
    readDelete? s ((objectPath s.storage bucket object).toList ++ ("?".toList ++
      ("ifGenerationMatch=GenerationMatch_".toList ++ token.toList))) =
      some (.deleteGenerationMatch bucket object (some token)) := by
  have query : "?".toList ++ ("ifGenerationMatch=GenerationMatch_".toList ++ token.toList) =
      "?ifGenerationMatch=GenerationMatch_".toList ++ token.toList := by
    simp only [toList_append_append, String.reduceAppend]
  have stops : ∀ c ∈ ("?ifGenerationMatch=GenerationMatch_".toList ++ token.toList).head?,
      ObjectName.isWritten c = false := unwritten rfl
  have notMetageneration : after? "?ifMetagenerationMatch=".toList
      ("?ifGenerationMatch=GenerationMatch_".toList ++ token.toList) = none := rfl
  rw [query]
  simp only [readDelete?, readObject?_append s.storage object free stops, Option.bind_eq_bind,
    Option.bind_some, notMetageneration, after?_append, String.ofList_toList]
  rfl

end Delete

theorem ofLine?_render (s : Service) {op : Operation} (h : op.Delimited) :
    ofLine? s (op.render s) = some op.explicit := by
  cases op with
  | getObject bucket object =>
    rw [render, ofLine?_get, readGet?_object h]
    rfl
  | getBucket bucket =>
    rw [render, ofLine?_get, readGet?_bucket h]
    rfl
  | postObject bucket object =>
    simp only [render, ofLine?_post, readPost?, readObject?_last s.storage object h]
    rfl
  | copy sourceBucket sourceObject targetBucket targetObject form =>
    have target : (objectPath ("/" ++ form.text) targetBucket targetObject).toList =
        "/".toList ++ form.text.toList ++ ("/b/".toList ++ (targetBucket.toList ++
          ("/o/".toList ++ (ObjectName.encode targetObject).toList))) := by
      simp only [objectPath, bucketPath, String.toList_append, List.append_assoc]
    have stops : ∀ c ∈ (objectPath ("/" ++ form.text) targetBucket targetObject).toList.head?,
        ObjectName.isWritten c = false := by
      rw [target]
      exact unwritten rfl
    rw [render, String.append_assoc, ofLine?_post, String.toList_append,
      readPost?_posted h.1 stops, target, readPosted?_copy, ← target]
    exact readCopied?_render form h.2
  | upload bucket object generationMatch =>
    simp only [render, String.append_assoc, ofLine?_post, String.toList_append]
    exact (readPost?_uploaded h ⟨_, rfl⟩).trans (readUploaded?_render bucket object generationMatch)
  | updateMetadata bucket object n =>
    simp only [render, String.append_assoc, ofLine?_post, String.toList_append,
      metagenerationParameter_toList]
    exact readPost?_metageneration h n
  | deleteMetageneration bucket object n =>
    simp only [render, String.append_assoc, ofLine?_delete, String.toList_append,
      metagenerationParameter_toList]
    exact readDelete?_metageneration h n
  | deleteGenerationMatch bucket object token =>
    simp only [render, String.append_assoc, ofLine?_delete, String.toList_append,
      generationParameter_toList]
    exact readDelete?_generation h (token.getD "")
  | compose bucket object token =>
    simp only [render, String.append_assoc, ofLine?_post, String.toList_append,
      generationParameter_toList]
    exact readPost?_compose h (token.getD "")
  | list bucket trailingDelimiter under maxResults pageToken =>
    simp only [render, String.append_assoc, ofLine?_get, String.toList_append]
    rw [readGet?_listed h.1]
    exact readListed?_render bucket trailingDelimiter under maxResults h.2
  | batch =>
    rw [render, ofLine?_post, readPost?_batch]
    rfl

/-- Lines tell operations apart, up to an absent generation token and an empty one. -/
theorem render_eq_render_iff (s : Service) {a b : Operation} (ha : a.Delimited) (hb : b.Delimited) :
    a.render s = b.render s ↔ a.explicit = b.explicit := by
  constructor
  · intro same
    have read : some a.explicit = some b.explicit :=
      calc some a.explicit
        _ = ofLine? s (a.render s) := (ofLine?_render s ha).symm
        _ = ofLine? s (b.render s) := by rw [same]
        _ = some b.explicit := ofLine?_render s hb
    exact Option.some.inj read
  · intro same
    rw [← render_explicit s a, same, render_explicit]

theorem render_eq_render_iff_tokens :
    (compose "b" "o" none).Delimited ∧ (compose "b" "o" (some "")).Delimited ∧
      (compose "b" "o" none).render .default = (compose "b" "o" (some "")).render .default ∧
      (list "b" true "p" 7 none).Delimited ∧ (list "b" true "p" 7 (some "")).Delimited ∧
      (list "b" true "p" 7 none).render .default ≠ (list "b" true "p" 7 (some "")).render .default :=
  have free : '/' ∉ "b".toList := by decide
  have absent : (compose "b" "o" none).Delimited := free
  have empty : (compose "b" "o" (some "")).Delimited := free
  have first : (list "b" true "p" 7 none).Delimited := ⟨free, by decide⟩
  have next : (list "b" true "p" 7 (some "")).Delimited := ⟨free, by decide⟩
  ⟨absent, empty, (render_eq_render_iff .default absent empty).2 rfl,
    first, next, fun same => absurd ((render_eq_render_iff .default first next).1 same) (by decide)⟩

/-- The slash is what a bucket must not hold. -/
example : (getBucket "b/o/x").render .default = (getObject "b" "x").render .default := by decide

end RequestTrail.Operation
