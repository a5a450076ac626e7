import RequestTrail.Proofs.Http.Headers
import RequestTrail.Record

/-! The headers of a record against those that its request was built from. All of them are there, and a
look-up finds the first that was given under the name, whatever stands between values of one name. -/
namespace RequestTrail

open Http Text

/-- The bytes of a name as characters. -/
def Http.nameText (name : Bytes) : String := String.ofList (name.map fun b => Char.ofNat b.toNat)

/-- A name and a value that a request may have. -/
structure Http.IsHeader (p : Bytes × Bytes) : Prop where
  name : isToken (nameText p.1).toList = true
  short : p.1.length ≤ maxNameLength
  value : p.2.all isHeaderByte = true

theorem Http.IsHeader.addHeader {p : Bytes × Bytes} (accepted : IsHeader p) (h : Headers) :
    Http.addHeader h p = .ok (h.append (nameText p.1) p.2) := by
  have named : headerName? p.1 = some (nameText p.1) := by
    have token := accepted.name
    rw [nameText, String.toList_ofList] at token
    simp [headerName?, nameText, token, accepted.short]
  rw [Http.addHeader, named]
  exact if_pos accepted.value

theorem Http.isHeader_of_addHeader {h h' : Headers} {p : Bytes × Bytes}
    (added : Http.addHeader h p = .ok h') : IsHeader p := by
  rw [Http.addHeader, headerName?] at added
  split at added
  · cases added
  next named =>
    split at named
    next token =>
      split at added
      next value =>
        simp only [Bool.and_eq_true, decide_eq_true_eq, List.length_map] at token
        exact ⟨by simpa [nameText] using token.1, token.2, value⟩
      · cases added
    · cases named

theorem Http.addHeaders_ofList {headers : List (Bytes × Bytes)}
    (accepted : ∀ p ∈ headers, IsHeader p) :
    headers.foldlM Http.addHeader .empty =
      .ok (Headers.ofList (headers.map fun p => (nameText p.1, p.2))) := by
  rw [Headers.ofList, List.foldl_map]
  generalize Headers.empty = h
  induction headers generalizing h with
  | nil => rfl
  | cons p headers ih =>
    rw [List.foldlM_cons, (accepted p (.head headers)).addHeader]
    exact ih (fun p m => accepted p (.tail _ m)) _

theorem Http.isHeader_of_addHeaders {headers : List (Bytes × Bytes)} {h h' : Headers}
    (added : headers.foldlM Http.addHeader h = .ok h') : ∀ p ∈ headers, IsHeader p := by
  induction headers generalizing h with
  | nil => simp
  | cons p headers ih =>
    rw [List.foldlM_cons] at added
    cases first : Http.addHeader h p with
    | error e => rw [first] at added; cases added
    | ok next =>
      rw [first] at added
      exact List.forall_mem_cons.mpr ⟨isHeader_of_addHeader first, ih added⟩

/-- The parts that a request may have. -/
structure Http.Draft.IsAccepted (d : Draft) (uri : Uri) : Prop where
  headers : ∀ p ∈ d.headers, IsHeader p
  method : isToken d.method.toList = true
  address : Uri.parse d.uri = .ok uri

theorem Http.Draft.IsAccepted.ofDraft {d : Draft} {uri : Uri} (accepted : d.IsAccepted uri) :
    Request.ofDraft d = .ok ⟨d.method, uri, d.version,
      Headers.ofList (d.headers.map fun p => (nameText p.1, p.2)), d.body⟩ := by
  rw [Request.ofDraft, addHeaders_ofList accepted.headers]
  simp [accepted.method, accepted.address]

/-- A request is built from no other parts. -/
theorem Http.Draft.isAccepted_of_ofDraft {d : Draft} {q : Request} (made : Request.ofDraft d = .ok q) :
    d.IsAccepted q.uri := by
  rw [Request.ofDraft] at made
  cases added : d.headers.foldlM Http.addHeader .empty with
  | error e => rw [added] at made; cases made
  | ok h =>
    rw [added] at made
    cases token : isToken d.method.toList with
    | false => rw [token] at made; cases made
    | true =>
      rw [token] at made
      cases address : Uri.parse d.uri with
      | error e => rw [address] at made; cases made
      | ok uri =>
        rw [address] at made
        cases made
        exact ⟨isHeader_of_addHeaders added, token, address⟩

namespace Record

/-- A header as it is recorded: its name in lower case, its value as far as it is text. -/
def shownHeader (p : Bytes × Bytes) : String × String :=
  (Headers.canonicalName (nameText p.1), String.ofList (Utf8.decodeLossy p.2))

section Given

variable {q : Request} {headers : List (Bytes × Bytes)}
  (built : q.headers = Headers.ofList (headers.map fun p => (nameText p.1, p.2)))

include built

theorem filter_headers (name : String) :
    (ofRequest q).headers.filter (·.1 = name) = (headers.map shownHeader).filter (·.1 = name) := by
  have under := Headers.filter_toList_ofList (headers.map fun p => (nameText p.1, p.2)) name
  have shown : headers.map shownHeader =
      (Headers.canonical (headers.map fun p => (nameText p.1, p.2))).map fun h =>
        (h.1, String.ofList (Utf8.decodeLossy h.2)) := by
    simp [Headers.canonical, Function.comp_def, shownHeader]
  rw [shown, ofRequest, built, List.filter_map, List.filter_map]
  exact congrArg (List.map _) under

theorem perm_headers : (ofRequest q).headers.Perm (headers.map shownHeader) :=
  Headers.perm_of_filter (filter_headers built)

/-- Recorded names are in lower case, so one of them has a name in any case iff it is its lower case. -/
theorem sameName_of_mem_headers (name : String) :
    ∀ h ∈ (ofRequest q).headers,
      sameName h.1.toList name.toList = decide (h.1 = Headers.canonicalName name) := by
  intro h m
  obtain ⟨p, _, rfl⟩ := List.mem_map.mp ((perm_headers built).mem_iff.mp m)
  rw [Bool.eq_iff_iff, Headers.sameName_iff, decide_eq_true_iff, shownHeader,
    Headers.canonicalName_canonicalName]

theorem header?_of_built (name : String) :
    (ofRequest q).header? name =
      (headers.find? fun p => sameName (nameText p.1).toList name.toList).map
        fun p => (shownHeader p).2 := by
  have asked (p : Bytes × Bytes) : sameName (nameText p.1).toList name.toList =
      decide ((shownHeader p).1 = Headers.canonicalName name) := by
    rw [Bool.eq_iff_iff, Headers.sameName_iff, decide_eq_true_iff, shownHeader]
  have first : ((ofRequest q).headers.find? fun h => sameName h.1.toList name.toList) =
      (headers.find? fun p => sameName (nameText p.1).toList name.toList).map shownHeader := by
    rw [← List.head?_filter, List.filter_congr (sameName_of_mem_headers built name),
      filter_headers built, List.head?_filter, List.find?_map]
    simp only [Function.comp_def, asked]
  rw [header?, first, Option.map_map]
  rfl

end Given

/-- A request is built from every list of accepted headers and from no other, and its record loses none
of them: it holds the same pairs, with those of one name in the order in which they were given, and
finds under a name in any case the first value that was given for it. -/
theorem headers_of_accepted (d : Draft) :
    ((∃ q, Request.ofDraft d = .ok q) ↔ ∃ uri, d.IsAccepted uri) ∧
    ∀ q, Request.ofDraft d = .ok q →
      (ofRequest q).headers.Perm (d.headers.map shownHeader) ∧
      (∀ name, (ofRequest q).headers.filter (·.1 = name) =
        (d.headers.map shownHeader).filter (·.1 = name)) ∧
      ∀ name, (ofRequest q).header? name =
          ((d.headers.find? fun p => sameName (nameText p.1).toList name.toList).map
            fun p => (shownHeader p).2) ∧
        ((ofRequest q).header? name = none ↔
          ∀ p ∈ d.headers, sameName (nameText p.1).toList name.toList = false) := by
  refine ⟨⟨fun ⟨q, made⟩ => ⟨q.uri, Draft.isAccepted_of_ofDraft made⟩,
    fun ⟨_, accepted⟩ => ⟨_, accepted.ofDraft⟩⟩, fun q made => ?_⟩
  have built : q.headers = Headers.ofList (d.headers.map fun p => (nameText p.1, p.2)) := by
    rw [← Except.ok.inj ((Draft.isAccepted_of_ofDraft made).ofDraft.symm.trans made)]
  refine ⟨perm_headers built, filter_headers built, fun name => ⟨header?_of_built built name, ?_⟩⟩
  rw [header?_of_built built name]
  simp

/-- Two names that take turns and change their case, with a value that is no text. -/
def mixedDraft : Draft where
  method := "GET"
  uri := "https://host/b"
  headers := [(bytes "X-Tag", bytes "one"), (bytes "accept", bytes "*"), (bytes "x-tag", [0x74, 0xFF]),
    (bytes "ACCEPT", bytes "text")]

theorem headers_of_accepted_mixed :
    ∃ q, Request.ofDraft mixedDraft = .ok q ∧
      (ofRequest q).headers =
        [("x-tag", "one"), ("x-tag", "t\uFFFD"), ("accept", "*"), ("accept", "text")] ∧
      (ofRequest q).headers.Perm (mixedDraft.headers.map shownHeader) ∧
      (ofRequest q).header? "X-TAG" = some "one" ∧ (ofRequest q).header? "x-other" = none := by
  have all : ∀ p ∈ mixedDraft.headers, isToken (nameText p.1).toList = true ∧
      p.1.length ≤ maxNameLength ∧ p.2.all isHeaderByte = true := by decide +kernel
  have accepted : mixedDraft.IsAccepted (.absolute "https".toList "host".toList ⟨"/b".toList, none⟩) :=
    ⟨fun p m => ⟨(all p m).1, (all p m).2.1, (all p m).2.2⟩, by decide +kernel, by decide +kernel⟩
  have general := headers_of_accepted mixedDraft
  obtain ⟨q, made⟩ := general.1.mpr ⟨_, accepted⟩
  obtain ⟨same, _, found⟩ := general.2 q made
  obtain rfl := Except.ok.inj (accepted.ofDraft.symm.trans made)
  refine ⟨_, made, by decide +kernel, same, ?_, ?_⟩
  · rw [(found "X-TAG").1]
    decide +kernel
  · rw [(found "x-other").1]
    decide +kernel

end Record

end RequestTrail
