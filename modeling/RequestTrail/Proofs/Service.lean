import Mathlib.Data.List.DropRight
import RequestTrail.Proofs.Http.Verbatim
import RequestTrail.Service

/-! Which roots of the service are recorded as they are written. Any URL with a host is accepted as a
root and kept as it was given. A request to it is recorded in the printed form of its URI, so only
roots that are printed as they stand reappear in a trail. -/
namespace RequestTrail

open Text

namespace Http

/-- Nothing but the URI can have the request refused. -/
structure Draft.IsSound (d : Draft) : Prop where
  headers : ∃ h, d.headers.foldlM addHeader .empty = .ok h
  method : isToken d.method.toList = true

/-- Any sound request to the URL is built, and recorded with the URL as it stands. -/
def IsRecorded (url : String) : Prop := ∀ d : Draft, d.uri = url → d.IsSound →
  ∃ q, Request.ofDraft d = .ok q ∧ (Record.ofRequest q).uri = url

theorem ofDraft_of_isSound {d : Draft} (sound : d.IsSound) : ∃ h, Request.ofDraft d =
    match Uri.parse d.uri with
    | .error e => .error (.uri e)
    | .ok u => .ok ⟨d.method, u, d.version, h, d.body⟩ := by
  obtain ⟨⟨h, added⟩, token⟩ := sound
  refine ⟨h, ?_⟩
  simp only [Request.ofDraft, added, token]
  cases Uri.parse d.uri <;> rfl

theorem isRecorded_iff {url : String} : IsRecorded url ↔ IsVerbatim url := by
  constructor
  · intro recorded
    have sound : (Draft.mk "GET" url .http11 [] []).IsSound :=
      ⟨⟨.empty, rfl⟩, show isToken "GET".toList = true by decide⟩
    obtain ⟨q, built, same⟩ := recorded _ rfl sound
    obtain ⟨h, judged⟩ := ofDraft_of_isSound sound
    rw [judged] at built
    split at built
    · cases built
    · next u read =>
      cases built
      exact ⟨u, read, same⟩
  · rintro ⟨u, read, printed⟩ d rfl sound
    obtain ⟨h, judged⟩ := ofDraft_of_isSound sound
    rw [judged, read]
    exact ⟨_, rfl, printed⟩

end Http

/-- The first character stays when others are cut from the end. -/
theorem head?_rdropWhile {α : Type} {p : α → Bool} {c : α} {s : List α} (kept : p c = false) :
    ((c :: s).rdropWhile p).head? = some c := by
  have some : (c :: s).rdropWhile p ≠ [] := by
    intro none
    have dropped := List.rdropWhile_eq_nil_iff.mp none c (by simp)
    simp [kept] at dropped
  obtain ⟨d, rest, front⟩ := List.exists_cons_of_ne_nil some
  obtain ⟨cut, whole⟩ := front ▸ List.rdropWhile_prefix p (c :: s)
  rw [front, (List.cons.inj whole).1]
  rfl

namespace Service

/-- No text that starts with a slash is accepted as a root, and no empty one. -/
theorem exists_head_of_check {root : String} (accepted : RootUrl.check root = .ok ()) :
    ∃ c ∈ root.toList.head?, c ≠ '/' := by
  have refused (none : RootUrl.splitScheme (RootUrl.significant root.toList) = none) : False := by
    rw [RootUrl.check, none] at accepted
    cases accepted
  rcases h : root.toList with _ | ⟨c, rest⟩
  · rw [h] at refused
    exact (refused rfl).elim
  · refine ⟨c, rfl, ?_⟩
    rintro rfl
    have first : (RootUrl.significant root.toList).head? = some '/' := by
      have trimmed : trimBy (fun c => decide (c.toNat ≤ 0x20)) ('/' :: rest) =
          ('/' :: rest).rdropWhile (fun c => decide (c.toNat ≤ 0x20)) := rfl
      obtain ⟨more, here⟩ := List.head?_eq_some_iff.mp
        (head?_rdropWhile (p := fun c : Char => decide (c.toNat ≤ 0x20)) (c := '/') (s := rest) rfl)
      rw [RootUrl.significant, h, trimmed, here]
      rfl
    obtain ⟨more, opened⟩ := List.head?_eq_some_iff.mp first
    rw [opened] at refused
    exact refused rfl

theorem ofRoot_eq_ok_iff {root : String} {s : Service} :
    ofRoot root = .ok s ↔ RootUrl.check root = .ok () ∧ s = ⟨dropSlashes root⟩ := by
  unfold ofRoot
  constructor
  · intro kept
    split at kept
    · next accepted =>
      cases kept
      exact ⟨accepted, rfl⟩
    · cases kept
  · rintro ⟨accepted, rfl⟩
    rw [accepted]

theorem ofRoot_of_check {root : String} (accepted : (RootUrl.check root).toBool = true) :
    ofRoot root = .ok ⟨dropSlashes root⟩ := by
  refine ofRoot_eq_ok_iff.mpr ⟨?_, rfl⟩
  cases judged : RootUrl.check root with
  | ok => rfl
  | error reason =>
    rw [judged] at accepted
    cases accepted

/-- The base URLs of the service. -/
def bases (s : Service) : List String := [s.storage, s.upload, s.batch]

/-- Every request to a base URL is recorded with the URL if the root is in its printed form and leaves
room for the longest path. -/
theorem isRecorded_bases_iff {root : String} {s : Service} (accepted : ofRoot root = .ok s) :
    (∀ url ∈ s.bases, Http.IsRecorded url) ↔
      Http.Uri.IsBase s.root.toList ∧ (bytes s.upload).length ≤ Http.Uri.maxLength := by
  obtain ⟨judged, rfl⟩ := ofRoot_eq_ok_iff.mp accepted
  have front : (dropSlashes root).toList = root.toList.rdropWhile (· == '/') :=
    String.toList_ofList
  have start : ∃ c ∈ (dropSlashes root).toList.head?, c ≠ '/' := by
    obtain ⟨c, m, other⟩ := exists_head_of_check judged
    obtain ⟨rest, whole⟩ := List.head?_eq_some_iff.mp m
    rw [front, whole]
    exact ⟨c, head?_rdropWhile (by simpa using other), other⟩
  have unclosed : (dropSlashes root).toList.getLast? ≠ some '/' := by
    intro last
    obtain ⟨before, whole⟩ := List.getLast?_eq_some_iff.mp last
    have stays := List.rdropWhile_last_not (· == '/') root.toList
    simp [← front, whole] at stays
  have recorded (path : String) (below : Http.Uri.IsPath path.toList) :
      Http.IsRecorded (dropSlashes root ++ path) ↔ Http.Uri.IsBase (dropSlashes root).toList ∧
        (bytes (dropSlashes root)).length + (bytes path).length ≤ Http.Uri.maxLength := by
    rw [Http.isRecorded_iff, ← List.length_append, ← bytes_append, bytes, String.toList_append,
      ← Http.Uri.isVerbatim_append_iff below start unclosed, ← String.toList_append,
      String.ofList_toList]
  have onStorage := recorded "/storage/v1" (by decide)
  have onUpload := recorded "/upload/storage/v1" (by decide)
  have onBatch := recorded "/batch/storage/v1" (by decide)
  have lengths : (bytes "/storage/v1").length = 11 ∧ (bytes "/upload/storage/v1").length = 18 ∧
      (bytes "/batch/storage/v1").length = 17 := by decide
  simp only [bases, List.forall_mem_cons, storage, upload, batch, onStorage, onUpload, onBatch,
    bytes_append, List.length_append, lengths]
  constructor
  · rintro ⟨_, kept, _⟩
    exact kept
  · rintro ⟨kept, short⟩
    exact ⟨⟨kept, by omega⟩, ⟨kept, short⟩, ⟨kept, by omega⟩, by simp⟩

theorem isRecorded_bases_loopback :
    ofRoot "http://127.0.0.1:5000/" = .ok ⟨"http://127.0.0.1:5000"⟩ ∧
      ∀ url ∈ bases ⟨"http://127.0.0.1:5000"⟩, Http.IsRecorded url := by
  have accepted : ofRoot "http://127.0.0.1:5000/" = .ok ⟨"http://127.0.0.1:5000"⟩ :=
    ofRoot_of_check (by decide +kernel)
  have printed : Http.Uri.IsBase "http://127.0.0.1:5000".toList :=
    ⟨"http".toList, "127.0.0.1:5000".toList, [], by decide,
      ⟨List.all_eq_true.mp (by decide), by decide⟩,
      ⟨by decide, by simp [Http.Uri.endsAuthority], rfl⟩, by simp, ⟨by simp, by simp, by simp⟩⟩
  exact ⟨accepted, (isRecorded_bases_iff accepted).2 ⟨printed, by decide⟩⟩

/-- A scheme in capitals is accepted and kept, but recorded in lower case. -/
theorem not_isRecorded_capitals :
    ofRoot "HTTP://127.0.0.1:5000" = .ok ⟨"HTTP://127.0.0.1:5000"⟩ ∧
      (Http.Uri.parse "HTTP://127.0.0.1:5000/storage/v1").map Http.Uri.text =
        .ok "http://127.0.0.1:5000/storage/v1" ∧
      ¬∀ url ∈ bases ⟨"HTTP://127.0.0.1:5000"⟩, Http.IsRecorded url := by
  have printed : (Http.Uri.parse "HTTP://127.0.0.1:5000/storage/v1").map Http.Uri.text =
      .ok "http://127.0.0.1:5000/storage/v1" := rfl
  refine ⟨ofRoot_of_check (by decide +kernel), printed, fun recorded => ?_⟩
  obtain ⟨u, read, same⟩ := Http.isRecorded_iff.1
    (recorded "HTTP://127.0.0.1:5000/storage/v1" (by simp [bases, storage]))
  rw [read] at printed
  exact absurd ((Except.ok.inj printed).symm.trans same) (by decide)

/-- Without slashes after the scheme it is accepted too, and no request to it can be built. -/
example : (RootUrl.check "http:127.0.0.1").toBool = true ∧
    (Http.Uri.parse "http:127.0.0.1/storage/v1").toBool = false := by decide +kernel

end Service
end RequestTrail
