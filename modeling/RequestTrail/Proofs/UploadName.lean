import RequestTrail.Proofs.Normalizer.Plain
import RequestTrail.Proofs.Normalizer.TokenEqual
import RequestTrail.Trail

/-! Whether the name of an uploaded object survives rendering. It stands at the end of its line, after
method and URI. Where these end inside the value of a token, the name is taken for more of the value and
a placeholder stands for both. Everywhere else it is kept. -/
namespace RequestTrail

open Text Parameter

/-- The text ends inside a value of the parameter. -/
def Parameter.EndsIn (p : Parameter) (s : List Char) : Prop :=
  ∃ start value, '&' ∉ value ∧ s = start ++ (p.opening ++ value)

/-- The text ends inside the value of a token, which takes in whatever is added to it. -/
def OpenEnded (s : String) : Prop := pageToken.EndsIn s.toList ∨ generationMatch.EndsIn s.toList

/-- The line of a record without an object name. -/
def Record.address (r : Record) : String := r.method ++ ":" ++ r.uri

namespace Segment

variable {leads : Bool} {s v w : List Char} {position : Nat}

/-- A segment that ends inside the value of a token. -/
def IsOpen (leads : Bool) (s : List Char) : Prop :=
  leads = false ∧ pageName <+: s ∨ generationMatch.opening <:+: s

theorem isPageToken_append (named : pageName <+: s) (nonempty : v ≠ []) :
    isPageToken (s ++ v) = true := by
  obtain ⟨value, rfl⟩ := named
  exact isPageToken_iff.mpr ⟨value ++ v, by simp [nonempty], List.append_assoc ..⟩

/-- Both openings end with an equals sign, so they stand before a text that has none. -/
theorem isOpen_of_append (free : '=' ∉ v) (found : leads = false ∧ isPageToken (s ++ v) = true ∨
    generationMatch.opening <:+: s ++ v) : IsOpen leads s := by
  rcases found with ⟨later, token⟩ | ⟨before, value, same⟩
  · obtain ⟨value, _, same⟩ := isPageToken_iff.mp token
    rw [pageName_eq, List.append_assoc] at same
    obtain ⟨rest, rfl, _⟩ := append_cons_eq_append free same.symm
    exact Or.inl ⟨later, rest, by rw [pageName_eq, List.append_assoc]; rfl⟩
  · rw [opening_generationMatch, ← List.append_assoc before, List.append_assoc _ ['=']] at same
    obtain ⟨rest, rfl, _⟩ := append_cons_eq_append free same
    exact Or.inr ⟨before, rest, by simp [opening_generationMatch]⟩

theorem rewrite_append_of_closed (closed : ¬IsOpen leads s) (free : '=' ∉ v) :
    rewrite position leads (s ++ v) = s ++ v := by
  refine rewrite_of_bare ?_ (fun before value cut => ?_) position
  · by_contra token
    simp only [not_or, Bool.not_eq_true, Bool.not_eq_false] at token
    exact closed (isOpen_of_append free (Or.inl token))
  · obtain ⟨_, same, _⟩ := cutAtFirst_eq_some_iff.mp cut
    have found : generationMatch.opening <:+: s ++ v := ⟨before, value, by rw [same, List.append_assoc]⟩
    exact absurd (isOpen_of_append free (Or.inr found)) closed

theorem tokenEqual_append (isOpen : IsOpen leads s) (nonemptyV : v ≠ []) (nonemptyW : w ≠ []) :
    TokenEqual leads (s ++ v) (s ++ w) := by
  rcases isOpen with ⟨later, named⟩ | ⟨before, value, rfl⟩
  · exact .of_isPageToken later (isPageToken_append named nonemptyV) (isPageToken_append named nonemptyW)
  · simp only [List.append_assoc]
    exact .append_opening leads (by simp [nonemptyV]) (by simp [nonemptyW])

/-- What an open segment becomes ends with a placeholder, which has an equals sign and no colon. -/
theorem exists_suffix_rewrite (isOpen : IsOpen leads s) (nonempty : v ≠ []) (position : Nat) :
    ∃ placeholder, '=' ∈ placeholder ∧ ':' ∉ placeholder ∧
      placeholder <:+ rewrite position leads (s ++ v) := by
  -- A page token is replaced as a whole, also where a generation token stands in its value.
  by_cases token : leads = false ∧ isPageToken (s ++ v) = true
  · obtain ⟨rfl, token⟩ := token
    rw [rewrite_of_isPageToken token]
    have assigned : '=' ∈ Segment.pageToken position := by simp [Segment.pageToken, pageName_eq]
    exact ⟨_, assigned, not_mem_append_toString position (by decide) (by decide), List.suffix_rfl⟩
  have other : leads = true ∨ isPageToken (s ++ v) = false := by
    cases leads <;> simp_all
  rcases isOpen with ⟨later, named⟩ | ⟨before, value, rfl⟩
  · exact absurd ⟨later, isPageToken_append named nonempty⟩ token
  have whole : before ++ generationMatch.opening ++ value ++ v =
      before ++ (generationMatch.opening ++ (value ++ v)) := by simp only [List.append_assoc]
  obtain ⟨before', value', first⟩ := HasGenerationToken.exists_of_opening whole
    (List.append_ne_nil_of_right_ne_nil value nonempty)
  obtain ⟨cut, nonempty'⟩ := HasGenerationToken.iff_cut.mp first
  rw [rewrite_of_cut other cut nonempty']
  have assigned : '=' ∈ generationMatch.numbered position := by
    simp [numbered, opening_generationMatch]
  exact ⟨_, assigned, not_mem_append_toString position (by decide) (by decide), List.suffix_append ..⟩

end Segment

open Segment

/-- A text is open-ended when its last segment is open. -/
theorem openEnded_iff {s : String} {others : List (List Char)} {last : List Char}
    (split : fields '&' s.toList = others ++ [last]) :
    OpenEnded s ↔ IsOpen (others.length == 0) last := by
  constructor
  · rintro (⟨start, value, free, whole⟩ | ⟨start, value, free, whole⟩)
    · have freeLast : '&' ∉ pageName ++ value := fun h => (List.mem_append.mp h).elim (by decide) free
      rw [whole, opening_pageToken, List.cons_append, fields_append_separator,
        fields_of_not_mem freeLast] at split
      obtain ⟨rfl, same⟩ := List.append_inj' split rfl
      obtain rfl := List.singleton_inj.mp same
      have later : (fields '&' start).length ≠ 0 := by simpa using fields_ne_nil '&' start
      exact Or.inl ⟨beq_eq_false_iff_ne.mpr later, List.prefix_append _ _⟩
    · obtain ⟨others', last', before⟩ := exists_fields_eq_append '&' start
      have freeTail : '&' ∉ generationMatch.opening ++ value :=
        fun h => (List.mem_append.mp h).elim (by decide) free
      rw [whole, fields_append_of_not_mem before freeTail] at split
      obtain ⟨rfl, same⟩ := List.append_inj' split rfl
      obtain rfl := List.singleton_inj.mp same
      exact Or.inr ⟨last', value, List.append_assoc ..⟩
  · have freeLast : '&' ∉ last := separator_not_mem_field (by rw [split]; simp)
    rintro (⟨later, value, rfl⟩ | ⟨before, value, rfl⟩)
    · rcases fields_eq_append_singleton split with ⟨rfl, _⟩ | ⟨before, _, whole⟩
      · cases later
      · refine Or.inl ⟨before, value, fun h => freeLast (by simp [h]), ?_⟩
        rw [whole, opening_pageToken, List.cons_append]
    · have free : '&' ∉ value := fun h => freeLast (by simp [h])
      rcases fields_eq_append_singleton split with ⟨_, whole⟩ | ⟨start, _, whole⟩
      · exact Or.inr ⟨before, value, free, by rw [whole, List.append_assoc]⟩
      · exact Or.inr ⟨start ++ '&' :: before, value, free, by rw [whole]; simp⟩

/-- Only the last segment sees what is added at the end. -/
theorem fields_normalizeAt_append {s v : String} {others : List (List Char)} {last : List Char}
    (split : fields '&' s.toList = others ++ [last]) (free : '&' ∉ v.toList) (position : Nat) :
    fields '&' (normalizeAt position (s ++ v)).toList =
      others.mapIdx (fun i t => rewrite position (i == 0) t) ++
        [rewrite position (others.length == 0) (last ++ v.toList)] := by
  rw [fields_normalizeAt, String.toList_append, fields_append_of_not_mem split free]
  simp

theorem normalizeAt_append_of_closed {s v : String} (closed : ¬OpenEnded s) (plain : IsPlain v)
    (position : Nat) : normalizeAt position (s ++ v) = normalizeAt position s ++ v := by
  obtain ⟨others, last, split⟩ := exists_fields_eq_append '&' s.toList
  have kept := mt (openEnded_iff split).mpr closed
  have alone : fields '&' (normalizeAt position s).toList =
      others.mapIdx (fun i t => rewrite position (i == 0) t) ++ [last] := by
    have whole := fields_normalizeAt_append (v := "") split List.not_mem_nil position
    rwa [String.append_empty, String.toList_empty, rewrite_append_of_closed kept List.not_mem_nil,
      List.append_nil] at whole
  rw [← String.toList_inj, ← (fields_injective '&').eq_iff,
    fields_normalizeAt_append split plain.joins, String.toList_append,
    fields_append_of_not_mem alone plain.joins, rewrite_append_of_closed kept plain.assigns]

/-- What is added to an open-ended text is forgotten. -/
theorem normalizeAt_append_of_openEnded {s v w : String} (openEnded : OpenEnded s)
    (freeV : '&' ∉ v.toList) (freeW : '&' ∉ w.toList) (nonemptyV : v ≠ "") (nonemptyW : w ≠ "")
    (position : Nat) : normalizeAt position (s ++ v) = normalizeAt position (s ++ w) := by
  obtain ⟨others, last, split⟩ := exists_fields_eq_append '&' s.toList
  have grown {t : String} (free : '&' ∉ t.toList) :
      fields '&' (s ++ t).toList = others ++ [last ++ t.toList] := by
    rw [String.toList_append, fields_append_of_not_mem split free]
  have isOpen := (openEnded_iff split).mp openEnded
  refine (normalizeAt_eq_iff position _ _).mpr (.of_fields (grown freeV) (grown freeW) ?_)
  exact tokenEqual_append isOpen (by simpa using nonemptyV) (by simpa using nonemptyW)

/-- The end of a normalized open-ended text is a placeholder, which is no name after a colon. -/
theorem not_suffix_of_openEnded {s name : String} (openEnded : OpenEnded s) (plain : IsPlain name)
    (position : Nat) :
    ¬(':' :: name.toList) <:+ (normalizeAt position (s ++ (":" ++ name))).toList := by
  obtain ⟨others, last, split⟩ := exists_fields_eq_append '&' s.toList
  have isOpen := (openEnded_iff split).mp openEnded
  have free : '&' ∉ (":" ++ name).toList := by simp [plain.joins]
  obtain ⟨placeholder, assigned, noColon, ends⟩ :=
    exists_suffix_rewrite isOpen (v := (":" ++ name).toList) (by simp) position
  have whole := fields_normalizeAt_append split free position
  have atEnd : placeholder <:+ (normalizeAt position (s ++ (":" ++ name))).toList := by
    rcases fields_eq_append_singleton whole with ⟨_, same⟩ | ⟨before, _, same⟩
    · exact same ▸ ends
    · exact same ▸ ends.trans ((List.suffix_cons ..).trans (List.suffix_append ..))
  -- Of two ends of one text one ends the other: a colon would be in the placeholder, or an equals
  -- sign in the name.
  intro named
  rcases List.suffix_or_suffix_of_suffix named atEnd with inside | outside
  · exact noColon (inside.subset List.mem_cons_self)
  · have : '=' ∈ ':' :: name.toList := outside.subset assigned
    simp [plain.assigns] at this

theorem Record.canonical_of_objectName? {r : Record} {name : String}
    (named : r.objectName? = some name) : r.canonical = r.address ++ (":" ++ name) := by
  simp [canonical, address, named]

variable {requests : List Record} {position : Nat} {r : Record} {name : String}

/-- A plain object name ends the line of its upload, unless method and URI are open-ended. Uploads with
the same method and URI are told apart by their names in just the same cases. -/
theorem name_suffix_render_iff (here : requests[position]? = some r)
    (named : r.objectName? = some name) (plain : IsPlain name) :
    (∃ line, (render requests)[position]? = some line ∧
      ((':' :: name.toList) <:+ line.toList ↔ ¬OpenEnded r.address)) ∧
    ∀ (others : List Record) (r' : Record) (name' : String), others[position]? = some r' →
      r'.objectName? = some name' → IsPlain name' → r'.method = r.method → r'.uri = r.uri →
      ((render others)[position]? = (render requests)[position]? ↔
        name' = name ∨ OpenEnded r.address) := by
  have plainAfter {n : String} (h : IsPlain n) : IsPlain (":" ++ n) :=
    ⟨by simp [h.joins], by simp [h.assigns]⟩
  have shown {rs : List Record} {u : Record} {n : String} (at' : rs[position]? = some u)
      (called : u.objectName? = some n) :
      (render rs)[position]? = some (normalizeAt position (u.address ++ (":" ++ n))) := by
    rw [getElem?_render, at', Option.map_some, Record.canonical_of_objectName? called]
  constructor
  · refine ⟨_, shown here named, ?_⟩
    refine ⟨fun ends openEnded => not_suffix_of_openEnded openEnded plain position ends,
      fun closed => ?_⟩
    rw [normalizeAt_append_of_closed closed (plainAfter plain)]
    simp [List.suffix_append]
  · intro others r' name' there named' plain' method uri
    have address : r'.address = r.address := by rw [Record.address, method, uri, Record.address]
    rw [shown here named, shown there named', Option.some_inj, address]
    by_cases openEnded : OpenEnded r.address
    · have same := normalizeAt_append_of_openEnded (v := ":" ++ name') (w := ":" ++ name) openEnded
        (plainAfter plain').joins (plainAfter plain).joins (by simp) (by simp) position
      exact iff_of_true same (Or.inr openEnded)
    · rw [normalizeAt_append_of_closed openEnded (plainAfter plain),
        normalizeAt_append_of_closed openEnded (plainAfter plain')]
      simp [openEnded]

/-- An upload of an object under the name, by a request whose last parameter is the generation. -/
def uploadAt (name : String) : Record where
  method := "POST"
  uri := "https://h/upload/b/x/o?uploadType=multipart&ifGenerationMatch=0"
  headers := [("content-type", "multipart/related; boundary=xyz")]
  body := bytes <| "--xyz\r\n\r\n\x7b\"name\":\"" ++ name ++ "\"\x7d\r\n--xyz\r\n\r\ndata\r\n--xyz--"

theorem objectName?_uploadAt : (uploadAt "first").objectName? = some "first" ∧
    (uploadAt "second").objectName? = some "second" :=
  ⟨by decide +kernel, by decide +kernel⟩

theorem address_uploadAt (name : String) : (uploadAt name).address =
    "POST:https://h/upload/b/x/o?uploadType=multipart&" ++ "ifGenerationMatch=0" := by
  change "POST" ++ ":" ++ (uploadAt "").uri = _
  decide +kernel

theorem openEnded_uploadAt (name : String) : OpenEnded (uploadAt name).address := by
  rw [address_uploadAt]
  exact Or.inr ⟨_, ['0'], by decide, String.toList_append⟩

/-- Two objects uploaded under one generation have the same line. -/
theorem name_suffix_render_iff_uploadAt :
    ((uploadAt "first").objectName? = some "first" ∧ (uploadAt "second").objectName? = some "second") ∧
      (render [uploadAt "second"])[0]? = (render [uploadAt "first"])[0]? ∧
      ∃ line, (render [uploadAt "first"])[0]? = some line ∧ ¬":first".toList <:+ line.toList := by
  obtain ⟨first, second⟩ := objectName?_uploadAt
  have here : [uploadAt "first"][0]? = some (uploadAt "first") := rfl
  have openEnded := openEnded_uploadAt "first"
  obtain ⟨⟨line, shown, ends⟩, alike⟩ := name_suffix_render_iff here first ⟨by decide, by decide⟩
  have same := alike [uploadAt "second"] _ "second" rfl second ⟨by decide, by decide⟩ rfl rfl
  refine ⟨⟨first, second⟩, same.mpr (Or.inr openEnded), line, shown, fun named => ?_⟩
  exact ends.mp named openEnded

/-- The name is taken for more of the generation, and lost with it. -/
theorem name_not_suffix_render_uploadAt :
    let line := "POST:https://h/upload/b/x/o?uploadType=multipart&ifGenerationMatch=GenerationMatch_token_0"
    ((uploadAt "first").objectName? = some "first" ∧ (uploadAt "second").objectName? = some "second") ∧
      (render [uploadAt "first"])[0]? = some line ∧ (render [uploadAt "second"])[0]? = some line ∧
      ¬":first".toList <:+ line.toList := by
  intro line
  have cut : normalizeAt 0 ("POST:https://h/upload/b/x/o?uploadType=multipart&" ++
      "ifGenerationMatch=0" ++ ":") = line := normalizeAt_eq_iff_fields.mpr (by decide +kernel)
  have shown {name : String} (named : (uploadAt name).objectName? = some name)
      (free : '&' ∉ (":" ++ name).toList) : (render [uploadAt name])[0]? = some line := by
    have forgotten := normalizeAt_append_of_openEnded (openEnded_uploadAt name) free
      (w := ":") (by decide) (by simp) (by decide) 0
    have whole : normalizeAt 0 (uploadAt name).canonical = line := by
      rw [Record.canonical_of_objectName? named, forgotten, address_uploadAt, cut]
    rw [getElem?_render]
    exact congrArg some whole
  obtain ⟨first, second⟩ := objectName?_uploadAt
  exact ⟨⟨first, second⟩, shown first (by decide), shown second (by decide), by decide +kernel⟩

end RequestTrail
