import RequestTrail.Proofs.Normalizer.Plain
import RequestTrail.Proofs.Normalizer.TokenEqual

/-! What normalizing leaves as it is. A text is settled at a position when every token in it is the
placeholder of the position. Normalized texts are settled, and settled texts are their own normal form. -/
namespace RequestTrail

open Text Parameter

/-- Normalizing changes nothing but tokens. -/
theorem sameButTokens_normalizeAt (position : Nat) (x : String) :
    SameButTokens x (normalizeAt position x) := by
  refine ⟨by simp [fields_normalizeAt], fun i s t hs ht => ?_⟩
  rw [fields_normalizeAt, List.getElem?_mapIdx, hs] at ht
  obtain rfl := Option.some.inj ht
  exact TokenEqual.rewrite_right position (i == 0) s

/-- An earlier normalization leaves no trace in a later one. -/
theorem normalizeAt_normalizeAt (position earlier : Nat) (x : String) :
    normalizeAt position (normalizeAt earlier x) = normalizeAt position x :=
  ((normalizeAt_eq_iff position _ _).mpr (sameButTokens_normalizeAt earlier x)).symm

/-- No value, or the placeholder of the position. -/
def Parameter.IsNumbered (p : Parameter) (position : Nat) (value : List Char) : Prop :=
  value = [] ∨ value = p.placeholder ++ (toString position).toList

namespace Segment

variable {position : Nat} {leads : Bool} {s pre value : List Char}

/-- Every token in a segment is the placeholder of the position. -/
structure Settled (position : Nat) (leads : Bool) (s : List Char) : Prop where
  page : leads = false → ∀ value, s = pageName ++ value →
    Parameter.pageToken.IsNumbered position value
  generation : ∀ before value, HasGenerationToken before value s →
    generationMatch.IsNumbered position value

theorem settled_of_rewrite (same : rewrite position leads s = s) : Settled position leads s := by
  refine ⟨fun later value whole => ?_, fun before value h => Or.inr ?_⟩
  · by_cases empty : value = []
    · exact Or.inl empty
    have token : isPageToken s = true := isPageToken_iff.mpr ⟨value, empty, whole⟩
    rw [later, rewrite_of_isPageToken token, whole, Segment.pageToken, List.append_assoc] at same
    exact Or.inr (List.append_cancel_left same).symm
  · by_cases token : leads = false ∧ isPageToken s = true
    · rw [token.1, rewrite_of_isPageToken token.2] at same
      have absent : 'M' ∉ s := same ▸ not_mem_append_toString position (by decide) (by decide)
      exact absurd (by simp [h.whole]) absent
    · have other : leads = true ∨ isPageToken s = false := by
        cases leads <;> simp_all
      obtain ⟨cut, nonempty⟩ := HasGenerationToken.iff_cut.mp h
      rw [rewrite_of_cut other cut nonempty, h.whole, numbered, List.append_assoc] at same
      exact (List.append_cancel_left (List.append_cancel_left same)).symm

theorem Settled.rewrite_eq (settled : Settled position leads s) : rewrite position leads s = s := by
  by_cases token : leads = false ∧ isPageToken s = true
  · obtain ⟨rfl, token⟩ := token
    obtain ⟨value, nonempty, whole⟩ := isPageToken_iff.mp token
    have numbered := (settled.page rfl value whole).resolve_left nonempty
    rw [rewrite_of_isPageToken token, whole, numbered, Segment.pageToken, List.append_assoc]
  have other : leads = true ∨ isPageToken s = false := by
    cases leads <;> simp_all
  by_cases found : ∃ before value, HasGenerationToken before value s
  · obtain ⟨before, value, h⟩ := found
    obtain ⟨cut, nonempty⟩ := HasGenerationToken.iff_cut.mp h
    have value_eq := (settled.generation before value h).resolve_left nonempty
    rw [rewrite_of_cut other cut nonempty, h.whole, value_eq, numbered, List.append_assoc]
    rfl
  · refine rewrite_of_bare other (fun before value cut => ?_) position
    by_contra nonempty
    exact found ⟨before, value, HasGenerationToken.iff_cut.mpr ⟨cut, nonempty⟩⟩

theorem settled_iff_rewrite_eq : Settled position leads s ↔ rewrite position leads s = s :=
  ⟨Settled.rewrite_eq, settled_of_rewrite⟩

/-- A placeholder has no equals sign, so where a segment is settled its last opening is its first. -/
theorem Settled.isNumbered (settled : Settled position leads s)
    (whole : s = pre ++ (generationMatch.opening ++ value)) :
    generationMatch.IsNumbered position value := by
  by_cases empty : value = []
  · exact Or.inl empty
  obtain ⟨before, value', h⟩ := HasGenerationToken.exists_of_opening whole empty
  have numbered := settled.generation before value' h
  have free : '=' ∉ value' := by
    rcases numbered with rfl | rfl
    · exact List.not_mem_nil
    · exact not_mem_append_toString position (by decide) (by decide)
  -- The equals sign of this opening is not in the value of the first one, so it ends the first one.
  have same : (pre ++ "ifGenerationMatch".toList) ++ '=' :: value =
      (before ++ generationMatch.opening) ++ value' := by
    calc (pre ++ "ifGenerationMatch".toList) ++ '=' :: value
      _ = s := by simp only [whole, opening_generationMatch, List.append_assoc, List.singleton_append]
      _ = (before ++ generationMatch.opening) ++ value' := by rw [List.append_assoc]; exact h.whole
  obtain ⟨rest, first, rfl⟩ := append_cons_eq_append free same
  have lengths := congrArg List.length first
  have early := h.length_le whole
  have opening : generationMatch.opening.length = "ifGenerationMatch".toList.length + 1 := by decide
  simp only [List.length_append, List.length_cons, opening] at lengths
  obtain rfl : rest = [] := List.eq_nil_of_length_eq_zero (by omega)
  exact numbered

theorem settled_of_not_mem (free : '=' ∉ s) : Settled position leads s := by
  refine ⟨fun _ value whole => ?_, fun before value h => ?_⟩
  · have assigned : '=' ∈ pageName := by decide
    exact absurd (whole ▸ List.mem_append_left value assigned) free
  · have assigned : '=' ∈ generationMatch.opening := by decide
    exact absurd (h.whole ▸ List.mem_append_right before (List.mem_append_left value assigned)) free

/-- A segment that is one parameter. Its name ends at the only equals sign. -/
theorem settled_parameter {name value : String} (plainName : IsPlain name) (plainValue : IsPlain value) :
    Settled position leads (name ++ "=" ++ value).toList ↔
      (leads = false → name = "pageToken" → Parameter.pageToken.IsNumbered position value.toList) ∧
      ("ifGenerationMatch".toList <:+ name.toList →
        generationMatch.IsNumbered position value.toList) := by
  have whole : (name ++ "=" ++ value).toList = name.toList ++ '=' :: value.toList := by simp
  rw [whole]
  constructor
  · refine fun settled => ⟨fun later named => settled.page later _ ?_, fun ⟨pre, ends⟩ => ?_⟩
    · rw [named]
      rfl
    · have opened : name.toList ++ '=' :: value.toList =
          pre ++ (generationMatch.opening ++ value.toList) := by
        rw [← ends, opening_generationMatch]
        simp only [List.append_assoc, List.singleton_append]
      exact settled.isNumbered opened
  · rintro ⟨page, generation⟩
    refine ⟨fun later value' same => ?_, fun before value' h => ?_⟩
    · have split : name.toList ++ '=' :: value.toList = "pageToken".toList ++ '=' :: value' := same
      obtain ⟨named, rfl⟩ := append_cons_inj plainName.assigns (by decide) split
      exact page later (String.toList_inj.mp named)
    · have split : name.toList ++ '=' :: value.toList =
          (before ++ "ifGenerationMatch".toList) ++ '=' :: value' := by
        have opened : name.toList ++ '=' :: value.toList =
            before ++ (generationMatch.opening ++ value') := h.whole
        rw [opened, opening_generationMatch]
        simp only [List.append_assoc, List.singleton_append]
      -- With one equals sign in all, the name before it is the whole name of the parameter.
      have once := congrArg (List.count '=') split
      simp only [List.count_append, List.count_cons_self, List.count_eq_zero.mpr plainName.assigns,
        List.count_eq_zero.mpr plainValue.assigns] at once
      have free : '=' ∉ before ++ "ifGenerationMatch".toList := by
        rw [← List.count_eq_zero, List.count_append]
        omega
      obtain ⟨named, rfl⟩ := append_cons_inj plainName.assigns free split
      exact generation ⟨before, named.symm⟩

end Segment

/-- Every token in the text is the placeholder of the position. -/
def Settled (position : Nat) (x : String) : Prop :=
  ∀ i s, (fields '&' x.toList)[i]? = some s → Segment.Settled position (i == 0) s

theorem mapIdx_eq_self_iff {α : Type} {f : Nat → α → α} {xs : List α} :
    xs.mapIdx f = xs ↔ ∀ i x, xs[i]? = some x → f i x = x := by
  rw [mapIdx_eq_iff, and_iff_right rfl]
  refine forall₂_congr fun i x => ⟨fun same here => same x here here, ?_⟩
  rintro fixed _ here there
  obtain rfl := Option.some.inj (here.symm.trans there)
  exact fixed here

/-- The settled texts are the normal forms. -/
theorem normalizeAt_eq_self_iff {position : Nat} {x : String} :
    normalizeAt position x = x ↔ Settled position x := by
  rw [normalizeAt_eq_iff_fields, mapIdx_eq_self_iff]
  simp only [← Segment.settled_iff_rewrite_eq]
  rfl

namespace Settled

variable {position : Nat} {x name value : String} {head : List Char} {others : List (List Char)}

theorem iff_of_fields (split : fields '&' x.toList = head :: others) : Settled position x ↔
    Segment.Settled position true head ∧ ∀ s ∈ others, Segment.Settled position false s := by
  constructor
  · refine fun settled => ⟨settled 0 head (by simp [split]), fun s m => ?_⟩
    obtain ⟨i, here⟩ := List.getElem?_of_mem m
    exact settled (i + 1) s (by simp [split, here])
  · rintro ⟨first, rest⟩ i s here
    rw [split] at here
    cases i with
    | zero =>
      obtain rfl := Option.some.inj here
      exact first
    | succ i => exact rest s (List.mem_of_getElem? here)

theorem of_isPlain (plain : IsPlain x) : Settled position x :=
  (iff_of_fields (fields_of_not_mem plain.joins)).mpr
    ⟨Segment.settled_of_not_mem plain.assigns, List.forall_mem_nil _⟩

theorem first (plainName : IsPlain name) (plainValue : IsPlain value) :
    Settled position (name ++ "=" ++ value) ↔
      ("ifGenerationMatch".toList <:+ name.toList →
        generationMatch.IsNumbered position value.toList) := by
  have plain : '&' ∉ (name ++ "=" ++ value).toList := by simp [plainName.joins, plainValue.joins]
  rw [iff_of_fields (fields_of_not_mem plain), Segment.settled_parameter plainName plainValue]
  simp

theorem next (plainName : IsPlain name) (plainValue : IsPlain value) :
    Settled position (x ++ ("&" ++ name ++ "=" ++ value)) ↔ Settled position x ∧
      (name = "pageToken" → Parameter.pageToken.IsNumbered position value.toList) ∧
      ("ifGenerationMatch".toList <:+ name.toList →
        generationMatch.IsNumbered position value.toList) := by
  obtain ⟨head, others, split⟩ := exists_fields_eq_cons '&' x.toList
  have free : '&' ∉ (name ++ "=" ++ value).toList := by simp [plainName.joins, plainValue.joins]
  have grown : fields '&' (x ++ ("&" ++ name ++ "=" ++ value)).toList =
      head :: (others ++ [(name ++ "=" ++ value).toList]) := by
    rw [← List.cons_append, ← split, ← fields_of_not_mem free, ← fields_append_separator]
    simp
  rw [iff_of_fields grown, iff_of_fields split]
  simp only [List.forall_mem_append, List.forall_mem_singleton, and_assoc,
    Segment.settled_parameter plainName plainValue, true_implies]

/-- A value of a generation token in a settled text, up to an ampersand or the end. -/
theorem isNumbered (settled : Settled position x) {start value rest : List Char}
    (whole : x.toList = start ++ (generationMatch.opening ++ value) ++ rest) (free : '&' ∉ value)
    (stops : rest = [] ∨ ∃ more, rest = '&' :: more) : generationMatch.IsNumbered position value := by
  obtain ⟨others, last, before⟩ := exists_fields_eq_append '&' start
  have freeTail : '&' ∉ generationMatch.opening ++ value :=
    fun h => (List.mem_append.mp h).elim (by decide) free
  have grown := fields_append_of_not_mem before freeTail
  have here : (fields '&' x.toList)[others.length]? = some (last ++ (generationMatch.opening ++ value)) := by
    rcases stops with rfl | ⟨more, rfl⟩
    · rw [whole, List.append_nil, grown]
      simp
    · rw [whole, fields_append_separator, grown]
      simp
  exact (settled _ _ here).isNumbered rfl

end Settled

end RequestTrail
