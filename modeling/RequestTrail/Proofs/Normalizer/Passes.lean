import RequestTrail.Proofs.Normalizer.Settled

/-! Normalizing more than once, and its two passes one by one. A placeholder is a token like any other,
so a later normalization puts its own number there. The passes do not meet: in a page token nothing but
its number is left to be seen, and what the other pass does elsewhere makes no segment a page token and
keeps none from being one. -/
namespace RequestTrail

open Text Parameter

/-- Lines that were normalized before, at whatever positions, are normalized like the lines they came
from. -/
theorem normalize_absorbs :
    (∀ (x : String) (earlier position : Nat),
      normalizeAt position (normalizeAt earlier x) = normalizeAt position x) ∧
    (∀ xs : List String, normalize (normalize xs) = normalize xs) ∧
    ∀ before xs after : List String,
      normalize (before ++ normalize xs ++ after) = normalize (before ++ xs ++ after) := by
  have among (before xs after : List String) :
      normalize (before ++ normalize xs ++ after) = normalize (before ++ xs ++ after) := by
    have again : (xs.mapIdx normalizeAt).mapIdx (fun i => normalizeAt (i + before.length)) =
        xs.mapIdx fun i => normalizeAt (i + before.length) := by
      rw [List.mapIdx_mapIdx]
      congr 1
      funext i x
      exact normalizeAt_normalizeAt (i + before.length) i x
    simp only [normalize, List.mapIdx_append, List.length_append, List.length_mapIdx, again]
  refine ⟨fun x earlier position => normalizeAt_normalizeAt position earlier x, fun xs => ?_, among⟩
  simpa using among [] xs []

namespace Segment

variable {s : List Char}

/-- Replacing generation tokens makes no page token and unmakes none. -/
theorem isPageToken_replace (free : '&' ∉ s) (number : Nat) :
    isPageToken (generationMatch.replace number s) = isPageToken s := by
  rw [replace_generationMatch free (Or.inl rfl)]
  have same := TokenEqual.rewrite_right number true s
  exact Bool.eq_iff_iff.mpr ⟨same.symm.isPageToken_right, same.isPageToken_right⟩

/-- In one segment the passes may change places. -/
theorem withPageToken_replace (free : '&' ∉ s) (page generation : Nat) :
    withPageToken page (generationMatch.replace generation s) =
      generationMatch.replace generation (withPageToken page s) := by
  rw [withPageToken, withPageToken, isPageToken_replace free]
  split
  · rw [replace_generationMatch_pageToken]
  · rfl

end Segment

/-- The order of the passes makes no difference, even where a token stands inside another: a page token
shows the number of the one pass only, and every other segment that of the other. -/
theorem replace_comm (s : List Char) (page generation : Nat) :
    generationMatch.replace generation (pageToken.replace page s) =
      pageToken.replace page (generationMatch.replace generation s) ∧
    fields '&' (generationMatch.replace generation (pageToken.replace page s)) =
      (fields '&' s).mapIdx fun i t => if i ≠ 0 ∧ Segment.isPageToken t = true
        then Segment.pageToken page else generationMatch.replace generation t := by
  have pageFirst : fields '&' (generationMatch.replace generation (pageToken.replace page s)) =
      (fields '&' s).mapIdx fun i t => generationMatch.replace generation
        (if i = 0 then t else Segment.withPageToken page t) := by
    rw [fields_replace_generationMatch, fields_replace_pageToken, map_eq_mapIdx, List.mapIdx_mapIdx]
    rfl
  have generationFirst : fields '&' (pageToken.replace page (generationMatch.replace generation s)) =
      (fields '&' s).mapIdx fun i t => if i = 0 then generationMatch.replace generation t
        else Segment.withPageToken page (generationMatch.replace generation t) := by
    rw [fields_replace_pageToken, fields_replace_generationMatch, map_eq_mapIdx, List.mapIdx_mapIdx]
    rfl
  constructor
  · apply fields_injective '&'
    rw [pageFirst, generationFirst, List.mapIdx_eq_mapIdx_iff]
    intro i inside
    have free : '&' ∉ (fields '&' s)[i] := separator_not_mem_field (List.getElem_mem inside)
    split
    · rfl
    · exact (Segment.withPageToken_replace free page generation).symm
  · rw [pageFirst, List.mapIdx_eq_mapIdx_iff]
    intro i _
    by_cases leads : i = 0
    · simp [leads]
    · by_cases token : Segment.isPageToken (fields '&' s)[i] = true
      · simp [leads, token, Segment.withPageToken, Segment.replace_generationMatch_pageToken]
      · simp [leads, token, Segment.withPageToken]

/-- A generation token inside a page token, and a page token after a generation token. -/
example : pageToken.replace 10 (generationMatch.replace 7
      "a&pageToken=ifGenerationMatch=5&ifGenerationMatch=x&pageToken=".toList) =
    "a&pageToken=token_10&ifGenerationMatch=GenerationMatch_token_7&pageToken=".toList := by
  decide +kernel

end RequestTrail
