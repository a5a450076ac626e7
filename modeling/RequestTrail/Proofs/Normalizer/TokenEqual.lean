import RequestTrail.Proofs.Normalizer.Segments

/-! What normalizing forgets. Texts that differ in the values of their tokens alone are normalized
alike, and no other texts are: a placeholder is itself a token, so a segment is never far from what
it becomes. -/
namespace RequestTrail

open Text Parameter Segment

/-- A value follows the first opening of a generation token. -/
structure HasGenerationToken (before value s : List Char) : Prop where
  whole : s = before ++ ("ifGenerationMatch=".toList ++ value)
  first : ∀ j < before.length, ¬"ifGenerationMatch=".toList <+: s.drop j
  nonempty : value ≠ []

/-- Segments at one place of two texts that differ in nothing but the value of a token. The segment
that leads a text is never a page token. -/
inductive TokenEqual (leads : Bool) : List Char → List Char → Prop where
  | refl (s : List Char) : TokenEqual leads s s
  | pageToken {v w : List Char} : leads = false → v ≠ [] → w ≠ [] →
      TokenEqual leads ("pageToken=".toList ++ v) ("pageToken=".toList ++ w)
  | generation {before v w s t : List Char} : HasGenerationToken before v s →
      HasGenerationToken before w t → TokenEqual leads s t

/-- As many segments, and token-equal ones at each place. -/
structure SameButTokens (x y : String) : Prop where
  length : (fields '&' x.toList).length = (fields '&' y.toList).length
  segment : ∀ i s t, (fields '&' x.toList)[i]? = some s → (fields '&' y.toList)[i]? = some t →
    TokenEqual (i == 0) s t

namespace HasGenerationToken

variable {before before' value value' s : List Char}

theorem iff_cut : HasGenerationToken before value s ↔
    cutAtFirst generationMatch.opening s = some (before, value) ∧ value ≠ [] := by
  constructor
  · intro h
    exact ⟨cutAtFirst_eq_some_iff.mpr ⟨local_generationMatch.nonempty, h.whole, h.first⟩, h.nonempty⟩
  · rintro ⟨cut, nonempty⟩
    obtain ⟨_, whole, first⟩ := cutAtFirst_eq_some_iff.mp cut
    exact ⟨whole, first, nonempty⟩

theorem before_eq (h : HasGenerationToken before value s) (g : HasGenerationToken before' value' s) :
    before = before' := by
  have same := (iff_cut.mp h).1.symm.trans (iff_cut.mp g).1
  exact (Prod.mk.inj (Option.some.inj same)).1

/-- Where any opening has a value the first one has. -/
theorem exists_of_opening {pre : List Char} (whole : s = pre ++ (generationMatch.opening ++ value))
    (nonempty : value ≠ []) : ∃ before value', HasGenerationToken before value' s := by
  by_contra none
  refine nonempty (bare_of_cut (fun before value' cut => ?_) local_generationMatch pre value whole)
  by_contra found
  exact none ⟨before, value', iff_cut.mpr ⟨cut, found⟩⟩

/-- The first opening stands no later than any other. -/
theorem length_le (h : HasGenerationToken before value s) {pre rest : List Char}
    (whole : s = pre ++ (generationMatch.opening ++ rest)) : before.length ≤ pre.length := by
  by_contra late
  exact h.first pre.length (by omega) ⟨rest, by rw [whole, List.drop_left]; rfl⟩

/-- Where the first opening stands does not depend on the value after it. -/
theorem withValue (h : HasGenerationToken before value s) (nonempty : value' ≠ []) :
    HasGenerationToken before value' (before ++ (generationMatch.opening ++ value')) := by
  refine ⟨rfl, fun j inside stands => h.first j inside ?_, nonempty⟩
  rw [h.whole, List.drop_append_of_le_length (by omega)]
  rw [List.drop_append_of_le_length (by omega), ← List.append_assoc] at stands
  have short : generationMatch.opening <+: before.drop j ++ generationMatch.opening :=
    List.prefix_of_prefix_length_le stands (List.prefix_append _ _) (by simp)
  exact short.trans ⟨value, List.append_assoc ..⟩

/-- No start of the opening ends the name of a page token, so whether a segment is a page token does
not depend on the generation token in it. -/
theorem isPageToken_iff (h : HasGenerationToken before value s) :
    isPageToken s = true ↔ pageName <+: before := by
  rw [Segment.isPageToken_iff, h.whole]
  constructor
  · rintro ⟨rest, _, same⟩
    rcases List.append_eq_append_iff.mp same with ⟨more, name, opening⟩ | ⟨more, rfl, _⟩
    · cases more with
      | nil => exact ⟨[], by simpa using name⟩
      | cons c more =>
        have first : generationMatch.opening = 'i' :: generationMatch.opening.tail := rfl
        change generationMatch.opening ++ value = _ at opening
        rw [first, List.cons_append] at opening
        obtain rfl := (List.cons.inj opening).1
        have present : 'i' ∈ pageName := by simp [name]
        exact absurd present (by decide)
    · exact List.prefix_append _ _
  · rintro ⟨more, rfl⟩
    refine ⟨more ++ (generationMatch.opening ++ value), ?_, List.append_assoc ..⟩
    simp [h.nonempty]

end HasGenerationToken

namespace TokenEqual

variable {leads : Bool} {s t u : List Char}

theorem symm (h : TokenEqual leads s t) : TokenEqual leads t s := by
  cases h with
  | refl => exact .refl _
  | pageToken later v w => exact .pageToken later w v
  | generation hs ht => exact .generation ht hs

theorem of_isPageToken (later : leads = false) (hs : isPageToken s = true)
    (ht : isPageToken t = true) : TokenEqual leads s t := by
  obtain ⟨v, nonemptyV, rfl⟩ := isPageToken_iff.mp hs
  obtain ⟨w, nonemptyW, rfl⟩ := isPageToken_iff.mp ht
  exact .pageToken later nonemptyV nonemptyW

theorem isPageToken_right (h : TokenEqual leads s t) (hs : isPageToken s = true) :
    isPageToken t = true := by
  cases h with
  | refl => exact hs
  | pageToken _ _ nonempty => exact isPageToken_iff.mpr ⟨_, nonempty, rfl⟩
  | generation gs gt => exact gt.isPageToken_iff.mpr (gs.isPageToken_iff.mp hs)

theorem trans (h : TokenEqual leads s t) (g : TokenEqual leads t u) : TokenEqual leads s u := by
  cases h with
  | refl => exact g
  | pageToken later nonemptyV nonemptyW =>
    have hs := isPageToken_iff.mpr ⟨_, nonemptyV, rfl⟩
    have ht := isPageToken_iff.mpr ⟨_, nonemptyW, rfl⟩
    exact of_isPageToken later hs (g.isPageToken_right ht)
  | generation gs gt =>
    cases g with
    | refl => exact .generation gs gt
    | pageToken later nonemptyV nonemptyW =>
      have ht := isPageToken_iff.mpr ⟨_, nonemptyV, rfl⟩
      have hu := isPageToken_iff.mpr ⟨_, nonemptyW, rfl⟩
      exact of_isPageToken later (gs.isPageToken_iff.mpr (gt.isPageToken_iff.mp ht)) hu
    | generation gt' gu =>
      obtain rfl := gt.before_eq gt'
      exact .generation gs gu

theorem isPageToken_placeholder (position : Nat) : isPageToken (Segment.pageToken position) = true := by
  have nonempty : Parameter.pageToken.placeholder ++ (toString position).toList ≠ [] :=
    fun empty => absurd (List.append_eq_nil_iff.mp empty).1 (by decide)
  exact isPageToken_iff.mpr ⟨_, nonempty, List.append_assoc ..⟩

/-- A placeholder is a token like the one it stands for. -/
theorem rewrite_right (position : Nat) (leads : Bool) (s : List Char) :
    TokenEqual leads s (rewrite position leads s) := by
  by_cases token : leads = false ∧ isPageToken s = true
  · obtain ⟨rfl, token⟩ := token
    rw [rewrite_of_isPageToken token]
    exact of_isPageToken rfl token (isPageToken_placeholder position)
  have other : leads = true ∨ isPageToken s = false := by
    cases leads <;> simp_all
  by_cases found : ∃ before value, HasGenerationToken before value s
  · obtain ⟨before, value, h⟩ := found
    have ⟨cut, nonempty⟩ := HasGenerationToken.iff_cut.mp h
    rw [rewrite_of_cut other cut nonempty, numbered, List.append_assoc]
    refine .generation h (h.withValue fun empty => ?_)
    exact absurd (List.append_eq_nil_iff.mp empty).1 (by decide)
  · rw [rewrite_of_bare other]
    · exact .refl s
    · intro before value cut
      by_contra nonempty
      exact found ⟨before, value, HasGenerationToken.iff_cut.mpr ⟨cut, nonempty⟩⟩

theorem rewrite_eq (position : Nat) (h : TokenEqual leads s t) :
    rewrite position leads s = rewrite position leads t := by
  cases h with
  | refl => rfl
  | pageToken later nonemptyV nonemptyW =>
    subst later
    have hs := isPageToken_iff.mpr ⟨_, nonemptyV, rfl⟩
    have ht := isPageToken_iff.mpr ⟨_, nonemptyW, rfl⟩
    exact (rewrite_of_isPageToken hs position).trans (rewrite_of_isPageToken ht position).symm
  | generation gs gt =>
    have alike : isPageToken s = isPageToken t :=
      Bool.eq_iff_iff.mpr (gs.isPageToken_iff.trans gt.isPageToken_iff.symm)
    by_cases token : leads = false ∧ isPageToken s = true
    · obtain ⟨rfl, token⟩ := token
      rw [rewrite_of_isPageToken token, rewrite_of_isPageToken (alike ▸ token)]
    · have other : leads = true ∨ isPageToken s = false := by
        cases leads <;> simp_all
      have ⟨cutS, nonemptyS⟩ := HasGenerationToken.iff_cut.mp gs
      have ⟨cutT, nonemptyT⟩ := HasGenerationToken.iff_cut.mp gt
      rw [rewrite_of_cut other cutS nonemptyS, rewrite_of_cut (alike ▸ other) cutT nonemptyT]

theorem iff_rewrite_eq (position : Nat) :
    TokenEqual leads s t ↔ rewrite position leads s = rewrite position leads t := by
  refine ⟨rewrite_eq position, fun same => (rewrite_right position leads s).trans ?_⟩
  rw [same]
  exact (rewrite_right position leads t).symm

/-- Texts that go apart after an opening differ at most in the value of a token, wherever the first
opening before stands. -/
theorem append_opening {a v w : List Char} (leads : Bool) (nonemptyV : v ≠ []) (nonemptyW : w ≠ []) :
    TokenEqual leads (a ++ (generationMatch.opening ++ v)) (a ++ (generationMatch.opening ++ w)) := by
  cases cut : cutAtFirst generationMatch.opening (a ++ (generationMatch.opening ++ v)) with
  | none =>
    rcases cutAtFirst_eq_none_iff.mp cut with empty | nowhere
    · exact absurd empty local_generationMatch.nonempty
    · exact absurd (by rw [List.drop_left]; exact List.prefix_append _ _) (nowhere a.length)
  | some parts =>
    obtain ⟨before, value⟩ := parts
    obtain ⟨_, whole, first⟩ := cutAtFirst_eq_some_iff.mp cut
    have early : before.length ≤ a.length := by
      by_contra late
      exact first a.length (by omega) (by rw [List.drop_left]; exact List.prefix_append _ _)
    have left : before ++ generationMatch.opening <+: a ++ (generationMatch.opening ++ v) :=
      whole ▸ ⟨value, List.append_assoc ..⟩
    have right : a ++ generationMatch.opening <+: a ++ (generationMatch.opening ++ v) :=
      ⟨v, List.append_assoc ..⟩
    obtain ⟨between, same⟩ := List.prefix_of_prefix_length_le left right (by simpa using early)
    have moved (x : List Char) : a ++ (generationMatch.opening ++ x) =
        before ++ (generationMatch.opening ++ (between ++ x)) := by
      simp only [← List.append_assoc, ← same]
    have h : HasGenerationToken before (between ++ v) (a ++ (generationMatch.opening ++ v)) :=
      ⟨moved v, first, by simp [nonemptyV]⟩
    have g : HasGenerationToken before (between ++ w) (a ++ (generationMatch.opening ++ w)) := by
      rw [moved w]
      exact h.withValue (by simp [nonemptyW])
    exact .generation h g

end TokenEqual

namespace SameButTokens

theorem refl (x : String) : SameButTokens x x := by
  refine ⟨rfl, fun i s t hs ht => ?_⟩
  rw [hs] at ht
  obtain rfl := Option.some.inj ht
  exact .refl s

/-- Texts that differ in one segment at most, and there in the value of a token. -/
theorem of_fields {x y : String} {s t : List Char} {before after : List (List Char)}
    (hx : fields '&' x.toList = before ++ s :: after)
    (hy : fields '&' y.toList = before ++ t :: after)
    (same : TokenEqual (before.length == 0) s t) : SameButTokens x y := by
  refine ⟨by rw [hx, hy]; simp, fun i s' t' hs ht => ?_⟩
  rw [hx] at hs
  rw [hy] at ht
  by_cases here : i = before.length
  · subst here
    simp only [List.getElem?_append_right (Nat.le_refl _), Nat.sub_self,
      List.getElem?_cons_zero, Option.some.injEq] at hs ht
    subst hs ht
    exact same
  · have elsewhere : (before ++ s :: after)[i]? = (before ++ t :: after)[i]? := by
      rcases Nat.lt_or_gt_of_ne here with less | more
      · rw [List.getElem?_append_left less, List.getElem?_append_left less]
      · obtain ⟨k, rfl⟩ : ∃ k, i = before.length + (k + 1) := ⟨i - before.length - 1, by omega⟩
        simp [List.getElem?_append_right]
    rw [hs, ht] at elsewhere
    obtain rfl := Option.some.inj elsewhere
    exact .refl _

end SameButTokens

theorem mapIdx_eq_mapIdx_iff {α β : Type} {f : Nat → α → β} {xs ys : List α} :
    xs.mapIdx f = ys.mapIdx f ↔
      xs.length = ys.length ∧ ∀ i x y, xs[i]? = some x → ys[i]? = some y → f i x = f i y := by
  rw [mapIdx_eq_iff, List.length_mapIdx, eq_comm]
  simp only [List.getElem?_mapIdx, Option.map_eq_some_iff]
  refine and_congr_right fun _ => forall₂_congr fun i x => ⟨?_, ?_⟩
  · intro same y hx hy
    exact same _ hx ⟨y, hy, rfl⟩
  · rintro same _ hx ⟨y, hy, rfl⟩
    exact same y hx hy

theorem normalizeAt_eq_iff (position : Nat) (x y : String) :
    normalizeAt position x = normalizeAt position y ↔ SameButTokens x y := by
  rw [← String.toList_inj, ← (fields_injective '&').eq_iff, fields_normalizeAt, fields_normalizeAt,
    mapIdx_eq_mapIdx_iff]
  simp only [← TokenEqual.iff_rewrite_eq]
  exact ⟨fun h => ⟨h.1, h.2⟩, fun h => ⟨h.length, h.segment⟩⟩

/-- Normalizing forgets the values of tokens and nothing else. -/
theorem normalize_eq_normalize_iff (xs ys : List String) : normalize xs = normalize ys ↔
    xs.length = ys.length ∧
      ∀ (i : Nat) x y, xs[i]? = some x → ys[i]? = some y → SameButTokens x y := by
  rw [normalize, normalize, mapIdx_eq_mapIdx_iff]
  simp only [normalizeAt_eq_iff]

end RequestTrail
