import RequestTrail.Proofs.Multipart.Part
import RequestTrail.Proofs.Text.Slice

/-! The first part as a slice of the body. Both of its places come from a search for the least one, so they
lie within the body, and no delimiter stands between them. -/
namespace RequestTrail.Multipart

open Text

variable {needle body : Bytes} {start length i : Nat}

/-- Where the first part stands: behind the first delimiter, and up to the next one or to the end. A delimiter
may overlap itself, so none starts before the next one, wherever it would end. -/
structure IsFirstSpan (needle body : Bytes) (start length : Nat) : Prop where
  opens : ∃ i, StandsFirstAt needle body i ∧ start = i + needle.length
  closes : StandsAt needle body (start + length) ∨ start + length = body.length
  passed : ∀ j < length, ¬StandsAt needle body (start + j)

/-- The first part by slices that have to be there. The outer `none` is a slice that is not. -/
def slicedFirstPart? (needle body : Bytes) : Option (Option Bytes) :=
  match firstIndex needle body with
  | none => some none
  | some i => do
    let rest ← slice? body (i + needle.length) body.length
    let part ← slice? rest 0 ((firstIndex needle rest).getD rest.length)
    return some part

theorem IsFirstSpan.start_le (span : IsFirstSpan needle body start length) : start ≤ body.length := by
  obtain ⟨i, first, rfl⟩ := span.opens
  exact (standsAt_iff.mp first.here).1

theorem IsFirstSpan.stop_le (span : IsFirstSpan needle body start length) : start + length ≤ body.length := by
  rcases span.closes with next | atEnd
  · exact Nat.le_of_add_right_le (standsAt_iff.mp next).1
  · exact Nat.le_of_eq atEnd

theorem IsFirstSpan.length_le (span : IsFirstSpan needle body start length) : length ≤ body.length - start :=
  Nat.le_sub_of_add_le' span.stop_le

theorem IsFirstSpan.slice? (span : IsFirstSpan needle body start length) :
    Text.slice? body start (start + length) = some ((body.drop start).take length) := by
  refine slice?_eq_some_iff.mpr ⟨Nat.le_add_right _ _, span.stop_le, ?_⟩
  rw [Nat.add_sub_cancel_left]

theorem IsFirstSpan.not_infix (span : IsFirstSpan needle body start length) (nonempty : needle ≠ []) :
    ¬needle <:+: (body.drop start).take length := by
  apply not_infix_take nonempty
  intro j early stands
  exact span.passed j early ((standsAt_drop nonempty).mp stands)

theorem firstPartSpan?_of_firstIndex (found : firstIndex needle body = some i) :
    firstPartSpan? needle body = some (i + needle.length,
      (firstIndex needle (body.drop (i + needle.length))).getD (body.drop (i + needle.length)).length) := by
  rw [firstPartSpan?, found]
  rfl

theorem firstPartSpan?_of_absent (missing : firstIndex needle body = none) :
    firstPartSpan? needle body = none := by
  rw [firstPartSpan?, missing]
  rfl

theorem firstPart?_of_span (found : firstPartSpan? needle body = some (start, length)) :
    firstPart? needle body = some ((body.drop start).take length) := by
  rw [firstPart?, found]
  rfl

/-- The two searches find the span, and nothing but the span. -/
theorem firstPartSpan?_eq_some_iff : firstPartSpan? needle body = some (start, length) ↔
    needle ≠ [] ∧ IsFirstSpan needle body start length := by
  constructor
  · intro found
    cases opened : firstIndex needle body with
    | none =>
      rw [firstPartSpan?_of_absent opened] at found
      cases found
    | some i =>
      rw [firstPartSpan?_of_firstIndex opened] at found
      obtain ⟨rfl, next⟩ := Prod.mk.inj (Option.some.inj found)
      obtain ⟨nonempty, first⟩ := firstIndex_eq_some_iff_standsFirstAt.mp opened
      have inside : i + needle.length ≤ body.length := (standsAt_iff.mp first.here).1
      obtain ⟨closes, passed⟩ := (getD_firstIndex_drop_eq_iff nonempty inside).mp next
      exact ⟨nonempty, ⟨i, first, rfl⟩, closes, passed⟩
  · rintro ⟨nonempty, span⟩
    have next := (getD_firstIndex_drop_eq_iff nonempty span.start_le).mpr ⟨span.closes, span.passed⟩
    obtain ⟨i, first, rfl⟩ := span.opens
    have opened := firstIndex_eq_some_iff_standsFirstAt.mpr ⟨nonempty, first⟩
    rw [firstPartSpan?_of_firstIndex opened, next]

theorem firstPartSpan?_eq_none_iff : firstPartSpan? needle body = none ↔
    needle = [] ∨ ∀ i, ¬StandsAt needle body i := by
  rw [← firstIndex_eq_none_iff_standsAt]
  cases opened : firstIndex needle body with
  | none => simp [firstPartSpan?_of_absent opened]
  | some i => simp [firstPartSpan?_of_firstIndex opened]

/-- No slice is missing, so the part is read as it is without looking at bounds. -/
theorem slicedFirstPart?_eq (needle body : Bytes) :
    slicedFirstPart? needle body = some (firstPart? needle body) := by
  cases opened : firstIndex needle body with
  | none =>
    rw [slicedFirstPart?, opened, firstPart?, firstPartSpan?_of_absent opened]
    rfl
  | some i =>
    have found := firstPartSpan?_of_firstIndex opened
    have span := (firstPartSpan?_eq_some_iff.mp found).2
    have short := span.length_le
    rw [← List.length_drop] at short
    rw [slicedFirstPart?, opened, firstPart?_of_span found]
    simp only [bind, Option.bind_some, slice?_length span.start_le, slice?_zero short]
    rfl

/-- A search gives the least place at which the list stands, and none only where there is no such place. So
the first part of an upload lies within the body, every slice on the way to it is there, and it holds no
delimiter. -/
theorem firstIndex_least_firstPart_within (hay needle : Bytes) (boundary : List Char) (body : Bytes) :
    (∀ i, firstIndex needle hay = some i ↔ needle ≠ [] ∧ i + needle.length ≤ hay.length ∧
      slice? hay i (i + needle.length) = some needle ∧ ∀ j < i, ¬StandsAt needle hay j) ∧
    (firstIndex needle hay = none ↔ needle = [] ∨ ∀ i, ¬StandsAt needle hay i) ∧
    (firstPartSpan? (delimiter boundary) body = none ↔ ∀ i, ¬StandsAt (delimiter boundary) body i) ∧
    slicedFirstPart? (delimiter boundary) body = some (firstPart? (delimiter boundary) body) ∧
    ∀ start length, firstPartSpan? (delimiter boundary) body = some (start, length) →
      IsFirstSpan (delimiter boundary) body start length ∧
        start ≤ body.length ∧ length ≤ body.length - start ∧
          ∃ part, slice? body start (start + length) = some part ∧
            firstPart? (delimiter boundary) body = some part ∧ ¬delimiter boundary <:+: part := by
  have nonempty := delimiter_ne_nil boundary
  refine ⟨fun i => ?_, firstIndex_eq_none_iff_standsAt, ?_, slicedFirstPart?_eq _ _, ?_⟩
  · rw [firstIndex_eq_some_iff_standsFirstAt]
    constructor
    · rintro ⟨given, first⟩
      exact ⟨given, (standsAt_iff.mp first.here).1, first.here, first.least⟩
    · rintro ⟨given, _, here, least⟩
      exact ⟨given, here, least⟩
  · rw [firstPartSpan?_eq_none_iff]
    exact or_iff_right nonempty
  · intro start length found
    have span := (firstPartSpan?_eq_some_iff.mp found).2
    have read := firstPart?_of_span found
    exact ⟨span, span.start_le, span.length_le, _, span.slice?, read, span.not_infix nonempty⟩

/-- Five dashes hold the delimiter at three places that overlap, and the next one ends the body. -/
theorem firstIndex_least_firstPart_within_dashes :
    let needle := delimiter ['-']
    let body := utf8 "a-----b---".toList
    let part := utf8 "--b".toList
    firstPartSpan? needle body = some (4, 3) ∧ IsFirstSpan needle body 4 3 ∧ 4 ≤ body.length ∧
      3 ≤ body.length - 4 ∧ slice? body 4 (4 + 3) = some part ∧ firstPart? needle body = some part ∧
        ¬needle <:+: part := by
  intro needle body part
  have found : firstPartSpan? needle body = some (4, 3) := by decide +kernel
  have sliced : slice? body 4 (4 + 3) = some part := by decide +kernel
  obtain ⟨_, _, _, _, within⟩ := firstIndex_least_firstPart_within body needle ['-'] body
  obtain ⟨span, inside, short, shown, cut, read, absent⟩ := within 4 3 found
  obtain rfl : shown = part := Option.some.inj (cut.symm.trans sliced)
  exact ⟨found, span, inside, short, cut, read, absent⟩

end RequestTrail.Multipart
