import RequestTrail.Proofs.Text.Search

/-! Slices, which exist only within a list, and the places at which one list is a slice of another. The
search finds the least of these places. -/
namespace RequestTrail.Text

section Slices

variable {α : Type} {s part needle hay : List α} {start stop i n : Nat}

/-- What stands from one place up to another. Backwards or past the end there is nothing. -/
def slice? (s : List α) (start stop : Nat) : Option (List α) :=
  if start ≤ stop ∧ stop ≤ s.length then some ((s.drop start).take (stop - start)) else none

/-- The list is the slice of its own length from there on. -/
def StandsAt (needle hay : List α) (i : Nat) : Prop :=
  slice? hay i (i + needle.length) = some needle

/-- The list stands there and at no place before. -/
structure StandsFirstAt (needle hay : List α) (i : Nat) : Prop where
  here : StandsAt needle hay i
  least : ∀ j < i, ¬StandsAt needle hay j

theorem slice?_eq_some_iff : slice? s start stop = some part ↔
    start ≤ stop ∧ stop ≤ s.length ∧ (s.drop start).take (stop - start) = part := by
  unfold slice?
  split
  · next within => simp [within]
  · next outside =>
    constructor
    · intro missing
      cases missing
    · rintro ⟨forwards, short, _⟩
      exact absurd ⟨forwards, short⟩ outside

/-- Up to its end a list has a slice from every place in it. -/
theorem slice?_length (inside : start ≤ s.length) : slice? s start s.length = some (s.drop start) := by
  have whole : (s.drop start).take (s.length - start) = s.drop start := by
    rw [← List.length_drop, List.take_length]
  exact slice?_eq_some_iff.mpr ⟨inside, Nat.le_refl _, whole⟩

theorem slice?_zero (inside : stop ≤ s.length) : slice? s 0 stop = some (s.take stop) :=
  slice?_eq_some_iff.mpr ⟨Nat.zero_le _, inside, rfl⟩

theorem standsAt_iff : StandsAt needle hay i ↔
    i + needle.length ≤ hay.length ∧ (hay.drop i).take needle.length = needle := by
  rw [StandsAt, slice?_eq_some_iff, Nat.add_sub_cancel_left]
  exact and_iff_right (Nat.le_add_right _ _)

/-- A list that is not empty stands where it starts what is left. -/
theorem standsAt_iff_prefix_drop (nonempty : needle ≠ []) : StandsAt needle hay i ↔ needle <+: hay.drop i := by
  rw [standsAt_iff, List.prefix_iff_eq_take, eq_comm (a := needle)]
  refine and_iff_right_of_imp fun same => ?_
  have positive : 0 < needle.length := List.length_pos_iff.mpr nonempty
  have short := congrArg List.length same
  rw [List.length_take, List.length_drop] at short
  omega

theorem StandsAt.lt_length (nonempty : needle ≠ []) (stands : StandsAt needle hay i) : i < hay.length := by
  have positive : 0 < needle.length := List.length_pos_iff.mpr nonempty
  have short := (standsAt_iff.mp stands).1
  omega

/-- A place in what is left is that place further on in all. -/
theorem standsAt_drop (nonempty : needle ≠ []) :
    StandsAt needle (hay.drop start) i ↔ StandsAt needle hay (start + i) := by
  rw [standsAt_iff_prefix_drop nonempty, standsAt_iff_prefix_drop nonempty, List.drop_drop]

theorem exists_standsAt_of_infix (inside : needle <:+: hay) : ∃ i, StandsAt needle hay i := by
  obtain ⟨before, after, rfl⟩ := inside
  refine ⟨before.length, standsAt_iff.mpr ⟨?_, ?_⟩⟩
  · simp only [List.length_append]
    omega
  · rw [List.append_assoc, List.drop_left, List.take_left]

/-- What starts at no place of a front is not in the front. -/
theorem not_infix_take (nonempty : needle ≠ []) (absent : ∀ j < n, ¬StandsAt needle hay j) :
    ¬needle <:+: hay.take n := by
  intro inside
  obtain ⟨j, stands⟩ := exists_standsAt_of_infix inside
  have early : j < n := Nat.lt_of_lt_of_le (stands.lt_length nonempty) (List.length_take_le n hay)
  apply absent j early
  rw [standsAt_iff_prefix_drop nonempty] at stands ⊢
  rw [List.drop_take] at stands
  exact stands.trans (List.take_prefix _ _)

end Slices

variable {α : Type} [BEq α] [LawfulBEq α] {needle hay : List α} {start length i : Nat}

theorem firstIndex_eq_some_iff_standsFirstAt :
    firstIndex needle hay = some i ↔ needle ≠ [] ∧ StandsFirstAt needle hay i := by
  rw [firstIndex_eq_some_iff]
  refine and_congr_right fun nonempty => ?_
  simp only [← standsAt_iff_prefix_drop nonempty]
  constructor
  · rintro ⟨here, least⟩
    exact ⟨here, least⟩
  · intro first
    exact ⟨first.here, first.least⟩

theorem firstIndex_eq_none_iff_standsAt :
    firstIndex needle hay = none ↔ needle = [] ∨ ∀ i, ¬StandsAt needle hay i := by
  rw [firstIndex_eq_none_iff]
  refine or_congr_right' fun nonempty => ?_
  simp only [standsAt_iff_prefix_drop nonempty]

/-- How far it is to the list, or to the end if the list does not come. -/
theorem getD_firstIndex_eq_iff (nonempty : needle ≠ []) : (firstIndex needle hay).getD hay.length = length ↔
    (StandsAt needle hay length ∨ length = hay.length) ∧ ∀ j < length, ¬StandsAt needle hay j := by
  cases found : firstIndex needle hay with
  | none =>
    have nowhere := (firstIndex_eq_none_iff_standsAt.mp found).resolve_left nonempty
    simp [nowhere, eq_comm]
  | some i =>
    have first := (firstIndex_eq_some_iff_standsFirstAt.mp found).2
    rw [Option.getD_some]
    constructor
    · rintro rfl
      exact ⟨.inl first.here, first.least⟩
    · rintro ⟨here | atEnd, passed⟩
      · apply Nat.le_antisymm
        · exact Nat.le_of_not_lt fun early => first.least length early here
        · exact Nat.le_of_not_lt fun early => passed i early first.here
      · -- The place that was found is before the end, and no place there was to be passed.
        have early : i < length := atEnd ▸ first.here.lt_length nonempty
        exact absurd first.here (passed i early)

/-- The way that is left behind a place, told by the places of the whole list. -/
theorem getD_firstIndex_drop_eq_iff (nonempty : needle ≠ []) (inside : start ≤ hay.length) :
    (firstIndex needle (hay.drop start)).getD (hay.drop start).length = length ↔
      (StandsAt needle hay (start + length) ∨ start + length = hay.length) ∧
        ∀ j < length, ¬StandsAt needle hay (start + j) := by
  have ends : length = (hay.drop start).length ↔ start + length = hay.length := by
    rw [List.length_drop]
    omega
  rw [getD_firstIndex_eq_iff nonempty, ends, standsAt_drop nonempty]
  simp only [standsAt_drop nonempty]

end RequestTrail.Text
