import Mathlib.Data.Nat.Find
import RequestTrail.Text.Search

/-! The first place of a list in another, as a statement about prefixes of what is left. Where nothing
is found the list stands nowhere, and a cut puts the text together again. -/
namespace RequestTrail.Text

-- What holds of every character of a text is decided along the text, not along all characters.
instance decidableForallChar (s : List Char) (p : Char → Prop) [DecidablePred p] : Decidable (∀ c ∈ s, p c) :=
  List.decidableBAll p s

instance decidableForallFirst (first : Option Char) (p : Char → Prop) [DecidablePred p] :
    Decidable (∀ c ∈ first, p c) :=
  Option.decidableForallMem first

/-- A run of wanted elements is taken up to the first that is not. -/
theorem takeWhile_append_of_stops {α : Type} {p : α → Bool} {run rest : List α}
    (wanted : ∀ x ∈ run, p x = true) (stops : ∀ x ∈ rest.head?, p x = false) :
    (run ++ rest).takeWhile p = run := by
  rw [List.takeWhile_append_of_pos wanted]
  cases rest with
  | nil => simp
  | cons x more => simp [stops x rfl]

theorem dropWhile_append_of_stops {α : Type} {p : α → Bool} {run rest : List α}
    (wanted : ∀ x ∈ run, p x = true) (stops : ∀ x ∈ rest.head?, p x = false) :
    (run ++ rest).dropWhile p = rest := by
  rw [List.dropWhile_append_of_pos wanted]
  cases rest with
  | nil => simp
  | cons x more => simp [stops x rfl]

theorem exists_run {α : Type} (p : α → Bool) (s : List α) : ∃ run rest, s = run ++ rest ∧
    (∀ x ∈ run, p x = true) ∧ ∀ x ∈ rest.head?, p x = false := by
  induction s with
  | nil => exact ⟨[], [], rfl, by simp, by simp⟩
  | cons x s ih =>
    by_cases wanted : p x = true
    · obtain ⟨run, rest, rfl, all, stops⟩ := ih
      exact ⟨x :: run, rest, rfl, by simpa [wanted] using all, stops⟩
    · exact ⟨[], x :: s, rfl, by simp, by simpa using wanted⟩

/-- An element that is not in the second half of a list stands in the first. -/
theorem append_cons_eq_append {α : Type} {a b s v : List α} {x : α} (absent : x ∉ v)
    (same : a ++ x :: b = s ++ v) : ∃ rest, s = a ++ x :: rest ∧ b = rest ++ v := by
  rcases List.append_eq_append_iff.mp same with ⟨m, rfl, tails⟩ | ⟨m, rfl, rfl⟩
  · cases m with
    | nil =>
      rw [List.nil_append] at tails
      exact absurd (tails ▸ List.mem_cons_self) absent
    | cons y rest =>
      obtain ⟨rfl, rfl⟩ := List.cons.inj tails
      exact ⟨rest, rfl, rfl⟩
  · exact absurd (by simp) absent

/-- The list starts at the end of one list and goes on at the start of the next. -/
def Crosses {α : Type} (needle a b : List α) : Prop :=
  ∃ left right, left ≠ [] ∧ right ≠ [] ∧ needle = left ++ right ∧ left <:+ a ∧ right <+: b

/-- What stands in a joined list stands on one side of the seam or across it. -/
theorem infix_append_iff {α : Type} {needle a b : List α} :
    needle <:+: a ++ b ↔ needle <:+: a ∨ needle <:+: b ∨ Crosses needle a b := by
  constructor
  · rintro ⟨start, rest, same⟩
    rcases List.append_eq_append_iff.mp same with ⟨m, rfl, _⟩ | ⟨right, whole, rfl⟩
    · exact Or.inl ⟨start, m, rfl⟩
    rcases List.append_eq_append_iff.mp whole with ⟨left, rfl, rfl⟩ | ⟨m, rfl, rfl⟩
    · by_cases emptyLeft : left = []
      · exact Or.inr (Or.inl ⟨[], rest, by simp [emptyLeft]⟩)
      by_cases emptyRight : right = []
      · exact Or.inl ⟨start, [], by simp [emptyRight]⟩
      · exact Or.inr (Or.inr ⟨left, right, emptyLeft, emptyRight, rfl, List.suffix_append _ _,
          List.prefix_append _ _⟩)
    · exact Or.inr (Or.inl ⟨m, rest, rfl⟩)
  · rintro (inside | inside | ⟨left, right, _, _, rfl, ⟨before, rfl⟩, ⟨after, rfl⟩⟩)
    · exact inside.trans (List.prefix_append _ _).isInfix
    · exact inside.trans (List.suffix_append _ _).isInfix
    · exact ⟨before, after, by simp only [List.append_assoc]⟩

/-- Nothing goes on with an element that it can only start with. -/
theorem not_crosses_of_head {α : Type} {needle b : List α} {x : α} (apart : x ∉ needle.tail)
    (a : List α) : ¬Crosses needle a (x :: b) := by
  rintro ⟨_ | ⟨y, left⟩, right, nonempty, other, rfl, _, starts⟩
  · exact nonempty rfl
  cases right with
  | nil => exact other rfl
  | cons z right =>
    obtain rfl := (List.cons_prefix_cons.mp starts).1
    exact apart (by simp)

/-- Nothing goes on after an element that it can only end with. -/
theorem not_crosses_of_last {α : Type} {needle a : List α} {x : α} (apart : x ∉ needle.dropLast)
    (b : List α) : ¬Crosses needle (a ++ [x]) b := by
  rintro ⟨left, right, nonempty, other, rfl, ends, _⟩
  obtain ⟨init, last, rfl⟩ : ∃ init last, left = init ++ [last] :=
    ⟨_, _, (List.dropLast_concat_getLast nonempty).symm⟩
  obtain rfl : last = x := by simpa using (List.suffix_append init [last]).trans ends
  rw [List.dropLast_append_of_ne_nil other] at apart
  exact apart (by simp)

/-- A list that does not even stand across its own start does not cross into it. -/
theorem not_crosses_of_dropLast {α : Type} {needle a : List α} (clean : ¬needle <:+: a ++ needle.dropLast)
    (c : List α) : ¬Crosses needle a (needle ++ c) := by
  rintro ⟨left, right, nonempty, _, same, ends, starts⟩
  have short : right.length ≤ needle.dropLast.length := by
    have := List.length_pos_iff.mpr nonempty
    rw [List.length_dropLast, same, List.length_append]
    omega
  have own : needle.dropLast <+: needle ++ c := (List.dropLast_prefix needle).trans (List.prefix_append _ _)
  obtain ⟨after, split⟩ := List.prefix_of_prefix_length_le starts own short
  obtain ⟨before, rfl⟩ := ends
  exact clean ⟨before, after, by rw [← split, same]; simp only [List.append_assoc]⟩

/-- Where the first element is missing there is neither an occurrence nor the start of one. -/
theorem infix_append_of_not_mem {α : Type} {needle a b : List α} {x : α} (free : x ∉ a)
    (inside : x :: needle <:+: a ++ b) : x :: needle <:+: b := by
  rcases infix_append_iff.mp inside with left | right | ⟨first, more, nonempty, _, same, ends, _⟩
  · exact absurd (left.subset List.mem_cons_self) free
  · exact right
  · cases first with
    | nil => exact absurd rfl nonempty
    | cons y first =>
      obtain ⟨rfl, _⟩ := List.cons.inj same
      exact absurd (ends.subset List.mem_cons_self) free

/-- What does not hold an element stands before it or after it. -/
theorem infix_append_cons {α : Type} {needle a b : List α} {x : α} (apart : x ∉ needle)
    (inside : needle <:+: a ++ x :: b) : needle <:+: a ∨ needle <:+: b := by
  rcases infix_append_iff.mp inside with left | right | across
  · exact Or.inl left
  · rcases List.infix_cons_iff.mp right with starts | right
    · cases needle with
      | nil => exact Or.inr List.nil_infix
      | cons y needle =>
        obtain rfl := (List.cons_prefix_cons.mp starts).1
        exact absurd List.mem_cons_self apart
    · exact Or.inr right
  · have other : x ∉ needle.tail := fun m => apart (List.mem_of_mem_tail m)
    exact absurd across (not_crosses_of_head other a)

/-- What starts in the first of two lists ends in it or crosses into the next. -/
theorem prefix_drop_append {α : Type} {needle a b : List α} {i : Nat} (early : i < a.length)
    (stands : needle <+: (a ++ b).drop i) : needle <:+: a ∨ Crosses needle a b := by
  obtain ⟨rest, same⟩ := stands
  rw [List.drop_append_of_le_length (Nat.le_of_lt early)] at same
  have left : a.drop i ≠ [] := by simp; omega
  rcases List.append_eq_append_iff.mp same with ⟨m, whole, _⟩ | ⟨m, rfl, rfl⟩
  · refine Or.inl ⟨a.take i, m, ?_⟩
    rw [List.append_assoc, ← whole, List.take_append_drop]
  · by_cases empty : m = []
    · refine Or.inl ⟨a.take i, [], ?_⟩
      rw [empty, List.append_nil, List.append_nil, List.take_append_drop]
    · exact Or.inr ⟨a.drop i, m, left, empty, rfl, List.drop_suffix i a, List.prefix_append m rest⟩

variable {α : Type} [BEq α] [LawfulBEq α] {needle hay : List α}

theorem indexFrom_eq_some_iff {i : Nat} : indexFrom needle hay = some i ↔
    i < hay.length ∧ needle <+: hay.drop i ∧ ∀ j < i, ¬needle <+: hay.drop j := by
  constructor
  · intro found
    have ⟨here, inside⟩ := isPrefixOf_drop_of_indexFrom found
    refine ⟨inside, List.isPrefixOf_iff_prefix.mp here, fun j before stands => ?_⟩
    have nowhere := isPrefixOf_drop_of_lt_indexFrom found before
    rw [List.isPrefixOf_iff_prefix.mpr stands] at nowhere
    cases nowhere
  · rintro ⟨inside, here, nowhere⟩
    induction hay generalizing i with
    | nil => simp at inside
    | cons x xs ih =>
      cases i with
      | zero =>
        have start : needle.isPrefixOf (x :: xs) = true := List.isPrefixOf_iff_prefix.mpr here
        rw [indexFrom, if_pos start]
      | succ i =>
        have start : ¬needle.isPrefixOf (x :: xs) = true := by
          intro h
          exact nowhere 0 (by omega) (List.isPrefixOf_iff_prefix.mp h)
        have rest : indexFrom needle xs = some i :=
          ih (by simpa using inside) here fun j h => nowhere (j + 1) (by omega)
        simp [indexFrom, start, rest]

theorem firstIndex_eq_some_iff {i : Nat} : firstIndex needle hay = some i ↔
    needle ≠ [] ∧ needle <+: hay.drop i ∧ ∀ j < i, ¬needle <+: hay.drop j := by
  by_cases empty : needle = []
  · simp [firstIndex, empty]
  · have some_iff := @indexFrom_eq_some_iff α _ _ needle hay i
    simp only [firstIndex, List.isEmpty_iff, empty, if_false, some_iff, ne_eq, not_false_eq_true,
      true_and]
    refine ⟨fun h => h.2, fun h => ⟨?_, h⟩⟩
    by_contra outside
    rw [List.drop_eq_nil_of_le (by omega)] at h
    exact empty (List.prefix_nil.mp h.1)

/-- The least place is found whenever there is any. -/
theorem exists_firstIndex {i : Nat} (nonempty : needle ≠ []) (stands : needle <+: hay.drop i) :
    ∃ j ≤ i, firstIndex needle hay = some j := by
  classical
  have some_place : ∃ j, needle <+: hay.drop j := ⟨i, stands⟩
  refine ⟨Nat.find some_place, Nat.find_le stands, firstIndex_eq_some_iff.mpr ⟨nonempty, ?_, ?_⟩⟩
  · exact Nat.find_spec some_place
  · exact fun j before => Nat.find_min some_place before

theorem firstIndex_eq_none_iff :
    firstIndex needle hay = none ↔ needle = [] ∨ ∀ i, ¬needle <+: hay.drop i := by
  constructor
  · intro missing
    by_cases empty : needle = []
    · exact Or.inl empty
    refine Or.inr fun i stands => ?_
    obtain ⟨j, _, found⟩ := exists_firstIndex empty stands
    rw [missing] at found
    cases found
  · intro nowhere
    cases found : firstIndex needle hay with
    | none => rfl
    | some i =>
      obtain ⟨nonempty, here, _⟩ := firstIndex_eq_some_iff.mp found
      rcases nowhere with empty | nowhere
      · exact absurd empty nonempty
      · exact absurd here (nowhere i)

/-- What is cut is the text, and the needle stands at no place before the cut. -/
theorem cutAtFirst_eq_some_iff {before after : List α} :
    cutAtFirst needle hay = some (before, after) ↔ needle ≠ [] ∧ hay = before ++ (needle ++ after) ∧
      ∀ j < before.length, ¬needle <+: hay.drop j := by
  constructor
  · intro cut
    obtain ⟨i, found, same⟩ := Option.map_eq_some_iff.mp cut
    obtain ⟨nonempty, ⟨rest, stands⟩, nowhere⟩ := firstIndex_eq_some_iff.mp found
    obtain ⟨rfl, rfl⟩ := Prod.mk.inj same
    have inside : i ≤ hay.length := by
      by_contra outside
      rw [List.drop_eq_nil_of_le (by omega)] at stands
      simp [nonempty] at stands
    refine ⟨nonempty, ?_, fun j h => nowhere j (by simp at h; omega)⟩
    rw [← List.drop_drop, ← stands, List.drop_left, stands, List.take_append_drop]
  · rintro ⟨nonempty, rfl, nowhere⟩
    have found : firstIndex needle (before ++ (needle ++ after)) = some before.length :=
      firstIndex_eq_some_iff.mpr ⟨nonempty, by simp, nowhere⟩
    simp [cutAtFirst, found, ← List.drop_drop]

/-- A list that is neither in what stands before it nor crosses out of it is found there. -/
theorem firstIndex_append {before after : List α} (nonempty : needle ≠ [])
    (absent : ¬needle <:+: before) (apart : ¬Crosses needle before (needle ++ after)) :
    firstIndex needle (before ++ (needle ++ after)) = some before.length := by
  refine firstIndex_eq_some_iff.mpr ⟨nonempty, by simp, fun j early stands => ?_⟩
  rcases prefix_drop_append early stands with inside | across
  · exact absent inside
  · exact apart across

theorem cutAtFirst_append {before after : List α} (nonempty : needle ≠ [])
    (absent : ¬needle <:+: before) (apart : ¬Crosses needle before (needle ++ after)) :
    cutAtFirst needle (before ++ (needle ++ after)) = some (before, after) := by
  have found := firstIndex_append nonempty absent apart
  simp [cutAtFirst, found, ← List.drop_drop]

/-- A list that does not even stand across its own start is found there. -/
theorem cutAtFirst_of_dropLast {before : List α} (nonempty : needle ≠ [])
    (clean : ¬needle <:+: before ++ needle.dropLast) (after : List α) :
    cutAtFirst needle (before ++ (needle ++ after)) = some (before, after) := by
  apply cutAtFirst_append nonempty
  · intro inside
    exact clean (inside.trans (List.prefix_append _ _).isInfix)
  · exact not_crosses_of_dropLast clean after

/-- One character is cut at where it stands first. -/
theorem cutAtFirst_singleton {c : α} {before : List α} (free : c ∉ before) (after : List α) :
    cutAtFirst [c] (before ++ c :: after) = some (before, after) := by
  refine cutAtFirst_eq_some_iff.mpr ⟨by simp, rfl, fun j inside stands => ?_⟩
  obtain ⟨rest, here⟩ := stands
  rw [List.drop_append_of_le_length (Nat.le_of_lt inside), List.drop_eq_getElem_cons inside] at here
  have same : c = before[j] := (List.cons.inj here).1
  exact free (same ▸ List.getElem_mem inside)

theorem cutAtFirst_eq_none_iff :
    cutAtFirst needle hay = none ↔ needle = [] ∨ ∀ i, ¬needle <+: hay.drop i := by
  simp [cutAtFirst, firstIndex_eq_none_iff]

/-- Where the text starts with what is looked for, nothing stands before it. -/
theorem cutAtFirst_of_prefix (nonempty : needle ≠ []) (after : List α) :
    cutAtFirst needle (needle ++ after) = some ([], after) :=
  cutAtFirst_eq_some_iff.mpr ⟨nonempty, rfl, fun _ before => absurd before (Nat.not_lt_zero _)⟩

theorem cutAtFirst_cons {x : α} (elsewhere : ¬needle <+: x :: hay) :
    cutAtFirst needle (x :: hay) = (cutAtFirst needle hay).map fun cut => (x :: cut.1, cut.2) := by
  have nonempty : needle ≠ [] := by
    rintro rfl
    exact elsewhere List.nil_prefix
  have start : ¬needle.isPrefixOf (x :: hay) = true := fun h => elsewhere (List.isPrefixOf_iff_prefix.mp h)
  have next : indexFrom needle (x :: hay) = (indexFrom needle hay).map (· + 1) := by
    rw [indexFrom, if_neg start]
  have searched (s : List α) : firstIndex needle s = indexFrom needle s := by
    simp [firstIndex, nonempty]
  rw [cutAtFirst, cutAtFirst, searched, searched, next]
  cases indexFrom needle hay with
  | none => rfl
  | some i => simp [Nat.add_right_comm]

/-- The first place does not change when the text goes on. -/
theorem cutAtFirst_append_right {before after : List α} (cut : cutAtFirst needle hay = some (before, after))
    (more : List α) : cutAtFirst needle (hay ++ more) = some (before, after ++ more) := by
  obtain ⟨nonempty, rfl, nowhere⟩ := cutAtFirst_eq_some_iff.mp cut
  refine cutAtFirst_eq_some_iff.mpr ⟨nonempty, by simp only [List.append_assoc], fun j early stands => ?_⟩
  apply nowhere j early
  rw [List.drop_append_of_le_length (by simp; omega)] at stands
  apply List.prefix_of_prefix_length_le stands (List.prefix_append _ more)
  simp
  omega

/-- What neither holds the list nor the start of an occurrence is passed. -/
theorem cutAtFirst_append_left {a : List α} (absent : ¬needle <:+: a) (apart : ¬Crosses needle a hay) :
    cutAtFirst needle (a ++ hay) = (cutAtFirst needle hay).map fun cut => (a ++ cut.1, cut.2) := by
  induction a with
  | nil => simp
  | cons x a ih =>
    have elsewhere : ¬needle <+: x :: (a ++ hay) := by
      intro stands
      rcases prefix_drop_append (a := x :: a) (i := 0) (Nat.succ_pos _) stands with inside | across
      · exact absent inside
      · exact apart across
    have absent' : ¬needle <:+: a := fun inside => absent (inside.trans (List.suffix_cons x a).isInfix)
    have apart' : ¬Crosses needle a hay := by
      rintro ⟨left, right, nonempty, other, same, ends, starts⟩
      exact apart ⟨left, right, nonempty, other, same, ends.trans (List.suffix_cons x a), starts⟩
    rw [List.cons_append, cutAtFirst_cons elsewhere, ih absent' apart', Option.map_map]
    rfl

theorem cutAtFirst_append_of_not_mem {a : List α} {x : α} (free : x ∉ a) :
    cutAtFirst (x :: needle) (a ++ hay) =
      (cutAtFirst (x :: needle) hay).map fun cut => (a ++ cut.1, cut.2) := by
  apply cutAtFirst_append_left
  · exact fun inside => free (inside.subset List.mem_cons_self)
  · rintro ⟨_ | ⟨y, left⟩, right, nonempty, _, same, ends, _⟩
    · exact nonempty rfl
    · obtain ⟨rfl, _⟩ := List.cons.inj same
      exact free (ends.subset List.mem_cons_self)

theorem cutAtFirst_of_absent (absent : ¬needle <:+: hay) : cutAtFirst needle hay = none := by
  refine cutAtFirst_eq_none_iff.mpr (Or.inr fun i stands => absent ?_)
  exact stands.isInfix.trans (List.drop_suffix i hay).isInfix

theorem exists_cutAtFirst (nonempty : needle ≠ []) (inside : needle <:+: hay) :
    ∃ before after, cutAtFirst needle hay = some (before, after) := by
  obtain ⟨before, after, same⟩ := inside
  have stands : needle <+: hay.drop before.length := by
    rw [← same, List.append_assoc, List.drop_left]
    exact List.prefix_append needle after
  obtain ⟨i, _, found⟩ := exists_firstIndex nonempty stands
  exact ⟨_, _, by rw [cutAtFirst, found]; rfl⟩

end RequestTrail.Text
