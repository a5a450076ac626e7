import Mathlib.Logic.Function.Basic
import RequestTrail.Text.Search

/-! Fields as a first one and others that each follow a separator. A text has one such form. -/
namespace RequestTrail.Text

variable {separator : Char} {s head : List Char} {others : List (List Char)}

theorem intercalate_cons_eq (separator : Char) (head : List Char) (others : List (List Char)) :
    List.intercalate [separator] (head :: others) = head ++ others.flatMap (separator :: ·) := by
  induction others generalizing head with
  | nil => simp [List.intercalate]
  | cons next others ih =>
    have rest := ih next
    simp only [List.intercalate, List.intersperse, List.flatten_cons, List.flatMap_cons] at rest ⊢
    simp [rest]

theorem fields_of_not_mem (free : separator ∉ s) : fields separator s = [s] := by
  induction s with
  | nil => rfl
  | cons c s ih =>
    simp only [List.mem_cons, not_or] at free
    simp [fields, Ne.symm free.1, ih free.2]

theorem fields_append_cons (rest : List Char) (free : separator ∉ head) :
    fields separator (head ++ separator :: rest) = head :: fields separator rest := by
  induction head with
  | nil => simp [fields]
  | cons c head ih =>
    simp only [List.mem_cons, not_or] at free
    simp [fields, Ne.symm free.1, ih free.2]

/-- What stands before the first separator is determined by the text. -/
theorem append_cons_inj {a b x y : List Char} (freeLeft : separator ∉ a) (freeRight : separator ∉ b)
    (same : a ++ separator :: x = b ++ separator :: y) : a = b ∧ x = y := by
  have split := congrArg (fields separator) same
  rw [fields_append_cons _ freeLeft, fields_append_cons _ freeRight] at split
  obtain rfl := (List.cons.inj split).1
  exact ⟨rfl, (List.cons.inj (List.append_cancel_left same)).2⟩

theorem fields_append_flatMap (free : separator ∉ head)
    (freeOthers : ∀ field ∈ others, separator ∉ field) :
    fields separator (head ++ others.flatMap (separator :: ·)) = head :: others := by
  induction others generalizing head with
  | nil => simpa using fields_of_not_mem free
  | cons next others ih =>
    rw [List.flatMap_cons, List.cons_append, fields_append_cons _ free,
      ih (freeOthers next (by simp)) fun field h => freeOthers field (by simp [h])]

theorem fields_eq_cons_iff : fields separator s = head :: others ↔
    separator ∉ head ∧ (∀ field ∈ others, separator ∉ field) ∧
      s = head ++ others.flatMap (separator :: ·) := by
  constructor
  · intro split
    refine ⟨?_, fun field h => ?_, ?_⟩
    · have member : head ∈ fields separator s := by simp [split]
      exact separator_not_mem_field member
    · have member : field ∈ fields separator s := by simp [split, h]
      exact separator_not_mem_field member
    · rw [← intercalate_cons_eq, ← split, intercalate_fields]
  · rintro ⟨free, freeOthers, rfl⟩
    exact fields_append_flatMap free freeOthers

theorem fields_injective (separator : Char) : Function.Injective (fields separator) := by
  intro s t same
  rw [← intercalate_fields separator s, same, intercalate_fields]

theorem fields_append_separator (s rest : List Char) :
    fields separator (s ++ separator :: rest) = fields separator s ++ fields separator rest := by
  induction s with
  | nil => simp [fields]
  | cons c s ih =>
    by_cases same : c = separator
    · simp [fields, same, ih]
    · obtain ⟨first, more, split⟩ := List.exists_cons_of_ne_nil (fields_ne_nil separator s)
      simp [fields, same, ih, split]

theorem fields_append_flatMap_fields (s : List Char) (parts : List (List Char)) :
    fields separator (s ++ parts.flatMap (separator :: ·)) =
      fields separator s ++ parts.flatMap (fields separator) := by
  induction parts generalizing s with
  | nil => simp
  | cons part parts ih =>
    rw [List.flatMap_cons, List.flatMap_cons, List.cons_append, fields_append_separator, ih]

/-- What holds no separator is added to the last field. -/
theorem fields_append_of_not_mem {last tail : List Char} (split : fields separator s = others ++ [last])
    (free : separator ∉ tail) : fields separator (s ++ tail) = others ++ [last ++ tail] := by
  cases others with
  | nil =>
    obtain ⟨freeLast, _, rfl⟩ := fields_eq_cons_iff.mp split
    simpa using fields_of_not_mem (s := last ++ tail) (by simp [freeLast, free])
  | cons first others =>
    obtain ⟨freeFirst, freeOthers, rfl⟩ := fields_eq_cons_iff.mp split
    have freeLast : separator ∉ last := freeOthers last (by simp)
    refine fields_eq_cons_iff.mpr ⟨freeFirst, fun field h => ?_, by simp⟩
    rcases List.mem_append.mp h with h | h
    · exact freeOthers field (by simp [h])
    · obtain rfl := List.mem_singleton.mp h
      simp [freeLast, free]

/-- The last field is all of the text or follows a separator. -/
theorem fields_eq_append_singleton {last : List Char} (split : fields separator s = others ++ [last]) :
    others = [] ∧ s = last ∨
      ∃ before, fields separator before = others ∧ s = before ++ separator :: last := by
  cases others with
  | nil =>
    obtain ⟨_, _, rfl⟩ := fields_eq_cons_iff.mp split
    exact Or.inl ⟨rfl, List.append_nil last⟩
  | cons first others =>
    obtain ⟨free, freeOthers, rfl⟩ := fields_eq_cons_iff.mp split
    refine Or.inr ⟨first ++ others.flatMap (separator :: ·), ?_, by simp⟩
    exact fields_append_flatMap free fun field h => freeOthers field (by simp [h])

theorem exists_fields_eq_append (separator : Char) (s : List Char) :
    ∃ others last, fields separator s = others ++ [last] :=
  ⟨_, _, (List.dropLast_concat_getLast (fields_ne_nil separator s)).symm⟩

theorem exists_fields_eq_cons (separator : Char) (s : List Char) :
    ∃ head others, fields separator s = head :: others :=
  List.exists_cons_of_ne_nil (fields_ne_nil separator s)

/-- Two separators in a row stand around an empty field. -/
theorem nil_mem_fields (inside : [separator, separator] <:+: s ++ [separator]) : [] ∈ fields separator s := by
  obtain ⟨before, after, same⟩ := inside
  have split := congrArg (fields separator) same
  rw [List.append_assoc, List.cons_append, List.singleton_append, fields_append_separator,
    fields_append_separator, ← List.nil_append (separator :: after), fields_append_separator] at split
  obtain ⟨others, last, after⟩ := exists_fields_eq_append separator after
  rw [after, ← List.append_assoc, ← List.append_assoc] at split
  rw [← (List.append_inj' split rfl).1]
  simp [fields]

end RequestTrail.Text
