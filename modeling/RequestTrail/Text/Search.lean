/-!
# Searching a list for a list

The first place where one list occurs inside another, and the cut at that place.
-/
namespace RequestTrail.Text

variable {α : Type} [BEq α]

def indexFrom (needle : List α) : List α → Option Nat
  | [] => none
  | x :: xs => if needle.isPrefixOf (x :: xs) then some 0 else (indexFrom needle xs).map (· + 1)

/-- Least index at which `needle` occurs. The empty list is taken to occur nowhere. -/
def firstIndex (needle hay : List α) : Option Nat :=
  if needle.isEmpty then none else indexFrom needle hay

/-- Where the list is found it really stands. -/
theorem isPrefixOf_drop_of_indexFrom {needle hay : List α} {i : Nat}
    (h : indexFrom needle hay = some i) : needle.isPrefixOf (hay.drop i) = true ∧ i < hay.length := by
  induction hay generalizing i with
  | nil => simp [indexFrom] at h
  | cons x xs ih =>
    simp only [indexFrom] at h
    split at h
    · next here => cases h; simpa using here
    · obtain ⟨j, found, rfl⟩ := Option.map_eq_some_iff.mp h
      simpa using ih found

/-- Before the place where it is found it stands nowhere. -/
theorem isPrefixOf_drop_of_lt_indexFrom {needle hay : List α} {i j : Nat}
    (h : indexFrom needle hay = some i) (before : j < i) :
    needle.isPrefixOf (hay.drop j) = false := by
  induction hay generalizing i j with
  | nil => simp [indexFrom] at h
  | cons x xs ih =>
    simp only [indexFrom] at h
    split at h
    · cases h; omega
    · next elsewhere =>
      obtain ⟨k, found, rfl⟩ := Option.map_eq_some_iff.mp h
      cases j with
      | zero => simpa using elsewhere
      | succ j => simpa using ih found (by omega)

/-- What stands before and after the first occurrence. -/
def cutAtFirst (needle hay : List α) : Option (List α × List α) :=
  (firstIndex needle hay).map fun i => (hay.take i, hay.drop (i + needle.length))

/-- What stands before and after the last occurrence. -/
def cutAtLast (needle hay : List α) : Option (List α × List α) :=
  (cutAtFirst needle.reverse hay.reverse).map fun (after, before) => (before.reverse, after.reverse)

/-- The fields between the occurrences of one character, always at least one. -/
def fields (separator : Char) : List Char → List (List Char)
  | [] => [[]]
  | c :: rest =>
    if c = separator then [] :: fields separator rest
    else match fields separator rest with
      | [] => [[c]]
      | field :: more => (c :: field) :: more

theorem fields_ne_nil (separator : Char) (s : List Char) : fields separator s ≠ [] := by
  cases s with
  | nil => simp [fields]
  | cons c rest =>
    simp only [fields]
    split
    · simp
    · split <;> simp

/-- With the separator put back between them, the fields are the text. -/
theorem intercalate_fields (separator : Char) (s : List Char) :
    List.intercalate [separator] (fields separator s) = s := by
  induction s with
  | nil => rfl
  | cons c rest ih =>
    simp only [fields]
    split
    · next same =>
      subst same
      rcases h : fields c rest with _ | ⟨field, more⟩
      · exact absurd h (fields_ne_nil c rest)
      · rw [h] at ih
        simpa [List.intercalate, List.intersperse] using ih
    · split
      · next h => exact absurd h (fields_ne_nil separator rest)
      · next field more h =>
        rw [h] at ih
        cases more <;> simpa [List.intercalate, List.intersperse] using ih

theorem separator_not_mem_field {separator : Char} {s field : List Char}
    (h : field ∈ fields separator s) : separator ∉ field := by
  induction s generalizing field with
  | nil => simp_all [fields]
  | cons c rest ih =>
    simp only [fields] at h
    split at h
    · rcases List.mem_cons.mp h with rfl | h
      · simp
      · exact ih h
    · next other =>
      split at h
      · next empty => exact absurd empty (fields_ne_nil separator rest)
      · next first more parts =>
        rcases List.mem_cons.mp h with rfl | h
        · have : separator ∉ first := ih (by rw [parts]; simp)
          simp [this, Ne.symm other]
        · exact ih (by rw [parts]; exact List.mem_cons_of_mem _ h)

end RequestTrail.Text
