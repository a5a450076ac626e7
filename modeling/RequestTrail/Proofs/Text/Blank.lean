import Mathlib.Data.List.Basic
import RequestTrail.Proofs.Text.Search
import RequestTrail.Text.Ascii
import RequestTrail.Text.Blank

/-! Trimming a text that stands between blanks, and texts that are equal up to the case of letters. -/
namespace RequestTrail.Text

variable {p : Char → Bool} {a b core : List Char} {c : Char}

/-- What stands between the characters that are dropped is kept when it starts and ends otherwise. -/
theorem trimBy_append (nonempty : core ≠ []) (left : ∀ c ∈ a, p c = true) (right : ∀ c ∈ b, p c = true)
    (first : ∀ c ∈ core.head?, p c = false) (last : ∀ c ∈ core.getLast?, p c = false) :
    trimBy p (a ++ (core ++ b)) = core := by
  have start : (a ++ (core ++ b)).dropWhile p = core ++ b := by
    refine dropWhile_append_of_stops left fun c m => ?_
    cases core with
    | nil => exact absurd rfl nonempty
    | cons d core => exact first c m
  have finish : (b.reverse ++ core.reverse).dropWhile p = core.reverse := by
    refine dropWhile_append_of_stops (fun c m => right c (List.mem_reverse.mp m)) fun c m => last c ?_
    rwa [List.head?_reverse] at m
  rw [trimBy, start, List.reverse_append, finish, List.reverse_reverse]

theorem trimBy_of_ends (nonempty : core ≠ []) (first : ∀ c ∈ core.head?, p c = false)
    (last : ∀ c ∈ core.getLast?, p c = false) : trimBy p core = core := by
  have none : ∀ c ∈ ([] : List Char), p c = true := fun _ m => by cases m
  simpa using trimBy_append nonempty none none first last

/-- A text in which nothing is dropped stays whole. -/
theorem trimBy_of_free (free : ∀ c ∈ core, p c = false) : trimBy p core = core := by
  by_cases empty : core = []
  · rw [empty]
    rfl
  · exact trimBy_of_ends empty (fun c m => free c (List.mem_of_mem_head? m))
      fun c m => free c (List.mem_of_mem_getLast? m)

/-- A text with nothing to trim. -/
structure IsTrimmed (s : List Char) : Prop where
  nonempty : s ≠ []
  first : ∀ c ∈ s.head?, isBlank c = false
  last : ∀ c ∈ s.getLast?, isBlank c = false

theorem isTrimmed_of_marks {opening closing : Char} (inner : List Char) (left : isBlank opening = false)
    (right : isBlank closing = false) : IsTrimmed (opening :: (inner ++ [closing])) := by
  refine ⟨List.cons_ne_nil _ _, fun c m => ?_, fun c m => ?_⟩
  · obtain rfl : opening = c := by simpa using m
    exact left
  · rw [← List.cons_append, List.getLast?_concat] at m
    exact Option.some.inj m ▸ right

theorem isTrimmed_of_visible (nonempty : core ≠ []) (visible : ∀ c ∈ core, isBlank c = false) :
    IsTrimmed core :=
  ⟨nonempty, fun c m => visible c (List.mem_of_mem_head? m), fun c m => visible c (List.mem_of_mem_getLast? m)⟩

/-- What starts visibly may stand before a trimmed text. -/
theorem IsTrimmed.behind (visible : isBlank c = false) (front : List Char) (trimmed : IsTrimmed core) :
    IsTrimmed (c :: (front ++ core)) := by
  refine ⟨List.cons_ne_nil _ _, fun d m => ?_, fun d m => ?_⟩
  · obtain rfl : c = d := by simpa using m
    exact visible
  · rw [← List.cons_append, List.getLast?_append] at m
    cases ends : core.getLast? with
    | none => exact absurd (List.getLast?_eq_none_iff.mp ends) trimmed.nonempty
    | some x =>
      rw [ends] at m
      exact trimmed.last d (ends.trans m)

theorem IsTrimmed.trim_append (trimmed : IsTrimmed core) (left : ∀ c ∈ a, isBlank c = true)
    (right : ∀ c ∈ b, isBlank c = true) : trim (a ++ (core ++ b)) = core :=
  trimBy_append trimmed.nonempty left right trimmed.first trimmed.last

/-- What is cut off satisfies the predicate, and nothing more can be cut off. -/
theorem exists_trimBy (p : Char → Bool) (s : List Char) : ∃ left right, s = left ++ (trimBy p s ++ right) ∧
    (∀ c ∈ left, p c = true) ∧ (∀ c ∈ right, p c = true) ∧ (trimBy p s ≠ [] →
      (∀ c ∈ (trimBy p s).head?, p c = false) ∧ ∀ c ∈ (trimBy p s).getLast?, p c = false) := by
  obtain ⟨left, rest, rfl, blank, stops⟩ := exists_run p s
  obtain ⟨right, core, reversed, blank', stops'⟩ := exists_run p rest.reverse
  obtain rfl : rest = core.reverse ++ right.reverse := by
    rw [← List.reverse_append, ← reversed, List.reverse_reverse]
  have start : (left ++ (core.reverse ++ right.reverse)).dropWhile p = core.reverse ++ right.reverse :=
    dropWhile_append_of_stops blank stops
  have trimmed : trimBy p (left ++ (core.reverse ++ right.reverse)) = core.reverse := by
    rw [trimBy, start, reversed, dropWhile_append_of_stops blank' stops']
  rw [trimmed]
  refine ⟨left, right.reverse, rfl, blank, fun c m => blank' c (List.mem_reverse.mp m), fun nonempty => ?_⟩
  refine ⟨fun c m => ?_, fun c m => ?_⟩
  · apply stops c
    rw [List.head?_append, m]
    rfl
  · rw [List.getLast?_reverse] at m
    exact stops' c m

/-- Of a text that goes on visibly the start is cut off as before, and nothing at the end. -/
theorem exists_trimBy_append (some : b ≠ []) (visible : ∀ c ∈ b, p c = false) (a : List Char) :
    ∃ right, right <:+ a ∧ (∀ c ∈ right, p c = true) ∧ trimBy p (a ++ b) = trimBy p a ++ (right ++ b) := by
  have last (front : List Char) : ∀ c ∈ (front ++ b).getLast?, p c = false := by
    intro c m
    rw [List.getLast?_append_of_ne_nil front some] at m
    exact visible c (List.mem_of_mem_getLast? m)
  obtain ⟨left, right, split, before, behind, ends⟩ := exists_trimBy p a
  by_cases empty : trimBy p a = []
  · -- All of it stands at the left then.
    have found : trimBy p (left ++ right ++ (b ++ [])) = b :=
      trimBy_append some (List.forall_mem_append.mpr ⟨before, behind⟩) (List.forall_mem_nil _)
        (fun c m => visible c (List.mem_of_mem_head? m)) (last [])
    refine ⟨[], List.nil_suffix, List.forall_mem_nil _, ?_⟩
    rw [empty, List.nil_append] at split ⊢
    rwa [List.append_nil, ← split] at found
  · have found : trimBy p (left ++ (trimBy p a ++ (right ++ b) ++ [])) = trimBy p a ++ (right ++ b) := by
      refine trimBy_append (by simp [empty]) before (List.forall_mem_nil _) (fun c m => ?_) ?_
      · rw [List.head?_append_of_ne_nil _ empty] at m
        exact (ends empty).1 c m
      · rw [← List.append_assoc]
        exact last _
    have whole : a ++ b = left ++ (trimBy p a ++ (right ++ b) ++ []) := calc
      a ++ b = left ++ (trimBy p a ++ right) ++ b := congrArg (· ++ b) split
      _ = _ := by simp
    refine ⟨right, ⟨left ++ trimBy p a, ?_⟩, behind, whole ▸ found⟩
    rw [List.append_assoc]
    exact split.symm

/-- Nothing but blanks is cut off, and as many as there are. -/
theorem exists_trim (s : List Char) : ∃ left right, s = left ++ (trim s ++ right) ∧
    (∀ c ∈ left, isBlank c = true) ∧ (∀ c ∈ right, isBlank c = true) ∧ (trim s ≠ [] → IsTrimmed (trim s)) := by
  obtain ⟨left, right, same, blank, blank', ends⟩ := exists_trimBy isBlank s
  exact ⟨left, right, same, blank, blank', fun nonempty => ⟨nonempty, (ends nonempty).1, (ends nonempty).2⟩⟩

/-- What starts visibly is a trimmed text before blanks. -/
theorem exists_isTrimmed_cons (visible : isBlank c = false) (s : List Char) :
    ∃ more right, s = more ++ right ∧ IsTrimmed (c :: more) ∧ ∀ c ∈ right, isBlank c = true := by
  obtain ⟨left, right, same, blankLeft, blankRight, trimmed⟩ := exists_trim (c :: s)
  have first {rest : List Char} {d : Char} (split : c :: s = d :: rest) : isBlank d = false := by
    rw [← (List.cons.inj split).1]
    exact visible
  obtain rfl : left = [] := by
    cases left with
    | nil => rfl
    | cons d left =>
      have blank := blankLeft d (.head left)
      rw [first same] at blank
      cases blank
  cases core : trim (c :: s) with
  | nil =>
    rw [core, List.nil_append, List.nil_append] at same
    have blank := blankRight c (same ▸ .head s)
    rw [visible] at blank
    cases blank
  | cons d more =>
    rw [core] at same trimmed
    obtain ⟨rfl, rfl⟩ := List.cons.inj same
    exact ⟨more, right, rfl, trimmed (List.cons_ne_nil c more), blankRight⟩

theorem trim_append_left (blank : ∀ c ∈ a, isBlank c = true) (b : List Char) : trim (a ++ b) = trim b := by
  rw [trim, trim, trimBy, trimBy, List.dropWhile_append_of_pos blank]

/-! ### Letters -/

/-- No blank is a letter. -/
theorem toLower_of_isBlank (blank : isBlank c = true) : c.toLower = c := by
  have other : ¬(0x41 ≤ c.toNat ∧ c.toNat ≤ 0x5A) := by
    rintro ⟨low, high⟩
    simp only [isBlank, Bool.or_eq_true, Bool.and_eq_true, decide_eq_true_eq, beq_iff_eq] at blank
    omega
  unfold Char.toLower
  rw [dif_neg]
  rintro ⟨low, high⟩
  exact other ⟨UInt32.le_iff_toNat_le.mp low, UInt32.le_iff_toNat_le.mp high⟩

/-- Equal names hold the same characters other than letters. -/
theorem not_mem_of_sameName (same : sameName a b = true) (fixed : c.toLower = c) (absent : c ∉ lower b) :
    c ∉ a := by
  intro m
  have inside : c.toLower ∈ lower a := List.mem_map_of_mem m
  rw [eq_of_beq same, fixed] at inside
  exact absent inside

theorem isBlank_of_sameName (same : sameName a b = true) (free : ∀ c ∈ lower b, isBlank c = false) :
    ∀ c ∈ a, isBlank c = false := by
  intro c m
  cases blank : isBlank c with
  | false => rfl
  | true =>
    have absent : c ∉ lower b := fun inside => by simp [free c inside] at blank
    exact absurd m (not_mem_of_sameName same (toLower_of_isBlank blank) absent)

end RequestTrail.Text
