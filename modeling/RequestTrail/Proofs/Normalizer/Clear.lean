import Mathlib.Data.List.Infix
import RequestTrail.Proofs.Normalizer.Plain

/-! Texts in which no parameter opens, and what normalizing does to one parameter that stands between
such texts. Texts are joined apart when the right one starts with a character that can only come first
in an opening, or the left one ends with one that can only come last. -/
namespace RequestTrail

open Text Parameter

/-- No parameter opens in the text. -/
structure IsClear (s : String) : Prop where
  page : ¬pageToken.opening <:+: s.toList
  generation : ¬generationMatch.opening <:+: s.toList

/-- No opening crosses from one text into the next. -/
structure Apart (s t : String) : Prop where
  page : ¬Crosses pageToken.opening s.toList t.toList
  generation : ¬Crosses generationMatch.opening s.toList t.toList

/-- No opening goes on with the first character. -/
def Starts (s : String) : Prop :=
  ∀ c ∈ s.toList.head?, c ∉ pageToken.opening.tail ∧ c ∉ generationMatch.opening.tail

/-- No opening goes on after the last character. -/
def Ends (s : String) : Prop :=
  ∀ c ∈ s.toList.getLast?, c ∉ pageToken.opening.dropLast ∧ c ∉ generationMatch.opening.dropLast

/-- A clear text that is apart from whatever stands on its sides. -/
structure IsSeam (s : String) : Prop where
  nonempty : s ≠ ""
  clear : IsClear s
  starts : Starts s
  ends : Ends s

instance (s : String) : Decidable (IsClear s) :=
  decidable_of_iff (¬pageToken.opening <:+: s.toList ∧ ¬generationMatch.opening <:+: s.toList)
    ⟨fun h => ⟨h.1, h.2⟩, fun h => ⟨h.page, h.generation⟩⟩

instance (s : String) : Decidable (Starts s) := Option.decidableForallMem s.toList.head?

instance (s : String) : Decidable (Ends s) := Option.decidableForallMem s.toList.getLast?

instance (s : String) : Decidable (IsSeam s) :=
  decidable_of_iff (s ≠ "" ∧ IsClear s ∧ Starts s ∧ Ends s)
    ⟨fun h => ⟨h.1, h.2.1, h.2.2.1, h.2.2.2⟩, fun h => ⟨h.nonempty, h.clear, h.starts, h.ends⟩⟩

variable {s t start rest : String}

theorem Starts.apart (starts : Starts t) (s : String) : Apart s t := by
  cases split : t.toList with
  | nil =>
    have never (p : Parameter) : ¬Crosses p.opening s.toList t.toList := by
      rintro ⟨left, right, _, nonempty, _, _, inside⟩
      rw [split] at inside
      exact nonempty (List.prefix_nil.mp inside)
    exact ⟨never _, never _⟩
  | cons c more =>
    obtain ⟨page, generation⟩ := starts c (by simp [split])
    constructor
    · rw [split]
      exact not_crosses_of_head page _
    · rw [split]
      exact not_crosses_of_head generation _

theorem Ends.apart (ends : Ends s) (t : String) : Apart s t := by
  by_cases empty : s.toList = []
  · have never (p : Parameter) : ¬Crosses p.opening s.toList t.toList := by
      rintro ⟨left, right, nonempty, _, _, inside, _⟩
      rw [empty] at inside
      exact nonempty (List.suffix_nil.mp inside)
    exact ⟨never _, never _⟩
  · obtain ⟨init, c, split⟩ : ∃ init c, s.toList = init ++ [c] :=
      ⟨_, _, (List.dropLast_concat_getLast empty).symm⟩
    obtain ⟨page, generation⟩ := ends c (by simp [split])
    constructor
    · rw [split]
      exact not_crosses_of_last page _
    · rw [split]
      exact not_crosses_of_last generation _

/-- The start of a text decides, whatever follows. -/
theorem Starts.append (starts : Starts s) (nonempty : s ≠ "") (t : String) : Starts (s ++ t) := by
  intro c first
  apply starts
  rw [String.toList_append, List.head?_append_of_ne_nil] at first
  · exact first
  · exact fun empty => nonempty (String.toList_eq_nil_iff.mp empty)

theorem Ends.append (ends : Ends t) (nonempty : t ≠ "") (s : String) : Ends (s ++ t) := by
  intro c last
  apply ends
  rw [String.toList_append, List.getLast?_append_of_ne_nil] at last
  · exact last
  · exact fun empty => nonempty (String.toList_eq_nil_iff.mp empty)

namespace IsClear

theorem append (hs : IsClear s) (ht : IsClear t) (apart : Apart s t) : IsClear (s ++ t) := by
  constructor
  · rw [String.toList_append, infix_append_iff]
    rintro (left | right | across)
    · exact hs.page left
    · exact ht.page right
    · exact apart.page across
  · rw [String.toList_append, infix_append_iff]
    rintro (left | right | across)
    · exact hs.generation left
    · exact ht.generation right
    · exact apart.generation across

/-- A text that starts and ends apart joins any two. -/
theorem join {m : String} (hs : IsClear s) (hm : IsSeam m) (ht : IsClear t) :
    IsClear (s ++ m ++ t) := by
  have first : IsClear (s ++ m) := hs.append hm.clear (hm.starts.apart s)
  exact first.append ht ((hm.ends.append hm.nonempty s).apart t)

/-- Every opening has an equals sign. -/
theorem of_isPlain (plain : IsPlain s) : IsClear s := by
  constructor
  · intro opens
    exact plain.assigns (opens.subset (by decide))
  · intro opens
    exact plain.assigns (opens.subset (by decide))

end IsClear

namespace Parameter

variable {p : Parameter} {a b : List Char}

theorem replace_of_absent (absent : ¬p.opening <:+: a) (position : Nat) :
    p.replace position a = a := by
  apply replace_of_bare
  intro before value same
  exact absurd ⟨before, value, by rw [same, List.append_assoc]⟩ absent

/-- Where nothing opens in a text or across its end, replacement goes on after it. -/
theorem replace_append_of_absent (absent : ¬p.opening <:+: a) (apart : ¬Crosses p.opening a b)
    (position : Nat) : p.replace position (a ++ b) = a ++ p.replace position b := by
  induction a with
  | nil => rfl
  | cons c a ih =>
    have passed : p.skip? (c :: (a ++ b)) = none := by
      by_contra found
      obtain ⟨left, found⟩ := Option.ne_none_iff_exists'.mp found
      obtain ⟨value, _, _, _, same⟩ := skip?_eq_some_iff.mp found
      have same : (c :: a) ++ b = p.opening ++ (value ++ left) := same
      rcases List.append_eq_append_iff.mp same with ⟨m, opening, rfl⟩ | ⟨m, inside, _⟩
      · by_cases empty : m = []
        · exact absent ⟨[], [], by simp [opening, empty]⟩
        · exact apart ⟨c :: a, m, List.cons_ne_nil c a, empty, opening, List.suffix_rfl,
            List.prefix_append _ _⟩
      · exact absent ⟨[], m, by simp [inside]⟩
    have absent' : ¬p.opening <:+: a := by
      intro inside
      exact absent (inside.trans (List.suffix_cons c a).isInfix)
    have apart' : ¬Crosses p.opening a b := by
      rintro ⟨left, right, nonempty, other, same, ends, starts⟩
      exact apart ⟨left, right, nonempty, other, same, ends.trans (List.suffix_cons c a), starts⟩
    rw [List.cons_append, replace_cons position passed, ih absent' apart', List.cons_append]

end Parameter

theorem normalizeAt_of_isClear (clear : IsClear s) (position : Nat) : normalizeAt position s = s := by
  rw [normalizeAt, replace_of_absent clear.page, replace_of_absent clear.generation, String.ofList_toList]

/-- A generation token after a clear text takes the number of the position, whatever its value is. -/
theorem normalizeAt_generation {value : String} (before : IsClear start) (ends : Ends start)
    (nonempty : value ≠ "") (free : '&' ∉ value.toList) (after : IsClear rest)
    (stops : rest = "" ∨ ∃ more, rest.toList = '&' :: more) (position : Nat) :
    normalizeAt position (start ++ ("ifGenerationMatch=" ++ value ++ rest)) =
      start ++ ("ifGenerationMatch=GenerationMatch_token_" ++ toString position ++ rest) := by
  have tail : ("ifGenerationMatch=" ++ value ++ rest).toList =
      generationMatch.opening ++ (value.toList ++ rest.toList) := by
    simp only [String.toList_append, List.append_assoc]
    rfl
  have apart : Apart start ("ifGenerationMatch=" ++ value ++ rest) := ends.apart _
  have noPage : ¬pageToken.opening <:+: (start ++ ("ifGenerationMatch=" ++ value ++ rest)).toList := by
    rw [String.toList_append, infix_append_iff]
    rintro (left | right | across)
    · exact before.page left
    · have opened : '&' ∉ generationMatch.opening ++ value.toList := by
        rw [List.mem_append, not_or]
        exact ⟨by decide, free⟩
      rw [tail, ← List.append_assoc] at right
      exact after.page (infix_append_of_not_mem opened right)
    · exact apart.page across
  have found : generationMatch.skip? (generationMatch.opening ++ (value.toList ++ rest.toList)) =
      some rest.toList := by
    apply skip?_eq_some_iff.mpr
    refine ⟨value.toList, fun empty => nonempty (String.toList_eq_nil_iff.mp empty), free, ?_, rfl⟩
    rcases stops with rfl | stops
    · exact Or.inl rfl
    · exact Or.inr stops
  apply String.toList_inj.mp
  rw [normalizeAt, String.toList_ofList, replace_of_absent noPage, String.toList_append,
    replace_append_of_absent before.generation apart.generation, tail, replace_of_skip? position found,
    replace_of_absent after.generation]
  have placeholder : "ifGenerationMatch=GenerationMatch_token_".toList =
      generationMatch.opening ++ generationMatch.placeholder := by decide
  simp only [String.toList_append, placeholder, numbered]

/-- What a page token shows at a position. -/
def shownPage (position : Nat) (value : String) : String :=
  if value = "" then "" else "token_" ++ toString position

theorem Segment.withPageToken_append (position : Nat) (value : String) :
    Segment.withPageToken position (Segment.pageName ++ value.toList) =
      Segment.pageName ++ (shownPage position value).toList := by
  by_cases empty : value = ""
  · rw [shownPage, if_pos empty, empty]
    rfl
  · have token : Segment.isPageToken (Segment.pageName ++ value.toList) = true := by
      apply Segment.isPageToken_iff.mpr
      exact ⟨_, fun none => empty (String.toList_eq_nil_iff.mp none), rfl⟩
    rw [Segment.withPageToken, if_pos token, shownPage, if_neg empty, String.toList_append,
      Segment.pageToken, List.append_assoc]
    rfl

theorem not_mem_shownPage {c : Char} {value : String} (position : Nat) (other : c.isDigit = false)
    (absent : c ∉ "token_".toList) : c ∉ (shownPage position value).toList := by
  rw [shownPage]
  split
  · exact List.not_mem_nil
  · rw [String.toList_append]
    exact not_mem_append_toString position other absent

/-- A page token between clear texts takes the number of the position when it has a value. -/
theorem normalizeAt_pageToken {value : String} {more : List Char} (before : IsClear start)
    (free : '&' ∉ value.toList) (after : IsClear rest) (stops : rest.toList = '&' :: more)
    (position : Nat) :
    normalizeAt position (start ++ ("&pageToken=" ++ value ++ rest)) =
      start ++ ("&pageToken=" ++ shownPage position value ++ rest) := by
  have tail (text : String) : ("&pageToken=" ++ text ++ rest).toList =
      ('&' :: (Segment.pageName ++ text.toList)) ++ rest.toList := by
    have opening : "&pageToken=".toList = '&' :: Segment.pageName := rfl
    simp only [String.toList_append, opening, List.cons_append, List.append_assoc]
  have apart (text : String) : Apart start ("&pageToken=" ++ text ++ rest) := by
    apply Starts.apart
    rw [String.append_assoc]
    exact Starts.append (by decide) (by decide) _
  have freeSegment : '&' ∉ Segment.pageName ++ value.toList := by
    rw [List.mem_append, not_or]
    exact ⟨by decide, free⟩
  have freeTail : '&' ∉ ('&' :: (Segment.pageName ++ value.toList)).tail := freeSegment
  have paged : pageToken.replace position (start ++ ("&pageToken=" ++ value ++ rest)).toList =
      (start ++ ("&pageToken=" ++ shownPage position value ++ rest)).toList := by
    rw [String.toList_append, replace_append_of_absent before.page (apart value).page, tail, stops,
      replace_append local_pageToken freeTail, Segment.replace_pageToken_cons freeSegment,
      Segment.withPageToken_append, ← stops, replace_of_absent after.page, ← tail,
      ← String.toList_append]
  have noGeneration : ¬generationMatch.opening <:+:
      (start ++ ("&pageToken=" ++ shownPage position value ++ rest)).toList := by
    rw [String.toList_append, infix_append_iff]
    rintro (left | right | across)
    · exact before.generation left
    · have opened : 'i' ∉ '&' :: (Segment.pageName ++ (shownPage position value).toList) := by
        rw [List.mem_cons, List.mem_append, not_or, not_or]
        exact ⟨by decide, by decide, not_mem_shownPage position (by decide) (by decide)⟩
      rw [tail] at right
      exact after.generation (infix_append_of_not_mem opened right)
    · exact (apart _).generation across
  rw [normalizeAt, paged, replace_of_absent noGeneration, String.ofList_toList]

end RequestTrail
