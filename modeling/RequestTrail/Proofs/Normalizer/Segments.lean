import Mathlib.Data.List.Basic
import Mathlib.Data.List.TakeWhile
import RequestTrail.Normalizer
import RequestTrail.Proofs.Text.Fields
import RequestTrail.Proofs.Text.Search

/-! Normalizing is done segment by segment: no value reaches past an ampersand, and no opening has one
except as its first character. A page token is a whole segment after the first, and a generation
token the rest of any segment. -/
namespace RequestTrail

open Text

namespace Parameter

variable {p : Parameter} {c : Char} {s t rest head before value : List Char}
  {others : List (List Char)} {position : Nat}

/-- An opening whose first character alone may be an ampersand. -/
structure Local (p : Parameter) : Prop where
  nonempty : p.opening ≠ []
  free : '&' ∉ p.opening.tail

theorem local_pageToken : pageToken.Local := ⟨by decide, by decide⟩

theorem local_generationMatch : generationMatch.Local := ⟨by decide, by decide⟩

theorem dropWhile_stops (s : List Char) :
    s.dropWhile (· != '&') = [] ∨ ∃ more, s.dropWhile (· != '&') = '&' :: more := by
  induction s with
  | nil => exact Or.inl rfl
  | cons c s ih => by_cases same : c = '&' <;> simp_all

/-- What is skipped is the opening and the whole of a value, up to an ampersand or the end. -/
theorem skip?_eq_some_iff : p.skip? s = some rest ↔ ∃ value, value ≠ [] ∧ '&' ∉ value ∧
    (rest = [] ∨ ∃ more, rest = '&' :: more) ∧ s = p.opening ++ (value ++ rest) := by
  constructor
  · intro found
    unfold skip? at found
    split at found
    next stands =>
      obtain ⟨after, rfl⟩ := List.isPrefixOf_iff_prefix.mp stands
      rw [List.drop_left] at found
      cases after with
      | nil => simp at found
      | cons c after =>
        simp only at found
        split at found
        · simp at found
        next other =>
          obtain rfl := Option.some.inj found
          refine ⟨c :: after.takeWhile (· != '&'), by simp, ?_, ?_, by simp⟩
          · have taken : '&' ∉ after.takeWhile (· != '&') := by
              intro h
              simpa using List.mem_takeWhile_imp h
            simp [taken, Ne.symm other]
          · exact dropWhile_stops after
    next => simp at found
  · rintro ⟨value, nonempty, free, stops, rfl⟩
    have stands : p.opening.isPrefixOf (p.opening ++ (value ++ rest)) = true :=
      List.isPrefixOf_iff_prefix.mpr (List.prefix_append _ _)
    rw [skip?, if_pos stands, List.drop_left]
    cases value with
    | nil => exact absurd rfl nonempty
    | cons c value =>
      simp only [List.mem_cons, not_or] at free
      have inside : ∀ d ∈ value, (d != '&') = true := by
        intro d h
        simpa using fun same : d = '&' => free.2 (same ▸ h)
      have passed : (value ++ rest).dropWhile (· != '&') = rest := by
        rw [List.dropWhile_append_of_pos inside]
        rcases stops with rfl | ⟨more, rfl⟩ <;> simp
      simp [Ne.symm free.1, passed]

/-- In a text with no further ampersand, an opening with a value takes all that is left. -/
theorem skip?_eq_some_nil (hp : p.Local) (free : '&' ∉ s.tail) (found : p.skip? s = some rest) :
    rest = [] := by
  obtain ⟨value, _, _, rfl | ⟨more, rfl⟩, rfl⟩ := skip?_eq_some_iff.mp found
  · rfl
  · obtain ⟨o, os, opening⟩ := List.exists_cons_of_ne_nil hp.nonempty
    simp [opening] at free

theorem skip?_append (hp : p.Local) (free : '&' ∉ s) (rest : List Char) :
    p.skip? (c :: s ++ '&' :: rest) = (p.skip? (c :: s)).map fun _ => '&' :: rest := by
  cases found : p.skip? (c :: s) with
  | some left =>
    obtain rfl := skip?_eq_some_nil hp (by simpa using free) found
    obtain ⟨value, nonempty, freeValue, _, same⟩ := skip?_eq_some_iff.mp found
    refine skip?_eq_some_iff.mpr ⟨value, nonempty, freeValue, Or.inr ⟨rest, rfl⟩, ?_⟩
    rw [same]
    simp
  | none =>
    by_contra elsewhere
    obtain ⟨left, found'⟩ := Option.ne_none_iff_exists'.mp elsewhere
    obtain ⟨value, nonempty, freeValue, stops, same⟩ := skip?_eq_some_iff.mp found'
    obtain ⟨o, os, opening⟩ := List.exists_cons_of_ne_nil hp.nonempty
    have freeOpening : '&' ∉ os := by simpa [opening] using hp.free
    have freeBoth : '&' ∉ os ++ value := by simp [freeOpening, freeValue]
    rw [opening, List.cons_append, List.cons_append] at same
    obtain ⟨rfl, tails⟩ := List.cons.inj same
    rcases stops with rfl | ⟨more, rfl⟩
    · rw [List.append_nil] at tails
      exact freeBoth (tails ▸ by simp)
    · rw [← List.append_assoc] at tails
      obtain ⟨rfl, _⟩ := append_cons_inj free freeBoth tails
      have found'' : p.skip? (c :: (os ++ value)) = some [] :=
        skip?_eq_some_iff.mpr ⟨value, nonempty, freeValue, Or.inl rfl, by simp [opening]⟩
      rw [found] at found''
      cases found''

/-- Replacement does not look past an ampersand. -/
theorem replace_append (hp : p.Local) (free : '&' ∉ s.tail) (rest : List Char) (position : Nat) :
    p.replace position (s ++ '&' :: rest) =
      p.replace position s ++ p.replace position ('&' :: rest) := by
  induction s with
  | nil => simp
  | cons c s ih =>
    rw [List.tail_cons] at free
    have skip : p.skip? (c :: s ++ '&' :: rest) = (p.skip? (c :: s)).map fun _ => '&' :: rest :=
      skip?_append hp free rest
    cases found : p.skip? (c :: s) with
    | some left =>
      obtain rfl := skip?_eq_some_nil hp (by simpa using free) found
      rw [replace_of_skip? position (by rw [skip, found]; rfl), replace_of_skip? position found]
      simp
    | none =>
      have skip : p.skip? (c :: (s ++ '&' :: rest)) = none := by simpa [found] using skip
      rw [List.cons_append, replace_cons position skip, replace_cons position found,
        ih fun h => free (List.mem_of_mem_tail h), List.cons_append]

/-- Every segment is replaced on its own, together with the ampersand before it. -/
theorem replace_append_flatMap (hp : p.Local) (free : '&' ∉ s.tail)
    (freeOthers : ∀ segment ∈ others, '&' ∉ segment) (position : Nat) :
    p.replace position (s ++ others.flatMap ('&' :: ·)) =
      p.replace position s ++ others.flatMap fun segment => p.replace position ('&' :: segment) := by
  induction others generalizing s with
  | nil => simp
  | cons segment others ih =>
    have freeSegment : '&' ∉ ('&' :: segment).tail := freeOthers segment (by simp)
    have tails := ih freeSegment fun t h => freeOthers t (by simp [h])
    rw [List.flatMap_cons, List.cons_append, replace_append hp free, List.flatMap_cons, ← tails,
      List.cons_append]

/-- The first opening with a value after it takes the rest of the segment with it. -/
theorem replace_of_cut (hp : p.Local) (free : '&' ∉ s.tail)
    (cut : cutAtFirst p.opening s = some (before, value)) (nonempty : value ≠ [])
    (position : Nat) : p.replace position s = before ++ p.numbered position := by
  induction before generalizing s with
  | nil =>
    obtain ⟨_, rfl, _⟩ := cutAtFirst_eq_some_iff.mp cut
    obtain ⟨o, os, opening⟩ := List.exists_cons_of_ne_nil hp.nonempty
    have freeValue : '&' ∉ value := fun h => free (by simp [opening, h])
    have found : p.skip? ([] ++ (p.opening ++ value)) = some [] :=
      skip?_eq_some_iff.mpr ⟨value, nonempty, freeValue, Or.inl rfl, by simp⟩
    rw [replace_of_skip? position found, replace_nil, List.append_nil, List.nil_append]
  | cons c before ih =>
    obtain ⟨_, rfl, nowhere⟩ := cutAtFirst_eq_some_iff.mp cut
    have passed : p.skip? (c :: (before ++ (p.opening ++ value))) = none := by
      by_contra found
      obtain ⟨rest, found⟩ := Option.ne_none_iff_exists'.mp found
      obtain ⟨_, _, _, _, same⟩ := skip?_eq_some_iff.mp found
      exact nowhere 0 (by simp) ⟨_, same.symm⟩
    have cut' : cutAtFirst p.opening (before ++ (p.opening ++ value)) = some (before, value) :=
      cutAtFirst_eq_some_iff.mpr ⟨hp.nonempty, rfl, fun j h => nowhere (j + 1) (by simpa using h)⟩
    have free' : '&' ∉ (before ++ (p.opening ++ value)).tail :=
      fun h => free (List.mem_of_mem_tail h)
    rw [List.cons_append, replace_cons position passed, ih free' cut', List.cons_append]

/-- Where no opening has a value there is nothing to replace. -/
theorem replace_of_bare (bare : ∀ before value, s = before ++ (p.opening ++ value) → value = [])
    (position : Nat) : p.replace position s = s := by
  induction s with
  | nil => simp
  | cons c s ih =>
    have passed : p.skip? (c :: s) = none := by
      by_contra found
      obtain ⟨rest, found⟩ := Option.ne_none_iff_exists'.mp found
      obtain ⟨value, nonempty, _, _, same⟩ := skip?_eq_some_iff.mp found
      have empty := bare [] (value ++ rest) same
      exact nonempty (List.append_eq_nil_iff.mp empty).1
    rw [replace_cons position passed, ih]
    intro before value same
    exact bare (c :: before) value (by rw [same, List.cons_append])

/-- Occurrences come in order, so when the first has no value none has. -/
theorem bare_of_cut (none : ∀ before value, cutAtFirst p.opening s = some (before, value) → value = [])
    (hp : p.Local) : ∀ before value, s = before ++ (p.opening ++ value) → value = [] := by
  intro before value same
  cases cut : cutAtFirst p.opening s with
  | none =>
    rcases cutAtFirst_eq_none_iff.mp cut with empty | nowhere
    · exact absurd empty hp.nonempty
    · exact absurd ⟨value, by rw [same, List.drop_left]⟩ (nowhere before.length)
  | some parts =>
    obtain ⟨before', value'⟩ := parts
    obtain rfl := none before' value' cut
    obtain ⟨_, same', nowhere⟩ := cutAtFirst_eq_some_iff.mp cut
    have later : before'.length ≤ before.length := by
      by_contra earlier
      exact nowhere before.length (by omega) ⟨value, by rw [same, List.drop_left]⟩
    have lengths := congrArg List.length (same.symm.trans same')
    simp only [List.length_append, List.length_nil] at lengths
    exact List.eq_nil_of_length_eq_zero (by omega)

end Parameter

open Parameter

theorem isDigit_of_mem_toString {n : Nat} {c : Char} (h : c ∈ (toString n).toList) :
    c.isDigit = true := by
  rw [Nat.toString_eq_repr, Nat.toList_repr] at h
  exact Nat.isDigit_of_mem_toDigits (by decide) (by decide) h

/-- A placeholder and its number hold no character that is neither in the placeholder nor a digit. -/
theorem not_mem_append_toString {c : Char} {placeholder : List Char} (n : Nat)
    (other : c.isDigit = false) (absent : c ∉ placeholder) :
    c ∉ placeholder ++ (toString n).toList := by
  intro h
  rcases List.mem_append.mp h with h | h
  · exact absent h
  · rw [isDigit_of_mem_toString h] at other
    cases other

namespace Segment

/-- A page token's parameter as it stands in its segment. -/
def pageName : List Char := "pageToken=".toList

theorem pageName_eq : pageName = "pageToken".toList ++ ['='] := rfl

theorem opening_generationMatch : generationMatch.opening = "ifGenerationMatch".toList ++ ['='] := rfl

/-- A page token with a value that is not empty. -/
def isPageToken (s : List Char) : Bool := pageName.isPrefixOf s && pageName.length < s.length

def pageToken (position : Nat) : List Char :=
  pageName ++ Parameter.pageToken.placeholder ++ (toString position).toList

/-- A segment that does not lead the text, when page tokens are replaced. -/
def withPageToken (position : Nat) (s : List Char) : List Char :=
  if isPageToken s then pageToken position else s

/-- What a segment becomes at a position. The one that leads the text is never a page token. -/
def rewrite (position : Nat) (leads : Bool) (s : List Char) : List Char :=
  if !leads && isPageToken s then pageToken position
  else match cutAtFirst generationMatch.opening s with
    | some (before, _ :: _) => before ++ generationMatch.numbered position
    | _ => s

theorem isPageToken_iff {s : List Char} :
    isPageToken s = true ↔ ∃ value, value ≠ [] ∧ s = pageName ++ value := by
  simp only [isPageToken, Bool.and_eq_true, decide_eq_true_eq, List.isPrefixOf_iff_prefix]
  constructor
  · rintro ⟨⟨value, rfl⟩, longer⟩
    refine ⟨value, ?_, rfl⟩
    rintro rfl
    simp at longer
  · rintro ⟨value, nonempty, rfl⟩
    exact ⟨List.prefix_append _ _, by simpa [List.length_pos_iff] using nonempty⟩

theorem rewrite_of_isPageToken {s : List Char} (token : isPageToken s = true) (position : Nat) :
    rewrite position false s = pageToken position := by
  simp [rewrite, token]

theorem rewrite_of_cut {s before value : List Char} {leads : Bool}
    (other : leads = true ∨ isPageToken s = false)
    (cut : cutAtFirst generationMatch.opening s = some (before, value)) (nonempty : value ≠ [])
    (position : Nat) :
    rewrite position leads s = before ++ generationMatch.numbered position := by
  obtain ⟨c, value, rfl⟩ := List.exists_cons_of_ne_nil nonempty
  rcases other with rfl | other <;> simp [rewrite, *]

theorem rewrite_of_bare {s : List Char} {leads : Bool} (other : leads = true ∨ isPageToken s = false)
    (bare : ∀ before value, cutAtFirst generationMatch.opening s = some (before, value) → value = [])
    (position : Nat) : rewrite position leads s = s := by
  have kept : (!leads && isPageToken s) = false := by
    rcases other with rfl | other <;> simp [*]
  rw [rewrite, kept]
  cases cut : cutAtFirst generationMatch.opening s with
  | none => rfl
  | some parts =>
    obtain ⟨before, value⟩ := parts
    obtain rfl := bare before value cut
    rfl

theorem opening_pageToken : Parameter.pageToken.opening = '&' :: pageName := rfl

theorem numbered_pageToken (position : Nat) :
    Parameter.pageToken.numbered position = '&' :: pageToken position := by
  rw [numbered, opening_pageToken]
  rfl

theorem replace_pageToken_cons {s : List Char} (free : '&' ∉ s) (position : Nat) :
    Parameter.pageToken.replace position ('&' :: s) =
      '&' :: withPageToken position s := by
  unfold withPageToken
  split
  next token =>
    obtain ⟨value, nonempty, rfl⟩ := isPageToken_iff.mp token
    have cut : cutAtFirst Parameter.pageToken.opening ('&' :: (pageName ++ value)) =
        some ([], value) := by
      rw [cutAtFirst_eq_some_iff, opening_pageToken]
      exact ⟨List.cons_ne_nil _ _, rfl, fun j h => absurd h (Nat.not_lt_zero j)⟩
    have freeTail : '&' ∉ ('&' :: (pageName ++ value)).tail := free
    rw [replace_of_cut local_pageToken freeTail cut nonempty, numbered_pageToken, List.nil_append]
  next other =>
    refine replace_of_bare (fun before value same => ?_) position
    by_contra nonempty
    rw [opening_pageToken] at same
    cases before with
    | nil => exact other (isPageToken_iff.mpr ⟨value, nonempty, (List.cons.inj same).2⟩)
    | cons c before =>
      have tails := (List.cons.inj same).2
      exact free (by simp [tails])

theorem replace_generationMatch {s : List Char} {leads : Bool} (free : '&' ∉ s)
    (other : leads = true ∨ isPageToken s = false) (position : Nat) :
    generationMatch.replace position s = rewrite position leads s := by
  by_cases found : ∃ before value, cutAtFirst generationMatch.opening s = some (before, value) ∧
      value ≠ []
  · obtain ⟨before, value, cut, nonempty⟩ := found
    have freeTail : '&' ∉ s.tail := fun h => free (List.mem_of_mem_tail h)
    rw [replace_of_cut local_generationMatch freeTail cut nonempty,
      rewrite_of_cut other cut nonempty]
  · have bare : ∀ before value, cutAtFirst generationMatch.opening s = some (before, value) →
        value = [] := by
      intro before value cut
      by_contra nonempty
      exact found ⟨before, value, cut, nonempty⟩
    rw [replace_of_bare (bare_of_cut bare local_generationMatch), rewrite_of_bare other bare]

/-- A page token has no ampersand before it when it leads the text, so it is none. -/
theorem replace_pageToken_of_free {s : List Char} (free : '&' ∉ s) (position : Nat) :
    Parameter.pageToken.replace position s = s := by
  refine replace_of_bare (fun before value same => ?_) position
  rw [opening_pageToken] at same
  exact absurd (by simp [same]) free

/-- No generation token opens in the placeholder of a page token. -/
theorem replace_generationMatch_pageToken (position number : Nat) :
    generationMatch.replace position (pageToken number) = pageToken number := by
  refine replace_of_bare (fun before value same => ?_) position
  have absent : 'M' ∉ pageToken number := not_mem_append_toString number (by decide) (by decide)
  have present : 'M' ∈ generationMatch.opening := by decide
  exact absurd (by simp [same, present]) absent

theorem replace_generationMatch_cons (s : List Char) (position : Nat) :
    generationMatch.replace position ('&' :: s) = '&' :: generationMatch.replace position s := by
  refine replace_cons position ?_
  by_contra found
  obtain ⟨rest, found⟩ := Option.ne_none_iff_exists'.mp found
  obtain ⟨value, _, _, _, same⟩ := skip?_eq_some_iff.mp found
  have opening : generationMatch.opening = 'i' :: generationMatch.opening.tail := rfl
  rw [opening, List.cons_append] at same
  exact absurd (List.cons.inj same).1 (by decide)

/-- The second pass over a segment that does not lead the text. -/
theorem replace_generationMatch_withPageToken {s : List Char} (free : '&' ∉ s) (position : Nat) :
    generationMatch.replace position (withPageToken position s) = rewrite position false s := by
  unfold withPageToken
  split
  next token => rw [replace_generationMatch_pageToken, rewrite_of_isPageToken token]
  next other => exact replace_generationMatch free (Or.inr (Bool.eq_false_iff.mpr other)) position

theorem free_pageToken (position : Nat) : '&' ∉ pageToken position :=
  not_mem_append_toString position (by decide) (by decide)

theorem free_withPageToken {s : List Char} (free : '&' ∉ s) (position : Nat) :
    '&' ∉ withPageToken position s := by
  unfold withPageToken
  split
  · exact free_pageToken position
  · exact free

theorem free_rewrite {s : List Char} (free : '&' ∉ s) (position : Nat) (leads : Bool) :
    '&' ∉ rewrite position leads s := by
  unfold rewrite
  split
  · exact free_pageToken position
  · split
    next before c value cut =>
      obtain ⟨_, rfl, _⟩ := cutAtFirst_eq_some_iff.mp cut
      simp only [List.mem_append, not_or] at free ⊢
      exact ⟨free.1, not_mem_append_toString position (by decide) (by decide)⟩
    next => exact free

theorem free_replace_generationMatch {s : List Char} (free : '&' ∉ s) (position : Nat) :
    '&' ∉ generationMatch.replace position s := by
  rw [replace_generationMatch free (Or.inl rfl)]
  exact free_rewrite free position true

end Segment

theorem map_eq_mapIdx {α β : Type} (f : α → β) (xs : List α) : xs.map f = xs.mapIdx fun _ => f :=
  List.ext_getElem (by simp) (by simp)

/-- Page tokens are replaced in every segment but the one that leads the text. -/
theorem fields_replace_pageToken (position : Nat) (s : List Char) :
    fields '&' (Parameter.pageToken.replace position s) =
      (fields '&' s).mapIdx fun i t => if i = 0 then t else Segment.withPageToken position t := by
  obtain ⟨head, others, split⟩ := exists_fields_eq_cons '&' s
  obtain ⟨free, freeOthers, rfl⟩ := fields_eq_cons_iff.mp split
  have freeTail : '&' ∉ head.tail := fun h => free (List.mem_of_mem_tail h)
  have freePaged : ∀ t ∈ others.map (Segment.withPageToken position), '&' ∉ t := by
    simp only [List.forall_mem_map]
    exact fun t h => Segment.free_withPageToken (freeOthers t h) position
  have paged : others.flatMap (fun t => Parameter.pageToken.replace position ('&' :: t)) =
      (others.map (Segment.withPageToken position)).flatMap ('&' :: ·) := by
    rw [List.flatMap_map]
    exact List.flatMap_congr fun t h => Segment.replace_pageToken_cons (freeOthers t h) position
  rw [replace_append_flatMap local_pageToken freeTail freeOthers,
    Segment.replace_pageToken_of_free free, paged, fields_append_flatMap free freePaged, split]
  simp [map_eq_mapIdx]

/-- Generation tokens are replaced in every segment. -/
theorem fields_replace_generationMatch (position : Nat) (s : List Char) :
    fields '&' (generationMatch.replace position s) =
      (fields '&' s).map (generationMatch.replace position) := by
  obtain ⟨head, others, split⟩ := exists_fields_eq_cons '&' s
  obtain ⟨free, freeOthers, rfl⟩ := fields_eq_cons_iff.mp split
  have freeTail : '&' ∉ head.tail := fun h => free (List.mem_of_mem_tail h)
  have freeReplaced : ∀ t ∈ others.map (generationMatch.replace position), '&' ∉ t := by
    simp only [List.forall_mem_map]
    exact fun t h => Segment.free_replace_generationMatch (freeOthers t h) position
  have replaced : others.flatMap (fun t => generationMatch.replace position ('&' :: t)) =
      (others.map (generationMatch.replace position)).flatMap ('&' :: ·) := by
    rw [List.flatMap_map]
    exact List.flatMap_congr fun t _ => Segment.replace_generationMatch_cons t position
  rw [replace_append_flatMap local_generationMatch freeTail freeOthers, replaced,
    fields_append_flatMap (Segment.free_replace_generationMatch free position) freeReplaced, split]
  simp

/-- The segments of a normalized text, each rewritten on its own. -/
theorem fields_normalizeAt (position : Nat) (text : String) :
    fields '&' (normalizeAt position text).toList =
      (fields '&' text.toList).mapIdx fun i s => Segment.rewrite position (i == 0) s := by
  rw [normalizeAt, String.toList_ofList, fields_replace_generationMatch, fields_replace_pageToken,
    map_eq_mapIdx, List.mapIdx_mapIdx, List.mapIdx_eq_mapIdx_iff]
  intro i inside
  have free : '&' ∉ (fields '&' text.toList)[i] := separator_not_mem_field (List.getElem_mem inside)
  by_cases leads : i = 0
  · simp only [leads, Function.comp_apply, if_true, beq_self_eq_true] at free ⊢
    exact Segment.replace_generationMatch free (Or.inl rfl) position
  · simp only [leads, Function.comp_apply, if_false, beq_eq_false_iff_ne.mpr leads]
    exact Segment.replace_generationMatch_withPageToken free position

theorem mapIdx_eq_iff {α β : Type} {f : Nat → α → β} {xs : List α} {ys : List β} :
    xs.mapIdx f = ys ↔
      ys.length = xs.length ∧ ∀ i x y, xs[i]? = some x → ys[i]? = some y → f i x = y := by
  constructor
  · rintro rfl
    refine ⟨by simp, fun i x y hx hy => ?_⟩
    simpa [hx] using hy
  · rintro ⟨length, same⟩
    refine List.ext_getElem (by simpa using length.symm) fun i hx hy => ?_
    simp only [List.length_mapIdx] at hx
    simpa using same i xs[i] ys[i] (List.getElem?_eq_getElem hx) (List.getElem?_eq_getElem hy)

theorem normalizeAt_eq_iff_fields {position : Nat} {x y : String} : normalizeAt position x = y ↔
    (fields '&' x.toList).mapIdx (fun i s => Segment.rewrite position (i == 0) s) = fields '&' y.toList := by
  rw [← fields_normalizeAt, (fields_injective '&').eq_iff, String.toList_inj]

end RequestTrail
