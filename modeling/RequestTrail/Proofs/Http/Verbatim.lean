import Mathlib.Data.List.TakeWhile
import RequestTrail.Record
import RequestTrail.Proofs.Text.Fields
import RequestTrail.Proofs.Text.Search

/-! Which URIs are printed back as they were read. The usual schemes are printed in lower case, a
fragment is dropped, and a slash is put before a target that has no path. All else is printed as it
was read, so a text comes back if it has a scheme, an authority and a rooted target in that form. -/
namespace RequestTrail.Http

open Text

/-- The text is read as a URI and printed back as it stands. -/
def IsVerbatim (text : String) : Prop := ∃ u, Uri.parse text = .ok u ∧ u.text = text

namespace Target

/-- Path characters up to a question mark and query characters from there on, and no fragment. -/
structure IsKept (s : List Char) : Prop where
  unbroken : '#' ∉ s
  path : ∀ c ∈ s.takeWhile (· != '?'), isPathChar c = true
  query : ∀ c ∈ s.dropWhile (· != '?'), isQueryChar c = true

variable {s tail path query : List Char}

theorem not_mem_of_parse {t : Target} (read : parse s = .ok t) : '#' ∉ t.text := by
  have pathFree : '#' ∉ s.takeWhile fun c => c != '?' && c != '#' := by
    intro m
    simpa using List.mem_takeWhile_imp m
  have queryFree (rest : List Char) : '#' ∉ rest.takeWhile (· != '#') := by
    intro m
    simpa using List.mem_takeWhile_imp m
  simp only [parse] at read
  split at read
  · cases read
  · split at read
    · split at read
      · cases read
        simp [text, pathFree, queryFree]
      · cases read
    · cases read
      simpa [text] using pathFree

theorem exists_cut (s : List Char) : ∃ path query, s = path ++ query ∧ '?' ∉ path ∧
    (query = [] ∨ ∃ rest, query = '?' :: rest) := by
  by_cases asked : '?' ∈ s
  · obtain ⟨path, rest, rfl, first⟩ := List.eq_append_cons_of_mem asked
    exact ⟨path, '?' :: rest, rfl, first, .inr ⟨rest, rfl⟩⟩
  · exact ⟨s, [], by simp, asked, .inl rfl⟩

theorem isKept_of_cut (free : '?' ∉ path) (stops : query = [] ∨ ∃ rest, query = '?' :: rest) :
    IsKept (path ++ query) ↔ '#' ∉ path ++ query ∧ (∀ c ∈ path, isPathChar c = true) ∧
      ∀ c ∈ query, isQueryChar c = true := by
  have inside : ∀ c ∈ path, (c != '?') = true := by
    intro c m
    simpa using fun same : c = '?' => free (same ▸ m)
  have ends : ∀ c ∈ query.head?, (c != '?') = false := by
    rcases stops with rfl | ⟨rest, rfl⟩ <;> simp
  have taken := takeWhile_append_of_stops inside ends
  have left := dropWhile_append_of_stops inside ends
  constructor
  · rintro ⟨unbroken, pathKept, queryKept⟩
    exact ⟨unbroken, by rwa [taken] at pathKept, by rwa [left] at queryKept⟩
  · rintro ⟨unbroken, pathKept, queryKept⟩
    exact ⟨unbroken, by rwa [taken], by rwa [left]⟩

/-- Without a fragment, only a wrong character is refused, and the whole text is kept. -/
theorem parse_of_cut (unbroken : '#' ∉ path ++ query) (free : '?' ∉ path)
    (stops : query = [] ∨ ∃ rest, query = '?' :: rest) :
    ∃ t : Target, t.text = path ++ query ∧ parse (path ++ query) =
      if path.all isPathChar && query.all isQueryChar then .ok t else .error .badCharacter := by
  have inside : ∀ c ∈ path, (c != '?' && c != '#') = true := by
    intro c m
    have notAsked : c ≠ '?' := fun same => free (same ▸ m)
    have notBroken : c ≠ '#' := fun same => unbroken (List.mem_append_left _ (same ▸ m))
    simp [notAsked, notBroken]
  have ends : ∀ c ∈ query.head?, (c != '?' && c != '#') = false := by
    rcases stops with rfl | ⟨rest, rfl⟩ <;> simp
  have taken := takeWhile_append_of_stops inside ends
  rcases stops with rfl | ⟨rest, rfl⟩
  · refine ⟨⟨path, none⟩, rfl, ?_⟩
    simp only [parse, taken, List.drop_left]
    cases path.all isPathChar <;> rfl
  · have whole : rest.takeWhile (· != '#') = rest := by
      rw [List.takeWhile_eq_self_iff]
      intro c m
      simpa using fun same : c = '#' => unbroken (by simp [same ▸ m])
    refine ⟨⟨path, some rest⟩, rfl, ?_⟩
    have mark : isQueryChar '?' = true := by decide
    simp only [parse, taken, List.drop_left, whole, List.all_cons, mark, Bool.true_and]
    cases path.all isPathChar <;> rfl

theorem parse_iff : (∃ t, parse s = .ok t ∧ t.text = s) ↔ IsKept s := by
  obtain ⟨path, query, rfl, free, stops⟩ := exists_cut s
  rw [isKept_of_cut free stops]
  constructor
  · rintro ⟨t, read, printed⟩
    have unbroken : '#' ∉ path ++ query := printed ▸ not_mem_of_parse read
    obtain ⟨_, _, judged⟩ := parse_of_cut unbroken free stops
    rw [judged] at read
    split at read
    · next all => exact ⟨unbroken, by simpa [Bool.and_eq_true] using all⟩
    · cases read
  · rintro ⟨unbroken, pathKept, queryKept⟩
    obtain ⟨t, printed, judged⟩ := parse_of_cut unbroken free stops
    refine ⟨t, ?_, printed⟩
    rw [judged, if_pos]
    simpa [Bool.and_eq_true] using And.intro pathKept queryKept

/-- Characters that stand anywhere in a path and in a query. -/
def isPlainChar (c : Char) : Bool := c != '?' && c != '#' && isPathChar c && isQueryChar c

theorem isKept_append_iff (plain : ∀ c ∈ tail, isPlainChar c = true) :
    IsKept (s ++ tail) ↔ IsKept s := by
  simp only [isPlainChar, Bool.and_eq_true, bne_iff_ne, ne_eq] at plain
  obtain ⟨path, query, rfl, free, stops⟩ := exists_cut s
  have unbroken : '#' ∉ tail := fun m => (plain _ m).1.1.2 rfl
  have pathKept : ∀ c ∈ tail, isPathChar c = true := fun c m => (plain c m).1.2
  have queryKept : ∀ c ∈ tail, isQueryChar c = true := fun c m => (plain c m).2
  have longer : IsKept (path ++ query ++ tail) ↔ '#' ∉ path ++ query ++ tail ∧
      (∀ c ∈ path, isPathChar c = true) ∧ ∀ c ∈ query, isQueryChar c = true := by
    rcases stops with rfl | ⟨rest, rfl⟩
    · have stillFree : '?' ∉ path ++ tail := by
        simpa [free] using fun m => (plain _ m).1.1.1 rfl
      rw [List.append_nil, ← List.append_nil (path ++ tail), isKept_of_cut stillFree (.inl rfl),
        List.append_nil, List.forall_mem_append, and_iff_left pathKept]
    · have goesOn : '?' :: rest ++ tail = '?' :: (rest ++ tail) := rfl
      rw [List.append_assoc, isKept_of_cut free (.inr ⟨_, goesOn⟩), List.forall_mem_append,
        and_iff_left queryKept]
  rw [longer, isKept_of_cut free stops]
  simp [unbroken]

theorem path_of_parse {t : Target} (read : parse s = .ok t) :
    t.path = s.takeWhile fun c => c != '?' && c != '#' := by
  simp only [parse] at read
  split at read
  · cases read
  · split at read
    · split at read
      · cases read
        rfl
      · cases read
    · cases read
      rfl

/-- In the whole form only a rooted path is printed back. -/
theorem printed_iff {t : Target} (read : parse s = .ok t)
    (start : ∀ c ∈ s.head?, Uri.endsAuthority c = true) :
    (if t.path.isEmpty then '/' :: t.text else t.text) = s ↔ s.head? = some '/' ∧ t.text = s := by
  have path := path_of_parse read
  cases s with
  | nil => simp [path]
  | cons c s =>
    by_cases slash : c = '/'
    · subst slash
      simp [path]
    · have mark : c = '?' ∨ c = '#' := by
        simpa [Uri.endsAuthority, slash] using start c rfl
      have bare : t.path = [] := by
        rw [path]
        rcases mark with rfl | rfl <;> rfl
      simp [bare, slash, Ne.symm slash]

end Target

namespace Uri

def isSchemeChar (c : Char) : Bool :=
  isAlphanumeric c || c == '+' || c == '-' || c == '.' || c == '~'

/-- The usual schemes are written in lower case, and no other is too long. -/
structure IsScheme (scheme : List Char) : Prop where
  chars : ∀ c ∈ scheme, isSchemeChar c = true
  written : if lower scheme = "http".toList ∨ lower scheme = "https".toList then lower scheme = scheme
    else scheme.length ≤ maxSchemeLength

structure IsAuthority (authority : List Char) : Prop where
  named : authority ≠ []
  whole : ∀ c ∈ authority, endsAuthority c = false
  judged : checkAuthority authority = .ok ()

/-- What a URI in its printed form can start with, up to a place inside its path or query. -/
def IsBase (s : List Char) : Prop := ∃ scheme authority target,
  s = scheme ++ "://".toList ++ authority ++ target ∧ IsScheme scheme ∧ IsAuthority authority ∧
    (∀ c ∈ target.head?, c = '/') ∧ Target.IsKept target

/-- A path that does not reach into the authority before it. -/
structure IsPath (path : List Char) : Prop where
  rooted : path.head? = some '/'
  single : path.tail.head? ≠ some '/'
  noColon : ':' ∉ path
  plain : ∀ c ∈ path, Target.isPlainChar c = true

instance (path : List Char) : Decidable (IsPath path) :=
  decidable_of_iff (path.head? = some '/' ∧ path.tail.head? ≠ some '/' ∧ ':' ∉ path ∧
    path.all Target.isPlainChar = true)
    ⟨fun h => ⟨h.1, h.2.1, h.2.2.1, List.all_eq_true.mp h.2.2.2⟩,
      fun h => ⟨h.rooted, h.single, h.noColon, List.all_eq_true.mpr h.plain⟩⟩

variable {s scheme rest : List Char}

theorem splitScheme_append (chars : ∀ c ∈ scheme, isSchemeChar c = true)
    (long : 3 < (scheme ++ "://".toList ++ rest).length) :
    splitScheme (scheme ++ "://".toList ++ rest) =
      if lower scheme = "http".toList ∨ lower scheme = "https".toList then
        .ok (some (lower scheme), rest)
      else if maxSchemeLength < scheme.length then .error .schemeTooLong
      else .ok (some scheme, rest) := by
  have ends : ∀ c ∈ ("://".toList ++ rest).head?, isSchemeChar c = false := by
    rintro c ⟨⟩
    decide
  have taken := takeWhile_append_of_stops chars ends
  rw [List.append_assoc] at long ⊢
  unfold isSchemeChar at taken
  unfold splitScheme
  simp only [taken, List.drop_left]
  rw [show "://".toList ++ rest = ':' :: '/' :: '/' :: rest from rfl] at long ⊢
  simp only [Nat.not_le.mpr long, if_false, Bool.or_eq_true, decide_eq_true_eq]

/-- A text without a scheme is read as it stands. -/
theorem splitScheme_cases (s : List Char) : splitScheme s = .ok (none, s) ∨ ∃ scheme rest,
    s = scheme ++ "://".toList ++ rest ∧ (∀ c ∈ scheme, isSchemeChar c = true) ∧ 3 < s.length := by
  obtain ⟨scheme, rest, rfl, chars, stops⟩ := exists_run isSchemeChar s
  have taken := takeWhile_append_of_stops chars stops
  unfold isSchemeChar at taken
  unfold splitScheme
  simp only [taken, List.drop_left]
  split
  · next more =>
    by_cases long : 3 < (scheme ++ ':' :: '/' :: '/' :: more).length
    · exact .inr ⟨scheme, more, by simp, chars, long⟩
    · exact .inl (if_pos (Nat.not_lt.mp long))
  · exact .inl rfl

/-- The rest after the scheme is an authority and a target. -/
theorem parseWhole_eq_ok_iff {authority after : List Char} {u : Uri}
    (split : splitScheme s = .ok (some scheme, authority ++ after))
    (whole : ∀ c ∈ authority, endsAuthority c = false)
    (ends : ∀ c ∈ after.head?, endsAuthority c = true) :
    parseWhole s = .ok u ↔ IsAuthority authority ∧
      ∃ t, Target.parse after = .ok t ∧ u = .absolute scheme authority t := by
  have inside : ∀ c ∈ authority, (!endsAuthority c) = true := fun c m => by simp [whole c m]
  have stops : ∀ c ∈ after.head?, (!endsAuthority c) = false := fun c m => by simp [ends c m]
  have taken := takeWhile_append_of_stops inside stops
  unfold parseWhole
  rw [split]
  simp only [Except.bind, bind, taken, List.drop_left]
  constructor
  · intro read
    split at read
    · cases read
    split at read
    · cases read
    next judged =>
    split at read
    · cases read
    next named =>
    split at read
    · cases read
    next t parsed =>
    cases read
    exact ⟨⟨by simpa using named, whole, judged⟩, t, parsed, rfl⟩
  · rintro ⟨⟨named, _, judged⟩, t, parsed, rfl⟩
    have some : (authority ++ after).isEmpty = false := by simp [named]
    have there : authority.isEmpty = false := by simp [named]
    simp only [some, judged, there, parsed, Bool.false_eq_true, if_false]
    rfl

theorem parseWhole_of_none {u : Uri} (split : splitScheme s = .ok (none, s)) (slash : '/' ∈ s) :
    parseWhole s ≠ .ok u := by
  obtain ⟨authority, after, rfl, inside, stops⟩ := exists_run (!endsAuthority ·) s
  have taken := takeWhile_append_of_stops inside stops
  unfold parseWhole
  rw [split]
  simp only [Except.bind, bind, taken, List.drop_left]
  have more : after.isEmpty = false := by
    cases after with
    | nil => simpa [endsAuthority] using inside '/' (by simpa using slash)
    | cons c after => rfl
  intro read
  split at read
  · cases read
  split at read
  · cases read
  simp only [more] at read
  cases read

/-- A scheme is written with as many characters as it is read. -/
theorem splitScheme_written (chars : ∀ c ∈ scheme, isSchemeChar c = true)
    (long : 3 < (scheme ++ "://".toList ++ rest).length) :
    (∃ written, splitScheme (scheme ++ "://".toList ++ rest) = .ok (some written, rest) ∧
      written.length = scheme.length ∧ (IsScheme scheme ↔ written = scheme)) ∨
    (¬IsScheme scheme ∧ ∃ e, splitScheme (scheme ++ "://".toList ++ rest) = .error e) := by
  rw [splitScheme_append chars long]
  by_cases usual : lower scheme = "http".toList ∨ lower scheme = "https".toList
  · refine .inl ⟨lower scheme, if_pos usual, List.length_map _, ?_⟩
    exact ⟨fun kept => by simpa only [if_pos usual] using kept.written,
      fun kept => ⟨chars, by simpa only [if_pos usual] using kept⟩⟩
  · rw [if_neg usual]
    by_cases short : maxSchemeLength < scheme.length
    · refine .inr ⟨fun kept => ?_, _, if_pos short⟩
      have := kept.written
      rw [if_neg usual] at this
      omega
    · refine .inl ⟨scheme, if_neg short, rfl, fun _ => rfl, fun _ => ⟨chars, ?_⟩⟩
      rw [if_neg usual]
      omega

theorem parse_ofList (start : s.head? ≠ some '/') (slash : '/' ∈ s)
    (short : (utf8 s).length ≤ maxLength) : parse (String.ofList s) = parseWhole s := by
  unfold parse
  simp only [String.toList_ofList, if_neg (Nat.not_lt.mpr short)]
  split
  · cases slash
  · simp at slash
  · simp at start
  · rfl

theorem chars_absolute (scheme authority : List Char) (t : Target) :
    (absolute scheme authority t).chars = scheme ++ "://".toList ++ authority ++
      if t.path.isEmpty then '/' :: t.text else t.text := rfl

/-- In the whole form, a text is printed back if each of its three parts is in its printed form. -/
theorem isVerbatim_iff (start : s.head? ≠ some '/') (slash : '/' ∈ s)
    (short : (utf8 s).length ≤ maxLength) :
    IsVerbatim (String.ofList s) ↔ ∃ scheme authority target,
      s = scheme ++ "://".toList ++ authority ++ target ∧ IsScheme scheme ∧ IsAuthority authority ∧
        target.head? = some '/' ∧ Target.IsKept target := by
  have printed (u : Uri) : u.text = String.ofList s ↔ u.chars = s := String.ofList_inj
  simp only [IsVerbatim, parse_ofList start slash short, printed]
  constructor
  · rintro ⟨u, read, same⟩
    rcases splitScheme_cases s with none | ⟨scheme, rest, rfl, chars, long⟩
    · exact absurd read (parseWhole_of_none none slash)
    obtain ⟨authority, target, rfl, inside, stops⟩ := exists_run (!endsAuthority ·) rest
    rcases splitScheme_written chars long with ⟨written, split, length, kept⟩ | ⟨_, e, split⟩
    · have whole : ∀ c ∈ authority, endsAuthority c = false := fun c m => by simpa using inside c m
      have ends : ∀ c ∈ target.head?, endsAuthority c = true := fun c m => by simpa using stops c m
      obtain ⟨named, t, parsed, rfl⟩ := (parseWhole_eq_ok_iff split whole ends).1 read
      rw [chars_absolute, List.append_assoc, List.append_assoc, List.append_assoc] at same
      -- The printed scheme is as long as the one that was read, so the texts agree part by part.
      obtain ⟨sameScheme, same⟩ := List.append_inj same length
      have sameTarget := List.append_cancel_left (List.append_cancel_left same)
      obtain ⟨rooted, text⟩ := (Target.printed_iff parsed ends).1 sameTarget
      exact ⟨scheme, authority, target, (List.append_assoc _ _ _).symm, kept.2 sameScheme, named,
        rooted, Target.parse_iff.1 ⟨t, parsed, text⟩⟩
    · rw [parseWhole, split] at read
      cases read
  · rintro ⟨scheme, authority, target, rfl, kept, named, rooted, fits⟩
    have ends : ∀ c ∈ target.head?, endsAuthority c = true := by
      rw [rooted]
      rintro c ⟨⟩
      decide
    have long : 3 < (scheme ++ "://".toList ++ (authority ++ target)).length := by
      have := List.length_pos_iff.mpr named.named
      simp only [List.length_append, show "://".toList.length = 3 from rfl]
      omega
    rw [List.append_assoc (scheme ++ "://".toList)]
    obtain ⟨t, parsed, text⟩ := Target.parse_iff.2 fits
    rcases splitScheme_written kept.chars long with ⟨written, split, _, same⟩ | ⟨wrong, _⟩
    · refine ⟨.absolute scheme authority t, ?_, ?_⟩
      · rw [same.1 kept] at split
        exact (parseWhole_eq_ok_iff split named.whole ends).2 ⟨named, t, parsed, rfl⟩
      · rw [chars_absolute, (Target.printed_iff parsed ends).2 ⟨rooted, text⟩]
        simp only [List.append_assoc]
    · exact absurd kept wrong

/-- A path below the base comes after its authority. -/
theorem exists_base_of_append {base path scheme authority target : List Char} (below : IsPath path)
    (unclosed : base.getLast? ≠ some '/') (named : IsAuthority authority)
    (rooted : target.head? = some '/')
    (same : base ++ path = scheme ++ "://".toList ++ authority ++ target) :
    ∃ front, base = scheme ++ "://".toList ++ authority ++ front ∧ target = front ++ path := by
  have opened : scheme ++ ':' :: ('/' :: '/' :: (authority ++ target)) = base ++ path := by
    rw [same]
    simp
  -- The path has no colon, so the one after the scheme stands in the base, and so do both slashes.
  obtain ⟨rest, rfl, after⟩ := append_cons_eq_append below.noColon opened
  match rest, after, unclosed with
  | [], after, _ => exact absurd (congrArg (·.tail.head?) after.symm) below.single
  | [_], rfl, unclosed => exact absurd (by simp) unclosed
  | _ :: _ :: rest, after, _ =>
    simp only [List.cons_append, List.cons.injEq] at after
    obtain ⟨rfl, rfl, after⟩ := after
    rcases List.append_eq_append_iff.mp after with ⟨front, rfl, rfl⟩ | ⟨more, rfl, tail⟩
    · exact ⟨front, by simp, rfl⟩
    · cases more with
      | nil => exact ⟨[], by simp, by simpa using tail.symm⟩
      | cons c more =>
        obtain rfl : c = '/' := by simpa [tail] using below.rooted
        exact absurd (named.whole '/' (by simp)) (by decide)

/-- With a path after it, a base is printed back if it is in its printed form. -/
theorem isVerbatim_append_iff {base path : List Char} (below : IsPath path)
    (start : ∃ c ∈ base.head?, c ≠ '/') (unclosed : base.getLast? ≠ some '/') :
    IsVerbatim (String.ofList (base ++ path)) ↔
      IsBase base ∧ (utf8 (base ++ path)).length ≤ maxLength := by
  have slash : '/' ∈ base ++ path := List.mem_append_right _ (List.mem_of_mem_head? below.rooted)
  have first : (base ++ path).head? ≠ some '/' := by
    obtain ⟨c, here, other⟩ := start
    cases base with
    | nil => cases here
    | cons d base =>
      cases here
      simpa using other
  constructor
  · rintro verbatim
    have short : (utf8 (base ++ path)).length ≤ maxLength := by
      by_contra long
      obtain ⟨u, read, _⟩ := verbatim
      rw [parse, String.toList_ofList, if_pos (Nat.not_le.mp long)] at read
      cases read
    obtain ⟨scheme, authority, target, same, kept, named, rooted, fits⟩ :=
      (isVerbatim_iff first slash short).1 verbatim
    obtain ⟨front, rfl, rfl⟩ := exists_base_of_append below unclosed named rooted same
    refine ⟨⟨scheme, authority, front, rfl, kept, named, ?_, ?_⟩, short⟩
    · intro c m
      rw [Option.mem_def] at m
      simpa [List.head?_append, m] using rooted
    · exact (Target.isKept_append_iff below.plain).1 fits
  · rintro ⟨⟨scheme, authority, front, rfl, kept, named, rooted, fits⟩, short⟩
    refine (isVerbatim_iff first slash short).2 ⟨scheme, authority, front ++ path, by simp, kept,
      named, ?_, (Target.isKept_append_iff below.plain).2 fits⟩
    cases front with
    | nil => exact below.rooted
    | cons c front => simpa using rooted c rfl

end Uri
end RequestTrail.Http
