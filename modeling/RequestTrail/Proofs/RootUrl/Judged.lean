import Mathlib.Data.List.TakeWhile
import RequestTrail.Proofs.Text.Fields
import RequestTrail.Proofs.Text.Search
import RequestTrail.RootUrl

/-! When a root is accepted. Each scheme asks for a host and judges it, and whatever stands beside it. -/
namespace RequestTrail.RootUrl

open Text

variable {a rest after host name : List Char} {x y : Char}

/-! ### The scheme and the authority -/

/-- The characters of a scheme. -/
def isSchemeChar (c : Char) : Bool := isAlphanumeric c || c == '+' || c == '-' || c == '.'

theorem splitScheme_eq_some_iff {s : List Char} : splitScheme s = some (name, rest) ↔
    s = name ++ ':' :: rest ∧ (∃ c ∈ name.head?, isLetter c = true) ∧ ∀ c ∈ name, isSchemeChar c = true := by
  have chars : (fun c => isAlphanumeric c || c == '+' || c == '-' || c == '.') = isSchemeChar := rfl
  simp only [splitScheme, chars]
  constructor
  · intro split
    split at split
    · next c more first stops =>
      split at split
      · next letter =>
        obtain ⟨rfl, rfl⟩ := Prod.mk.inj (Option.some.inj split)
        have whole : s = s.takeWhile isSchemeChar ++ ':' :: more := by
          rw [← stops, List.takeWhile_append_dropWhile]
        refine ⟨whole, ⟨c, ?_, letter⟩, fun d m => List.mem_takeWhile_imp m⟩
        obtain ⟨tail, rfl⟩ := List.head?_eq_some_iff.mp first
        have wanted : isSchemeChar c = true := by simp [isSchemeChar, isAlphanumeric, letter]
        rw [List.takeWhile_cons_of_pos wanted]
        rfl
      · cases split
    · cases split
  · rintro ⟨rfl, ⟨c, first, letter⟩, all⟩
    obtain ⟨more, rfl⟩ := List.head?_eq_some_iff.mp first
    have stops : ∀ d ∈ (':' :: rest).head?, isSchemeChar d = false := by
      intro d m
      obtain rfl : ':' = d := Option.some.inj m
      rfl
    rw [takeWhile_append_of_stops all stops, dropWhile_append_of_stops all stops]
    simp [letter]

/-- The host of an authority, and the number behind it. -/
def hostOf (authority : List Char) : List Char × Option (List Char) :=
  splitHost false (splitUser authority).2

theorem splitUser_snd {others : List (List Char)} (split : fields '@' a = others ++ [host]) : (splitUser a).2 = host := by
  unfold splitUser
  rw [split]
  simp only [List.dropLast_concat, List.getLast?_concat]
  cases others with
  | nil => simpa using (fields_eq_cons_iff.mp split).2.2
  | cons first others => rfl

/-- Nothing follows the user information. -/
theorem splitUser_eq_nil_iff : (splitUser a).2 = [] ↔ a = [] ∨ a.getLast? = some '@' := by
  obtain ⟨others, last, split⟩ := exists_fields_eq_append '@' a
  rw [splitUser_snd split]
  have free : '@' ∉ last := separator_not_mem_field (split ▸ List.mem_append_right _ (.head _))
  rcases fields_eq_append_singleton split with ⟨_, rfl⟩ | ⟨before, _, rfl⟩
  · exact ⟨.inl, fun ends => ends.resolve_right fun sign => free (List.mem_of_mem_getLast? sign)⟩
  · constructor
    · rintro rfl
      exact .inr List.getLast?_concat
    · rintro (none | sign)
      · simp at none
      · cases last with
        | nil => rfl
        | cons c last =>
          rw [List.getLast?_append, List.getLast?_cons_cons] at sign
          obtain ⟨x, ends⟩ : ∃ x, (c :: last).getLast? = some x := ⟨_, List.getLast?_eq_some_getLast (List.cons_ne_nil c last)⟩
          rw [ends] at sign
          obtain rfl : x = '@' := Option.some.inj sign
          exact (free (List.mem_of_mem_getLast? ends)).elim

/-! ### Checks in sequence -/

section
variable {α β : Type} {x : Except Reason α} {f : α → Except Reason β} {b : β} {reason : Reason} {p : Prop} [Decidable p]

theorem bind_eq_ok_iff : (x >>= f) = .ok b ↔ ∃ a, x = .ok a ∧ f a = .ok b := by
  cases x with
  | error reason => exact iff_of_false nofun fun ⟨_, ok, _⟩ => nomatch ok
  | ok a => exact ⟨fun ok => ⟨a, rfl, ok⟩, fun ⟨_, same, ok⟩ => Except.ok.inj same ▸ ok⟩

/-- A check that refuses goes before what follows it. -/
theorem throw_ite_eq_ok_iff {rest : Except Reason β} :
    (if p then throw reason >>= f else rest) = .ok b ↔ ¬p ∧ rest = .ok b := by
  split
  · next refused => exact iff_of_false nofun fun passed => passed.1 refused
  · next passed => exact ⟨fun ok => ⟨passed, ok⟩, fun ok => ok.2⟩

theorem throw_ite_pure_eq_ok_iff : (if p then throw reason else pure b : Except Reason β) = .ok b ↔ ¬p := by
  split
  · next refused => exact iff_of_false nofun fun passed => passed refused
  · next passed => exact iff_of_true rfl passed

theorem forM_eq_ok_iff {number : Option α} {check : α → Except Reason Unit} :
    number.forM check = .ok () ↔ ∀ n ∈ number, check n = .ok () := by
  cases number with
  | none => exact iff_of_true rfl nofun
  | some n => exact ⟨fun ok _ same => Option.some.inj same ▸ ok, fun ok => ok n rfl⟩

end

/-! ### Judgements -/

def Scheme.judge : Scheme → List Char → Except Reason Unit
  | .special => checkSpecial
  | .file => checkFile
  | .other => checkOther

theorem check_eq_ok_iff {root : String} : check root = .ok () ↔
    ∃ name rest, splitScheme (significant root.toList) = some (name, rest) ∧ (Scheme.ofName name).judge rest = .ok () := by
  unfold check
  cases splitScheme (significant root.toList) with
  | none => simp
  | some split =>
    obtain ⟨name, rest⟩ := split
    simp only [Option.some.injEq, Prod.mk.injEq]
    constructor
    · intro accepted
      refine ⟨name, rest, ⟨rfl, rfl⟩, ?_⟩
      cases scheme : Scheme.ofName name <;> simpa [scheme, Scheme.judge] using accepted
    · rintro ⟨_, _, ⟨rfl, rfl⟩, accepted⟩
      cases scheme : Scheme.ofName name <;> simpa [scheme, Scheme.judge] using accepted

/-- A host that is not empty and passes its test, beside a number that passes. -/
def IsSound (test : List Char → Prop) : List Char × Option (List Char) → Prop
  | (host, number) => host ≠ [] ∧ test host ∧ ∀ n ∈ number, checkNumber n = .ok ()

theorem checkSpecial_eq_ok_iff : checkSpecial after = .ok () ↔
    IsSound (fun host => ∃ found, checkName host = .ok found)
      (hostOf ((after.dropWhile Scheme.special.isSlash).takeWhile (!Scheme.special.endsAuthority ·))) := by
  rcases split : hostOf ((after.dropWhile Scheme.special.isSlash).takeWhile (!Scheme.special.endsAuthority ·)) with
    ⟨host, number⟩
  rw [hostOf] at split
  simp only [checkSpecial, split, throw_ite_eq_ok_iff, bind_eq_ok_iff, forM_eq_ok_iff, List.isEmpty_iff]
  apply and_congr_right'
  exact exists_and_right

theorem checkOther_slashes_eq_ok_iff : checkOther ('/' :: '/' :: rest) = .ok () ↔
    IsSound (fun host => checkOpaque host = .ok ()) (hostOf (rest.takeWhile (!Scheme.other.endsAuthority ·))) := by
  rcases split : hostOf (rest.takeWhile (!Scheme.other.endsAuthority ·)) with ⟨host, number⟩
  rw [hostOf] at split
  simp only [checkOther, split, throw_ite_eq_ok_iff, bind_eq_ok_iff, forM_eq_ok_iff, List.isEmpty_iff]
  constructor
  · rintro ⟨_, judged, some, numbered⟩
    exact ⟨some, judged, numbered⟩
  · rintro ⟨some, judged, numbered⟩
    exact ⟨(), judged, some, numbered⟩

theorem checkOther_eq_ok_iff : checkOther after = .ok () ↔ ∃ rest, after = '/' :: '/' :: rest ∧
    IsSound (fun host => checkOpaque host = .ok ()) (hostOf (rest.takeWhile (!Scheme.other.endsAuthority ·))) := by
  constructor
  · intro accepted
    have slashed : ∃ rest, after = '/' :: '/' :: rest := by
      unfold checkOther at accepted
      split at accepted
      · exact ⟨_, rfl⟩
      · cases accepted
    obtain ⟨rest, rfl⟩ := slashed
    exact ⟨rest, rfl, checkOther_slashes_eq_ok_iff.mp accepted⟩
  · rintro ⟨rest, rfl, sound⟩
    exact checkOther_slashes_eq_ok_iff.mpr sound

/-- What the path of a `file` URL has between its slashes, up to a query or fragment. -/
def segmentsOf (path : List Char) : List (List Char) :=
  fields '/' ((path.takeWhile fun c => c != '?' && c != '#').map fun c => if c = '\\' then '/' else c)

/-- The host of a `file` URL stands, and so does everything else but the path. -/
structure IsFileHost (host : List Char) : Prop where
  some : host ≠ []
  noDrive : isDrive host = false
  named : ∃ found, checkName host = .ok found ∧ found ≠ "localhost".toList

/-- The path behind the host, if there is one, does not start with a drive. -/
def IsDriveFree (afterHost : List Char) : Prop :=
  ∀ c path, afterHost = c :: path → Scheme.file.isSlash c = true → startsWithDrive [] (segmentsOf path) = false

theorem isDriveFree_iff {afterHost : List Char} : IsDriveFree afterHost ↔
    ((match afterHost with | c :: _ => Scheme.file.isSlash c | [] => false) &&
      startsWithDrive [] (segmentsOf (afterHost.drop 1))) = false := by
  cases afterHost with
  | nil => exact iff_of_true nofun rfl
  | cons c path =>
    rw [Bool.and_eq_false_imp]
    constructor
    · exact fun free slash => free c path rfl slash
    · rintro clear _ _ ⟨rfl, rfl⟩
      exact clear

theorem checkFile_slashes_eq_ok_iff (first : Scheme.file.isSlash x = true) (second : Scheme.file.isSlash y = true) :
    checkFile (x :: y :: rest) = .ok () ↔
      IsFileHost (rest.takeWhile (!Scheme.file.endsAuthority ·)) ∧
        IsDriveFree (rest.dropWhile (!Scheme.file.endsAuthority ·)) := by
  obtain ⟨host, more, rfl, plain, stops⟩ := exists_run (!Scheme.file.endsAuthority ·) rest
  rw [takeWhile_append_of_stops plain stops, dropWhile_append_of_stops plain stops, isDriveFree_iff]
  simp only [checkFile, first, second, Bool.and_self, Bool.not_true, Bool.false_eq_true, if_false,
    takeWhile_append_of_stops plain stops, List.drop_left, ← List.drop_drop, throw_ite_eq_ok_iff, bind_eq_ok_iff,
    throw_ite_pure_eq_ok_iff, Bool.not_eq_true, Bool.or_eq_false_iff, List.isEmpty_eq_false_iff]
  constructor
  · rintro ⟨⟨some, noDrive⟩, found, named, other, free⟩
    exact ⟨⟨some, noDrive, found, named, other⟩, free⟩
  · rintro ⟨⟨some, noDrive, found, named, other⟩, free⟩
    exact ⟨⟨some, noDrive⟩, found, named, other, free⟩

theorem checkFile_eq_ok_iff : checkFile after = .ok () ↔ ∃ x y rest, after = x :: y :: rest ∧
    (Scheme.file.isSlash x = true ∧ Scheme.file.isSlash y = true) ∧
    IsFileHost (rest.takeWhile (!Scheme.file.endsAuthority ·)) ∧
      IsDriveFree (rest.dropWhile (!Scheme.file.endsAuthority ·)) := by
  constructor
  · intro accepted
    obtain ⟨x, y, rest, rfl⟩ : ∃ x y rest, after = x :: y :: rest := by
      unfold checkFile at accepted
      split at accepted
      · exact ⟨_, _, _, rfl⟩
      · cases accepted
    have slashed : (Scheme.file.isSlash x && Scheme.file.isSlash y) = true := by
      by_contra other
      rw [Bool.not_eq_true] at other
      simp only [checkFile, other] at accepted
      cases accepted
    obtain ⟨first, second⟩ := Bool.and_eq_true_iff.mp slashed
    exact ⟨x, y, rest, rfl, ⟨first, second⟩, (checkFile_slashes_eq_ok_iff first second).mp accepted⟩
  · rintro ⟨x, y, rest, rfl, ⟨first, second⟩, sound⟩
    exact (checkFile_slashes_eq_ok_iff first second).mpr sound

end RequestTrail.RootUrl
