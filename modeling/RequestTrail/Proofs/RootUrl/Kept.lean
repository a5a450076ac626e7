import Mathlib.Data.List.DropRight
import RequestTrail.Proofs.RootUrl.Domain
import RequestTrail.Proofs.RootUrl.Judged
import RequestTrail.Proofs.Service
import RequestTrail.Proofs.Text.Blank

/-! What becomes of a root when the slashes at its end are cut. The root is judged with its slashes, so
blanks in front of them count. What is kept ends in these blanks, where they do not count, and some roots
have no host without them. -/
namespace RequestTrail.RootUrl

open Text

variable {a b blanks slashes rest after host number name e : List Char}

/-- The characters that do not count at the ends of a root. -/
def IsFaint (s : List Char) : Prop := ∀ c ∈ s, c.toNat ≤ 0x20

def IsSlashes (s : List Char) : Prop := ∀ c ∈ s, c = '/'

theorem IsFaint.not_mem {c : Char} (faint : IsFaint a) (visible : 0x20 < c.toNat) : c ∉ a :=
  fun m => absurd (faint c m) (Nat.not_le.mpr visible)

theorem visible_of_endsAuthority {scheme : Scheme} {c : Char} (ends : scheme.endsAuthority c = true) :
    0x20 < c.toNat := by
  have known : c = '/' ∨ c = '\\' ∨ c = '?' ∨ c = '#' := by
    simp only [Scheme.endsAuthority, Scheme.isSlash, Bool.or_eq_true, Bool.and_eq_true, beq_iff_eq] at ends
    tauto
  rcases known with rfl | rfl | rfl | rfl <;> decide

theorem visible_of_isSlash {scheme : Scheme} {c : Char} (slash : scheme.isSlash c = true) : 0x20 < c.toNat := by
  have ends : scheme.endsAuthority c = true := by simp [Scheme.endsAuthority, slash]
  exact visible_of_endsAuthority ends

/-- Slashes end an authority, and an authority that starts with them is empty. -/
theorem IsSlashes.stops (all : IsSlashes slashes) (scheme : Scheme) :
    ∀ c ∈ slashes.head?, (!scheme.endsAuthority c) = false := by
  intro c m
  obtain rfl := all c (List.mem_of_mem_head? m)
  cases scheme <;> rfl

theorem IsSlashes.takeWhile_eq (all : IsSlashes slashes) (scheme : Scheme) :
    slashes.takeWhile (!scheme.endsAuthority ·) = [] := by
  have none : ∀ c ∈ ([] : List Char), (!scheme.endsAuthority c) = true := List.forall_mem_nil _
  exact takeWhile_append_of_stops none (all.stops scheme)

/-! ### What is read -/

/-- Without its slashes a root is read as before, up to the blanks that stand in front of them. -/
theorem exists_significant_eq (root : List Char) : ∃ blanks slashes, IsFaint blanks ∧ IsSlashes slashes ∧
    significant root = significant (root.rdropWhile (· == '/')) ++ (blanks ++ slashes) ∧
    (blanks ≠ [] → ∃ c ∈ (root.rdropWhile (· == '/')).getLast?, c.toNat ≤ 0x20) := by
  let counts (c : Char) : Bool := !(c == '\t' || c == '\n' || c == '\r')
  have all : IsSlashes (root.rtakeWhile (· == '/')) := fun c m => by simpa using List.mem_rtakeWhile_imp m
  have split : root.rdropWhile (· == '/') ++ root.rtakeWhile (· == '/') = root := List.rdropWhile_append_rtakeWhile
  generalize root.rdropWhile (· == '/') = kept, root.rtakeWhile (· == '/') = slashes at *
  subst split
  by_cases none : slashes = []
  · exact ⟨[], [], nofun, nofun, by simp [none], fun some => absurd rfl some⟩
  have visible : ∀ c ∈ slashes, decide (c.toNat ≤ 0x20) = false := fun c m => all c m ▸ rfl
  obtain ⟨right, ends, faint, trimmed⟩ := exists_trimBy_append none visible kept
  refine ⟨right.filter counts, slashes, fun c m => ?_, all, ?_, fun some => ?_⟩
  · exact of_decide_eq_true (faint c (List.mem_of_mem_filter m))
  · have whole : slashes.filter counts = slashes := List.filter_eq_self.mpr fun c m => all c m ▸ rfl
    rw [significant, significant, trimmed, List.filter_append, List.filter_append, whole]
  · have last : right ≠ [] := by
      rintro rfl
      exact some rfl
    obtain ⟨front, rfl⟩ := ends
    obtain ⟨c, m⟩ := List.getLast?_isSome.mpr last |> Option.isSome_iff_exists.mp
    refine ⟨c, ?_, of_decide_eq_true (faint c (List.mem_of_mem_getLast? m))⟩
    rwa [List.getLast?_append_of_ne_nil front last]

/-- What has no colon stays behind the colon. -/
theorem splitScheme_append (free : ':' ∉ b) (split : splitScheme (a ++ b) = some (name, after)) :
    ∃ rest, splitScheme a = some (name, rest) ∧ after = rest ++ b := by
  obtain ⟨whole, letter, all⟩ := splitScheme_eq_some_iff.mp split
  obtain ⟨rest, rfl, rfl⟩ := append_cons_eq_append free whole.symm
  exact ⟨rest, splitScheme_eq_some_iff.mpr ⟨rfl, letter, all⟩, rfl⟩

/-! ### Authorities -/

theorem splitUser_append (free : '@' ∉ b) (a : List Char) : (splitUser (a ++ b)).2 = (splitUser a).2 ++ b := by
  obtain ⟨others, last, split⟩ := exists_fields_eq_append '@' a
  rw [splitUser_snd split, splitUser_snd (fields_append_of_not_mem split free)]

theorem splitHost_append (free : ∀ c ∈ b, c ≠ ':' ∧ c ≠ '[' ∧ c ≠ ']') (bracketed : Bool) (a : List Char) :
    splitHost bracketed (a ++ b) = match splitHost bracketed a with
      | (host, none) => (host ++ b, none)
      | (host, some number) => (host, some (number ++ b)) := by
  induction a generalizing bracketed with
  | nil =>
    induction b with
    | nil => rfl
    | cons c b ih =>
      obtain ⟨colon, opening, closing⟩ := free c (.head b)
      have rest := ih fun d m => free d (.tail c m)
      simp only [List.nil_append, splitHost] at rest ⊢
      simp [colon, opening, closing, rest]
  | cons c a ih =>
    rw [List.cons_append, splitHost, splitHost]
    split
    · rfl
    · simp only [ih]
      generalize (if c == '[' then true else if c == ']' then false else bracketed) = inside
      rcases splitHost inside a with ⟨host, _ | number⟩
      · rfl
      · rfl

/-- An authority that is judged with blanks at its end. -/
theorem hostOf_append (faint : IsFaint e) (a : List Char) : hostOf (a ++ e) = match hostOf a with
    | (host, none) => (host ++ e, none)
    | (host, some number) => (host, some (number ++ e)) := by
  have free : ∀ c ∈ e, c ≠ ':' ∧ c ≠ '[' ∧ c ≠ ']' := by
    intro c m
    refine ⟨?_, ?_, ?_⟩ <;> exact ne_of_mem_of_not_mem m (faint.not_mem (by decide))
  rw [hostOf, splitUser_append (faint.not_mem (by decide)), splitHost_append free]
  rfl

/-- A number with a blank in it is refused, unless a backslash ends it before. -/
theorem checkNumber_of_append (faint : IsFaint e) (accepted : checkNumber (number ++ e) = .ok ()) :
    checkNumber number = .ok () := by
  obtain ⟨run, more, rfl, plain, stops⟩ := exists_run (· != '\\') number
  cases more with
  | nil =>
    have digits : (run ++ [] ++ e).takeWhile (· != '\\') = run ++ [] ++ e := by
      rw [List.takeWhile_eq_self_iff]
      intro c m
      rcases List.mem_append.mp m with inside | inside
      · exact plain c (by simpa using inside)
      · exact bne_iff_ne.mpr (ne_of_mem_of_not_mem inside (faint.not_mem (by decide)))
    have all : (run ++ [] ++ e).all isDigit = true := by
      simp only [checkNumber, digits] at accepted
      split at accepted
      · next judged => exact (Bool.and_eq_true_iff.mp judged).1
      · cases accepted
    obtain rfl : e = [] := by
      apply List.eq_nil_iff_forall_not_mem.mpr
      intro c m
      have digit := List.all_eq_true.mp all c (List.mem_append_right _ m)
      simp only [isDigit, Bool.and_eq_true, decide_eq_true_eq] at digit
      exact faint.not_mem (Nat.lt_of_lt_of_le (by decide) digit.1) m
    rwa [List.append_nil] at accepted
  | cons c more =>
    have same (tail : List Char) : (run ++ c :: (more ++ tail)).takeWhile (· != '\\') = run :=
      takeWhile_append_of_stops plain stops
    unfold checkNumber at accepted ⊢
    rw [List.append_assoc, List.cons_append, same] at accepted
    have short := same []
    rw [List.append_nil] at short
    rw [short]
    exact accepted

theorem IsFaint.eq_nil_of_last (faint : IsFaint e) (host : List Char) {c : Char} (visible : 0x20 < c.toNat)
    (last : (host ++ e).getLast? = some c) : e = [] := by
  obtain rfl | ⟨front, d, rfl⟩ := List.eq_nil_or_concat e
  · rfl
  · rw [List.concat_eq_append, ← List.append_assoc, List.getLast?_concat] at last
    obtain rfl := Option.some.inj last
    exact (faint.not_mem visible (by simp)).elim

theorem checkBracketed_append (faint : IsFaint e) (accepted : checkBracketed (host ++ e) = .ok ()) : e = [] := by
  unfold checkBracketed at accepted
  split at accepted
  · next closes =>
    simp only [Bool.and_eq_true, decide_eq_true_eq] at closes
    exact faint.eq_nil_of_last host (by decide) closes.1
  · cases accepted

/-- A blank at the end of a host is refused. -/
theorem checkName_append (faint : IsFaint e) {found : List Char} (accepted : checkName (host ++ e) = .ok found) :
    e = [] := by
  obtain rfl | ⟨front, c, rfl⟩ := List.eq_nil_or_concat e
  · rfl
  · rw [List.concat_eq_append] at *
    unfold checkName at accepted
    split at accepted
    · cases bracketed : checkBracketed (host ++ (front ++ [c])) with
      | ok => exact checkBracketed_append faint bracketed
      | error reason =>
        rw [bracketed] at accepted
        cases accepted
    · rw [← List.append_assoc, prepare?_append_blank (faint c (by simp))] at accepted
      cases accepted

theorem checkOpaque_of_append (faint : IsFaint e) (some : host ≠ []) (accepted : checkOpaque (host ++ e) = .ok ()) :
    checkOpaque host = .ok () := by
  obtain ⟨c, more, rfl⟩ := List.exists_cons_of_ne_nil some
  by_cases bracket : c = '['
  · subst bracket
    obtain rfl := checkBracketed_append faint accepted
    rwa [List.append_nil] at accepted
  · unfold checkOpaque at accepted ⊢
    rw [if_neg (by simp [bracket])] at accepted ⊢
    split at accepted
    · cases accepted
    · next free =>
      rw [List.any_append, Bool.or_eq_true, not_or] at free
      rw [if_neg free.1]

/-- An authority runs up to what ends it, or into the blanks that follow. -/
theorem takeWhile_append_tail (scheme : Scheme) (faint : IsFaint blanks) (all : IsSlashes slashes) (a : List Char) :
    ∃ e, IsFaint e ∧ (e = [] ∨ ∀ c ∈ a, scheme.endsAuthority c = false) ∧
      (a ++ (blanks ++ slashes)).takeWhile (!scheme.endsAuthority ·) = a.takeWhile (!scheme.endsAuthority ·) ++ e := by
  obtain ⟨run, more, rfl, plain, stops⟩ := exists_run (!scheme.endsAuthority ·) a
  cases more with
  | nil =>
    have inside : ∀ c ∈ run ++ blanks, (!scheme.endsAuthority c) = true := by
      refine List.forall_mem_append.mpr ⟨plain, fun c m => ?_⟩
      by_contra ends
      exact faint.not_mem (visible_of_endsAuthority (by simpa using ends)) m
    refine ⟨blanks, faint, .inr fun c m => ?_, ?_⟩
    · simpa using plain c (by simpa using m)
    · rw [List.append_nil, ← List.append_assoc, takeWhile_append_of_stops inside (all.stops scheme), List.takeWhile_eq_self_iff.mpr plain]
  | cons c more =>
    refine ⟨[], nofun, .inl rfl, ?_⟩
    have stops' : ∀ d ∈ (c :: (more ++ (blanks ++ slashes))).head?, (!scheme.endsAuthority d) = false := stops
    rw [List.append_assoc, List.cons_append, takeWhile_append_of_stops plain stops',
      takeWhile_append_of_stops plain stops, List.append_nil]

/-! ### Hosts that the slashes were needed for -/

/-- What can stand behind a scheme that has no host without blanks and slashes at its end. -/
inductive IsHostless : Scheme → List Char → Prop where
  /-- User information alone. A blank behind it is a host where hosts are kept as they stand. -/
  | empty {user : List Char} (unended : ∀ c ∈ user, Scheme.other.endsAuthority c = false)
      (ends : user = [] ∨ user.getLast? = some '@') : IsHostless .other ('/' :: '/' :: user)
  /-- A path that starts with a drive. A blank behind a drive keeps the segment from being one. -/
  | drive {x y c : Char} {host path : List Char} (first : Scheme.file.isSlash x = true)
      (second : Scheme.file.isSlash y = true) (unended : ∀ d ∈ host, Scheme.file.endsAuthority d = false)
      (slash : Scheme.file.isSlash c = true) (drive : startsWithDrive [] (segmentsOf path) = true) :
      IsHostless .file (x :: y :: (host ++ c :: path))

theorem splitHost_eq_nil_iff {bracketed : Bool} : splitHost bracketed a = ([], none) ↔ a = [] := by
  constructor
  · intro split
    cases a with
    | nil => rfl
    | cons c a =>
      rw [splitHost] at split
      split at split <;> cases split
  · rintro rfl
    rfl

theorem hostOf_eq_nil_iff : hostOf a = ([], none) ↔ a = [] ∨ a.getLast? = some '@' :=
  splitHost_eq_nil_iff.trans splitUser_eq_nil_iff

/-- An authority whose host is more than the blanks at its end is sound without them. -/
theorem IsSound.of_append {test : List Char → Prop} (faint : IsFaint e) (sound : IsSound test (hostOf (a ++ e)))
    (keeps : ∀ host, host ≠ [] → test (host ++ e) → test host) :
    IsSound test (hostOf a) ∨ hostOf a = ([], none) ∧ e ≠ [] ∧ test e := by
  rw [hostOf_append faint] at sound
  generalize hostOf a = split at sound ⊢
  rcases split with ⟨host, _ | number⟩
  · obtain ⟨some, tested, _⟩ := sound
    by_cases none : host = []
    · subst none
      exact .inr ⟨rfl, some, tested⟩
    · exact .inl ⟨none, keeps host none tested, nofun⟩
  · obtain ⟨some, tested, numbered⟩ := sound
    refine .inl ⟨some, tested, ?_⟩
    rintro n ⟨rfl⟩
    exact checkNumber_of_append faint (numbered _ rfl)

theorem not_isSound_nil {test : List Char → Prop} {number : Option (List Char)} : ¬IsSound test ([], number) :=
  fun sound => sound.1 rfl

/-- What starts otherwise than blanks and slashes do is not made of them. -/
theorem exists_of_append_eq {x y : Char} (faint : IsFaint blanks) (all : IsSlashes slashes)
    (visible : 0x20 < x.toNat ∧ 0x20 < y.toNat) (same : rest ++ (blanks ++ slashes) = x :: y :: after) :
    (∃ rest', rest = x :: y :: rest' ∧ after = rest' ++ (blanks ++ slashes)) ∨ IsSlashes after := by
  have slashed {z : Char} {tail : List Char} (high : 0x20 < z.toNat) (split : blanks ++ slashes = z :: tail) :
      IsSlashes tail := by
    cases blanks with
    | nil =>
      obtain rfl : slashes = z :: tail := split
      exact fun c m => all c (.tail z m)
    | cons b blanks =>
      obtain ⟨rfl, _⟩ := List.cons.inj split
      exact (faint.not_mem high (.head _)).elim
  rcases rest with _ | ⟨_, _ | ⟨_, rest'⟩⟩
  · exact .inr fun c m => slashed visible.1 same c (.tail y m)
  · exact .inr (slashed visible.2 (List.cons.inj same).2)
  · obtain ⟨rfl, behind⟩ := List.cons.inj same
    obtain ⟨rfl, rfl⟩ := List.cons.inj behind
    exact .inl ⟨rest', rfl, rfl⟩

theorem checkSpecial_of_append (faint : IsFaint blanks) (all : IsSlashes slashes)
    (accepted : checkSpecial (rest ++ (blanks ++ slashes)) = .ok ()) : checkSpecial rest = .ok () := by
  rw [checkSpecial_eq_ok_iff] at accepted ⊢
  obtain ⟨run, more, rfl, slashed, stops⟩ := exists_run Scheme.special.isSlash rest
  rw [dropWhile_append_of_stops slashed stops]
  by_cases bare : more = [] ∧ blanks = []
  · obtain ⟨rfl, rfl⟩ := bare
    have skipped : ∀ c ∈ run ++ [] ++ ([] ++ slashes), Scheme.special.isSlash c = true := by
      intro c m
      rcases List.mem_append.mp m with inside | inside
      · exact slashed c (by simpa using inside)
      · exact all c inside ▸ rfl
    rw [List.dropWhile_eq_nil_iff.mpr skipped] at accepted
    exact (not_isSound_nil accepted).elim
  · have stops' : ∀ c ∈ (more ++ (blanks ++ slashes)).head?, Scheme.special.isSlash c = false := by
      intro c m
      cases more with
      | cons d more => exact stops c m
      | nil =>
        obtain ⟨d, blanks, rfl⟩ := List.exists_cons_of_ne_nil fun none => bare ⟨rfl, none⟩
        obtain rfl : d = c := Option.some.inj m
        by_contra slash
        exact faint.not_mem (visible_of_isSlash (by simpa using slash)) (.head _)
    rw [List.append_assoc, dropWhile_append_of_stops slashed stops'] at accepted
    obtain ⟨e, faint, -, taken⟩ := takeWhile_append_tail .special faint all more
    rw [taken] at accepted
    have keeps (host : List Char) (named : ∃ found, checkName (host ++ e) = .ok found) :
        ∃ found, checkName host = .ok found := by
      obtain ⟨found, judged⟩ := named
      obtain rfl := checkName_append faint judged
      exact ⟨found, by simpa using judged⟩
    rcases accepted.of_append faint fun host _ => keeps host with sound | ⟨_, some, found, judged⟩
    · exact sound
    · have refused : checkName ([] ++ e) = .ok found := judged
      exact absurd (checkName_append faint refused) some

theorem checkOther_of_append (faint : IsFaint blanks) (all : IsSlashes slashes)
    (accepted : checkOther (rest ++ (blanks ++ slashes)) = .ok ()) (hosted : ¬IsHostless .other rest) :
    checkOther rest = .ok () := by
  obtain ⟨after, same, sound⟩ := checkOther_eq_ok_iff.mp accepted
  rcases exists_of_append_eq faint all (by decide) same with ⟨rest, rfl, rfl⟩ | slashed
  · refine checkOther_slashes_eq_ok_iff.mpr ?_
    obtain ⟨e, faint, tail, taken⟩ := takeWhile_append_tail .other faint all rest
    rw [taken] at sound
    rcases sound.of_append faint fun host some => checkOpaque_of_append faint some with sound | ⟨none, some, _⟩
    · exact sound
    · have unended := tail.resolve_left some
      rw [List.takeWhile_eq_self_iff.mpr (by simpa using unended)] at none
      exact (hosted (.empty unended (hostOf_eq_nil_iff.mp none))).elim
  · rw [slashed.takeWhile_eq .other] at sound
    exact (not_isSound_nil sound).elim

theorem checkFile_of_append (faint : IsFaint blanks) (all : IsSlashes slashes)
    (accepted : checkFile (rest ++ (blanks ++ slashes)) = .ok ()) (hosted : ¬IsHostless .file rest) :
    checkFile rest = .ok () := by
  obtain ⟨x, y, after, same, ⟨first, second⟩, host, _⟩ := checkFile_eq_ok_iff.mp accepted
  rcases exists_of_append_eq faint all ⟨visible_of_isSlash first, visible_of_isSlash second⟩ same with
    ⟨rest, rfl, rfl⟩ | slashed
  · obtain ⟨e, faint, -, taken⟩ := takeWhile_append_tail .file faint all rest
    rw [taken] at host
    obtain ⟨found, judged, _⟩ := host.named
    obtain rfl := checkName_append faint judged
    rw [List.append_nil] at host
    refine (checkFile_slashes_eq_ok_iff first second).mpr ⟨host, fun c path behind slash => ?_⟩
    by_contra drive
    apply hosted
    rw [← @List.takeWhile_append_dropWhile _ (!Scheme.file.endsAuthority ·) rest, behind]
    refine .drive first second (fun d m => ?_) slash (by simpa using drive)
    simpa using List.mem_takeWhile_imp m
  · rw [slashed.takeWhile_eq .file] at host
    exact absurd rfl host.some

theorem judge_ne_ok_of_isHostless {scheme : Scheme} (hostless : IsHostless scheme rest) :
    scheme.judge rest ≠ .ok () := by
  intro accepted
  cases hostless with
  | @empty user unended ends =>
    have sound := checkOther_slashes_eq_ok_iff.mp accepted
    rw [List.takeWhile_eq_self_iff.mpr (by simpa using unended), hostOf_eq_nil_iff.mpr ends] at sound
    exact not_isSound_nil sound
  | @drive x y c host path first second unended slash drive =>
    have free := ((checkFile_slashes_eq_ok_iff first second).mp accepted).2
    rw [dropWhile_append_of_stops (by simpa using unended) (by simp [Scheme.endsAuthority, slash])] at free
    exact absurd ((free c path rfl slash).symm.trans drive) (by decide)

theorem judge_of_append {scheme : Scheme} (faint : IsFaint blanks) (all : IsSlashes slashes)
    (accepted : scheme.judge (rest ++ (blanks ++ slashes)) = .ok ()) (hosted : ¬IsHostless scheme rest) :
    scheme.judge rest = .ok () := by
  cases scheme with
  | special => exact checkSpecial_of_append faint all accepted
  | file => exact checkFile_of_append faint all accepted hosted
  | other => exact checkOther_of_append faint all accepted hosted

/-- A path with more slashes at its end has the same segments, and others behind them. -/
theorem exists_segmentsOf_eq (all : IsSlashes slashes) (path : List Char) :
    ∃ more, segmentsOf (path ++ slashes) = segmentsOf path ++ more := by
  unfold segmentsOf
  obtain ⟨run, tail, rfl, plain, stops⟩ := exists_run (fun c => c != '?' && c != '#') path
  rw [takeWhile_append_of_stops plain stops]
  cases tail with
  | cons c tail =>
    have stops' : ∀ d ∈ (c :: tail ++ slashes).head?, (d != '?' && d != '#') = false := stops
    rw [List.append_assoc, takeWhile_append_of_stops plain stops']
    exact ⟨[], (List.append_nil _).symm⟩
  | nil =>
    have whole : ∀ c ∈ run ++ slashes, (c != '?' && c != '#') = true :=
      List.forall_mem_append.mpr ⟨plain, fun c m => all c m ▸ rfl⟩
    rw [List.append_nil, List.takeWhile_eq_self_iff.mpr whole, List.map_append]
    cases slashes with
    | nil => exact ⟨[], by simp⟩
    | cons c slashes =>
      obtain rfl := all c (.head _)
      exact ⟨_, fields_append_separator _ _⟩

/-- A drive comes first whatever follows it. -/
theorem startsWithDrive_append {standing segments : List (List Char)} (more : List (List Char))
    (drive : startsWithDrive standing segments = true) : startsWithDrive standing (segments ++ more) = true := by
  induction segments generalizing standing with
  | nil => cases drive
  | cons segment segments ih =>
    simp only [List.cons_append, startsWithDrive] at drive ⊢
    split at drive
    · next stays =>
      rw [if_pos stays]
      exact ih drive
    · next moves =>
      rw [if_neg moves]
      split at drive
      · next up =>
        rw [if_pos up]
        exact ih drive
      · next down =>
        rw [if_neg down, Bool.or_eq_true]
        exact (Bool.or_eq_true _ _ ▸ drive).imp_right ih

/-- Slashes alone are not needed. -/
theorem not_isHostless_of_append {scheme : Scheme} (all : IsSlashes slashes)
    (accepted : scheme.judge (rest ++ slashes) = .ok ()) : ¬IsHostless scheme rest := by
  intro hostless
  cases hostless with
  | @empty user unended ends =>
    rw [List.cons_append, List.cons_append] at accepted
    have sound := checkOther_slashes_eq_ok_iff.mp accepted
    rw [takeWhile_append_of_stops (by simpa using unended) (all.stops .other), hostOf_eq_nil_iff.mpr ends] at sound
    exact not_isSound_nil sound
  | @drive x y c host path first second unended slash drive =>
    rw [List.cons_append, List.cons_append, List.append_assoc] at accepted
    have free := ((checkFile_slashes_eq_ok_iff first second).mp accepted).2
    have stops : ∀ d ∈ (c :: path ++ slashes).head?, (!Scheme.file.endsAuthority d) = false := by
      simp [Scheme.endsAuthority, slash]
    rw [dropWhile_append_of_stops (by simpa using unended) stops] at free
    obtain ⟨more, split⟩ := exists_segmentsOf_eq all path
    have clear := free c (path ++ slashes) rfl slash
    rw [split, startsWithDrive_append more drive] at clear
    cases clear

/-- A root with no host that may have had one while more stood at its end. -/
def LacksHost (root : List Char) : Prop :=
  ∃ name rest, splitScheme (significant root) = some (name, rest) ∧ IsHostless (Scheme.ofName name) rest

end RequestTrail.RootUrl

namespace RequestTrail.Service

open RootUrl

/-- A root that was accepted is accepted again as it was kept, unless its host needed the slashes. It is
never cut further, and only blanks in front of the slashes can make them needed. -/
theorem ofRoot_root_iff {root : String} {s : Service} (accepted : ofRoot root = .ok s) :
    (∀ t, ofRoot s.root = .ok t ↔ t = s ∧ ¬LacksHost s.root.toList) ∧
      (LacksHost s.root.toList → ∃ c ∈ s.root.toList.getLast?, c.toNat ≤ 0x20) := by
  obtain ⟨judged, rfl⟩ := ofRoot_eq_ok_iff.mp accepted
  have front : (dropSlashes root).toList = root.toList.rdropWhile (· == '/') := String.toList_ofList
  have again : dropSlashes (dropSlashes root) = dropSlashes root := by
    apply String.toList_inj.mp
    rw [dropSlashes, String.toList_ofList, front]
    exact List.rdropWhile_idempotent _ _
  obtain ⟨name, after, split, accepted⟩ := check_eq_ok_iff.mp judged
  obtain ⟨blanks, slashes, faint, all, read, ends⟩ := exists_significant_eq root.toList
  have free : ':' ∉ blanks ++ slashes := by
    intro m
    rcases List.mem_append.mp m with inside | inside
    · exact faint.not_mem (by decide) inside
    · exact absurd (all _ inside) (by decide)
  rw [← front] at read ends
  rw [read] at split
  obtain ⟨rest, kept, rfl⟩ := splitScheme_append free split
  have hostless : LacksHost (dropSlashes root).toList ↔ IsHostless (Scheme.ofName name) rest := by
    simp [LacksHost, kept]
  have judgedAgain : check (dropSlashes root) = .ok () ↔ (Scheme.ofName name).judge rest = .ok () := by
    simp [check_eq_ok_iff, kept]
  refine ⟨fun t => ?_, fun lacks => ?_⟩
  · rw [ofRoot_eq_ok_iff, again, judgedAgain, hostless, and_comm]
    apply and_congr_right'
    constructor
    · exact fun fine lacks => judge_ne_ok_of_isHostless lacks fine
    · exact judge_of_append faint all accepted
  · apply ends
    rintro rfl
    exact not_isHostless_of_append all accepted (hostless.mp lacks)

theorem ofRoot_root_loopback :
    ofRoot "http://127.0.0.1:5000//" = .ok ⟨"http://127.0.0.1:5000"⟩ ∧
      ofRoot "http://127.0.0.1:5000" = .ok ⟨"http://127.0.0.1:5000"⟩ := by
  have accepted : ofRoot "http://127.0.0.1:5000//" = .ok ⟨"http://127.0.0.1:5000"⟩ :=
    ofRoot_of_check (by decide +kernel)
  have hosted : ¬LacksHost "http://127.0.0.1:5000".toList := by
    rintro ⟨name, rest, split, hostless⟩
    obtain ⟨rfl, rfl⟩ := Prod.mk.inj (Option.some.inj split)
    exact nomatch hostless
  exact ⟨accepted, ((ofRoot_root_iff accepted).1 _).mpr ⟨rfl, hosted⟩⟩

/-- A space behind a drive, and a control character for a host. Without the slash neither counts. -/
theorem ofRoot_root_refused :
    (ofRoot "file://h/C: /" = .ok ⟨"file://h/C: "⟩ ∧
      ofRoot "file://h/C: " = .error ⟨.rootUrl, "file://h/C: : URL has no host"⟩) ∧
    ofRoot "a://\x01/" = .ok ⟨"a://\x01"⟩ ∧ ofRoot "a://\x01" = .error ⟨.rootUrl, "a://\x01: URL has no host"⟩ := by
  refine ⟨⟨?_, ?_⟩, ?_, ?_⟩
  · decide +kernel
  · decide +kernel
  · decide +kernel
  · decide +kernel

end RequestTrail.Service
