import RequestTrail.Proofs.Normalizer.TokenEqual

/-! What every text becomes at its position, in words of segments alone. Several normalizers called in
turn number their texts independently: a text stands at the position that it has among the calls to
its own normalizer. -/
namespace RequestTrail

open Text Parameter

namespace Segment

variable {position : Nat} {leads : Bool} {s t value before : List Char}

/-- A page token is the whole of a segment that does not lead its text. -/
def IsPage (leads : Bool) (s : List Char) : Prop :=
  leads = false ∧ ∃ value, value ≠ [] ∧ s = "pageToken=".toList ++ value

/-- A page token gets the number of the position. In any other segment the first opening of a generation
token does, if it has a value. All else is kept. -/
inductive Becomes (position : Nat) (leads : Bool) : List Char → List Char → Prop where
  | page {s : List Char} : IsPage leads s →
      Becomes position leads s ("pageToken=token_".toList ++ (toString position).toList)
  | generation {s before value : List Char} : ¬IsPage leads s → HasGenerationToken before value s →
      Becomes position leads s
        (before ++ ("ifGenerationMatch=GenerationMatch_token_".toList ++ (toString position).toList))
  | kept {s : List Char} : ¬IsPage leads s → (∀ before value, ¬HasGenerationToken before value s) →
      Becomes position leads s s

theorem isPage_iff : IsPage leads s ↔ (!leads && isPageToken s) = true := by
  rw [IsPage, Bool.and_eq_true, Bool.not_eq_true', isPageToken_iff]
  rfl

theorem not_isPage_iff : ¬IsPage leads s ↔ leads = true ∨ isPageToken s = false := by
  rw [isPage_iff]
  cases leads <;> simp

theorem becomes_rewrite (position : Nat) (leads : Bool) (s : List Char) :
    Becomes position leads s (rewrite position leads s) := by
  by_cases token : IsPage leads s
  · obtain ⟨rfl, page⟩ := token
    rw [rewrite_of_isPageToken (isPageToken_iff.mpr page)]
    exact .page ⟨rfl, page⟩
  have other := not_isPage_iff.mp token
  by_cases found : ∃ before value, HasGenerationToken before value s
  · obtain ⟨before, value, h⟩ := found
    obtain ⟨cut, nonempty⟩ := HasGenerationToken.iff_cut.mp h
    rw [rewrite_of_cut other cut nonempty]
    exact .generation token h
  · have bare : ∀ before value, ¬HasGenerationToken before value s :=
      fun before value h => found ⟨before, value, h⟩
    rw [rewrite_of_bare other fun before value cut => ?_]
    · exact .kept token bare
    · by_contra nonempty
      exact bare before value (HasGenerationToken.iff_cut.mpr ⟨cut, nonempty⟩)

/-- The three cases exclude one another, and each of them leaves one text. -/
theorem Becomes.unique {u : List Char} (h : Becomes position leads s t)
    (g : Becomes position leads s u) : t = u := by
  cases h with
  | page token =>
    cases g with
    | page => rfl
    | generation other => exact absurd token other
    | kept other => exact absurd token other
  | generation other token =>
    cases g with
    | page page => exact absurd page other
    | generation _ token' => rw [token.before_eq token']
    | kept _ bare => exact absurd token (bare _ _)
  | kept other bare =>
    cases g with
    | page page => exact absurd page other
    | generation _ token => exact absurd token (bare _ _)
    | kept => rfl

theorem becomes_iff : Becomes position leads s t ↔ rewrite position leads s = t :=
  ⟨fun h => (becomes_rewrite position leads s).unique h, fun same => same ▸ becomes_rewrite _ _ _⟩

end Segment

/-- As many segments, and each becomes the one at its place. -/
structure Becomes (position : Nat) (x y : String) : Prop where
  length : (fields '&' y.toList).length = (fields '&' x.toList).length
  segment : ∀ i s t, (fields '&' x.toList)[i]? = some s → (fields '&' y.toList)[i]? = some t →
    Segment.Becomes position (i == 0) s t

theorem normalizeAt_eq_iff_becomes {position : Nat} {x y : String} :
    normalizeAt position x = y ↔ Becomes position x y := by
  rw [normalizeAt_eq_iff_fields, mapIdx_eq_iff]
  simp only [← Segment.becomes_iff]
  exact ⟨fun h => ⟨h.1, h.2⟩, fun h => ⟨h.length, h.segment⟩⟩

namespace Normalizer

/-- Calls on several normalizers one after another, each call with the number of its normalizer. -/
def calls : List (Nat × String) → (Nat → Normalizer) → List String
  | [], _ => []
  | (n, x) :: more, state =>
    let (line, next) := (state n).normalize x
    line :: calls more fun other => if other = n then next else state other

def fresh : Nat → Normalizer := fun _ => {}

/-- How many of the first `k` calls go to the normalizer. -/
def callsBefore (steps : List (Nat × String)) (k n : Nat) : Nat :=
  (steps.take k).countP (·.1 == n)

/-- From any state, every text is numbered on from where its normalizer stands. -/
theorem calls_eq_mapIdx (steps : List (Nat × String)) (state : Nat → Normalizer) :
    calls steps state = steps.mapIdx fun k step =>
      normalizeAt ((state step.1).position + callsBefore steps k step.1) step.2 := by
  induction steps generalizing state with
  | nil => rfl
  | cons step more ih =>
    obtain ⟨n, x⟩ := step
    rw [calls, List.mapIdx_cons]
    simp only [normalize]
    refine congrArg₂ _ (by simp [callsBefore]) ?_
    rw [ih]
    congr 1
    funext k step
    by_cases same : step.1 = n
    · simp [callsBefore, same, Nat.add_assoc, Nat.add_comm 1]
    · simp [callsBefore, same, Ne.symm same]

theorem callsBefore_of_one {n : Nat} {xs : List String} {k : Nat} (inside : k ≤ xs.length) :
    callsBefore (xs.map fun x => (n, x)) k n = k := by
  simp [callsBefore, ← List.map_take, List.countP_map, Function.comp_def, inside]

/-- One fresh normalizer for all texts is one among several that gets all the calls. -/
theorem normalize_eq_calls (n : Nat) (xs : List String) :
    RequestTrail.normalize xs = calls (xs.map fun x => (n, x)) fresh := by
  rw [calls_eq_mapIdx, RequestTrail.normalize]
  refine List.ext_getElem (by simp) fun k hx _ => ?_
  have inside : k ≤ xs.length := by simpa using hx.le
  simp [callsBefore_of_one inside, fresh]

end Normalizer

/-- Normalizing is exactly the rule for segments, at the place of every text in its list, and with several
normalizers called in turn at its place among the calls to its own. -/
theorem normalize_eq_iff_becomes :
    (∀ xs ys : List String, normalize xs = ys ↔ ys.length = xs.length ∧
      ∀ i x y, xs[i]? = some x → ys[i]? = some y → Becomes i x y) ∧
    ∀ (steps : List (Nat × String)) (ys : List String), Normalizer.calls steps Normalizer.fresh = ys ↔
      ys.length = steps.length ∧ ∀ k n x y, steps[k]? = some (n, x) → ys[k]? = some y →
        Becomes (Normalizer.callsBefore steps k n) x y := by
  refine ⟨fun xs ys => ?_, fun steps ys => ?_⟩
  · rw [normalize, mapIdx_eq_iff]
    simp only [normalizeAt_eq_iff_becomes]
  · rw [Normalizer.calls_eq_mapIdx, mapIdx_eq_iff]
    simp only [normalizeAt_eq_iff_becomes, Normalizer.fresh, Nat.zero_add, Prod.forall]

/-- Two normalizers count apart, and a token inside another is not counted on its own. -/
example : Normalizer.calls [(0, "a&pageToken=x"), (1, "b"), (1, "ifGenerationMatch=5&pageToken="),
    (0, "pageToken=ifGenerationMatch=7")] Normalizer.fresh =
    ["a&pageToken=token_0", "b", "ifGenerationMatch=GenerationMatch_token_1&pageToken=",
      "pageToken=ifGenerationMatch=GenerationMatch_token_1"] := by
  decide +kernel

end RequestTrail
