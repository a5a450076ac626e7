import RequestTrail.Retry

/-! The retry loop, one attempt at a time: either another attempt follows or the result stands. -/
namespace RequestTrail.Retry

variable {α ε ω : Type} {retryable : ε → Bool} {retries n left : Nat} {result : Except ε α}
  {act : Nat → ω → Except ε α × ω} {w : ω}

theorem again_eq_true_iff :
    again retryable retries n result = true ↔
      ∃ e, result = .error e ∧ retryable e = true ∧ n ≤ retries := by
  cases result <;> simp [again]

theorem again_of_lt (past : retries < n) : again retryable retries n result = false := by
  rw [Bool.eq_false_iff]
  intro more
  obtain ⟨_, _, _, within⟩ := again_eq_true_iff.mp more
  omega

theorem attempts_of_final (count : n + left = retries + 1)
    (final : again retryable retries n (act n w).1 = false) :
    attempts retryable act left n w = act n w := by
  cases left with
  | zero => rfl
  | succ left =>
    rw [attempts]
    cases first : act n w with
    | mk result w' =>
      cases result with
      | ok a => rfl
      | error e =>
        have within : n ≤ retries := by omega
        have given : retryable e = false := by simpa [again, first, within] using final
        simp [given]

theorem attempts_of_again (more : again retryable retries n (act n w).1 = true) :
    attempts retryable act (left + 1) n w = attempts retryable act left (n + 1) (act n w).2 := by
  obtain ⟨e, failed, retried, _⟩ := again_eq_true_iff.mp more
  rw [attempts]
  cases first : act n w with
  | mk result w' =>
    obtain rfl : result = .error e := by simpa [first] using failed
    simp [retried]

/-- An action whose first result is not retried runs once. -/
theorem run_of_final (final : again retryable retries 1 (act 1 w).1 = false) :
    run retryable retries act w = act 1 w :=
  attempts_of_final (Nat.add_comm 1 retries) final

/-- Attempt `n` begins in the world `x`, since every attempt before it was followed by another. -/
inductive Begins (retryable : ε → Bool) (retries : Nat) (act : Nat → ω → Except ε α × ω) (w : ω) :
    Nat → ω → Prop where
  | first : Begins retryable retries act w 1 w
  | next {n : Nat} {x : ω} : Begins retryable retries act w n x →
      again retryable retries n (act n x).1 = true →
      Begins retryable retries act w (n + 1) (act n x).2

/-- From every attempt that begins, the run goes on with the attempts that are left. -/
theorem Begins.run_eq {x : ω} (begins : Begins retryable retries act w n x) :
    ∃ left, n + left = retries + 1 ∧ run retryable retries act w = attempts retryable act left n x := by
  induction begins with
  | first => exact ⟨retries, Nat.add_comm 1 retries, rfl⟩
  | next _ more ih =>
    obtain ⟨left, count, same⟩ := ih
    obtain ⟨_, _, _, within⟩ := again_eq_true_iff.mp more
    cases left with
    | zero => omega
    | succ left => exact ⟨left, by omega, same.trans (attempts_of_again more)⟩

/-- A run ends as the first attempt does that is not followed by another. -/
theorem Begins.run_of_final {x : ω} (begins : Begins retryable retries act w n x)
    (final : again retryable retries n (act n x).1 = false) :
    run retryable retries act w = act n x := by
  obtain ⟨left, count, same⟩ := begins.run_eq
  rw [same, attempts_of_final count final]

/-- From every attempt that begins, one is reached that is not followed by another. -/
theorem Begins.exists_final {x : ω} (begins : Begins retryable retries act w n x)
    (count : n + left = retries + 1) :
    ∃ m y, Begins retryable retries act w m y ∧ again retryable retries m (act m y).1 = false := by
  induction left generalizing n x with
  | zero => exact ⟨n, x, begins, again_of_lt (by omega)⟩
  | succ left ih =>
    cases more : again retryable retries n (act n x).1 with
    | false => exact ⟨n, x, begins, more⟩
    | true => exact ih (begins.next more) (by omega)

/-- Two actions that agree on every result, as long as their worlds are related, run alike. -/
theorem attempts_related (retryable : ε → Bool) (left n : Nat) {ω' : Type} {act' : Nat → ω' → Except ε α × ω'} {R : ω → ω' → Prop}
    (alike : ∀ n w w', R w w' → (act' n w').1 = (act n w).1 ∧ R (act n w).2 (act' n w').2)
    {w' : ω'} (related : R w w') :
    (attempts retryable act' left n w').1 = (attempts retryable act left n w).1 ∧
      R (attempts retryable act left n w).2 (attempts retryable act' left n w').2 := by
  induction left generalizing n w w' with
  | zero => exact alike n w w' related
  | succ left ih =>
    obtain ⟨result, next⟩ := alike n w w' related
    rw [attempts, attempts]
    cases first : act n w with
    | mk r x =>
      cases second : act' n w' with
      | mk r' x' =>
        simp only [first, second] at result next
        subst result
        cases r' with
        | ok a => exact ⟨rfl, next⟩
        | error e =>
          by_cases more : retryable e = true
          · simpa [more] using ih (n + 1) next
          · simpa [more] using next

/-- What every attempt only adds to is not taken back by the attempts after the first. -/
theorem attempts_adds {β : Type} {view : ω → List β} (adds : ∀ n w, view w <+: view (act n w).2)
    (left n : Nat) (w : ω) :
    view (act n w).2 <+: view (attempts retryable act left n w).2 := by
  induction left generalizing n w with
  | zero => exact List.prefix_rfl
  | succ left ih =>
    rw [attempts]
    cases acted : act n w with
    | mk result w' =>
      cases result with
      | ok a => exact List.prefix_rfl
      | error e =>
        by_cases more : retryable e = true
        · simpa [more] using (adds (n + 1) w').trans (ih (n + 1) w')
        · simp [more]

theorem Begins.prefix_run {β : Type} {view : ω → List β}
    (adds : ∀ n w, view w <+: view (act n w).2) {x : ω}
    (begins : Begins retryable retries act w n x) :
    view (act n x).2 <+: view (run retryable retries act w).2 := by
  obtain ⟨left, _, same⟩ := begins.run_eq
  rw [same]
  exact attempts_adds adds left n x

/-! ### How many attempts -/

/-- Whether a result ends the run while attempts are left. -/
def endsRun (retryable : ε → Bool) : Except ε α → Bool
  | .error e => !retryable e
  | .ok _ => true

/-- The first of the attempts allowed whose result ends the run, or else the last of them. -/
def lastAttempt (retryable : ε → Bool) (retries : Nat) (outcomes : Nat → Except ε α) : Nat :=
  ((List.range' 1 (retries + 1)).find? fun n => endsRun retryable (outcomes n)).getD (retries + 1)

/-- The world after so many attempts, whatever comes of each. -/
def worldAfter (act : Nat → ω → Except ε α × ω) (w : ω) : Nat → ω
  | 0 => w
  | n + 1 => (act (n + 1) (worldAfter act w n)).2

/-- What comes of attempt `n`, counted from one, after those before it. -/
def outcome (act : Nat → ω → Except ε α × ω) (w : ω) (n : Nat) : Except ε α :=
  (act n (worldAfter act w (n - 1))).1

/-- The action, with the number of each attempt noted beside the world. -/
def noting (act : Nat → ω → Except ε α × ω) (n : Nat) (w : ω × List Nat) :
    Except ε α × (ω × List Nat) :=
  ((act n w.1).1, ((act n w.1).2, w.2 ++ [n]))

theorem again_eq (retryable : ε → Bool) (retries n : Nat) (result : Except ε α) :
    again retryable retries n result = (!endsRun retryable result && decide (n ≤ retries)) := by
  cases result <;> simp [again, endsRun]

/-- When no earlier result ends the run, the next attempt begins in the world that they leave. -/
theorem begins_of_forall (within : n ≤ retries)
    (before : ∀ m < n, endsRun retryable (outcome act w (m + 1)) = false) :
    Begins retryable retries act w (n + 1) (worldAfter act w n) := by
  induction n with
  | zero => exact .first
  | succ n ih =>
    have begins := ih (by omega) fun m earlier => before m (by omega)
    have last : endsRun retryable (act (n + 1) (worldAfter act w n)).1 = false := before n (by omega)
    refine begins.next ?_
    rw [again_eq, last]
    simpa using within

theorem lastAttempt_spec (retryable : ε → Bool) (retries : Nat) (outcomes : Nat → Except ε α) :
    ∃ n ≤ retries, lastAttempt retryable retries outcomes = n + 1 ∧
      (∀ m < n, endsRun retryable (outcomes (m + 1)) = false) ∧
      (n = retries ∨ endsRun retryable (outcomes (n + 1)) = true) := by
  unfold lastAttempt
  cases found : (List.range' 1 (retries + 1)).find? fun n => endsRun retryable (outcomes n) with
  | none =>
    refine ⟨retries, Nat.le_refl _, rfl, fun m earlier => ?_, Or.inl rfl⟩
    have goesOn := List.find?_eq_none.mp found (m + 1) (List.mem_range'_1.mpr (by omega))
    simpa using goesOn
  | some k =>
    obtain ⟨ends, n, inside, rfl, earlier⟩ := List.find?_eq_some_iff_getElem.mp found
    simp only [List.length_range'] at inside
    simp only [List.getElem_range', Nat.one_mul, Nat.add_comm 1] at ends earlier ⊢
    refine ⟨n, by omega, rfl, fun m before => ?_, Or.inr ends⟩
    simpa using earlier m before

/-- A run makes the attempts up to the last, and ends as the last does. -/
theorem run_eq_outcome (retryable : ε → Bool) (retries : Nat) (act : Nat → ω → Except ε α × ω)
    (w : ω) : run retryable retries act w =
      (outcome act w (lastAttempt retryable retries (outcome act w)),
        worldAfter act w (lastAttempt retryable retries (outcome act w))) := by
  obtain ⟨n, within, last, before, ends⟩ := lastAttempt_spec retryable retries (outcome act w)
  have begins := begins_of_forall within before
  have final : again retryable retries (n + 1) (act (n + 1) (worldAfter act w n)).1 = false := by
    rcases ends with rfl | ends
    · exact again_of_lt (Nat.lt_succ_self n)
    · have ended : endsRun retryable (act (n + 1) (worldAfter act w n)).1 = true := ends
      rw [again_eq, ended]
      rfl
  rw [last, begins.run_of_final final]
  rfl

theorem worldAfter_noting (act : Nat → ω → Except ε α × ω) (w : ω) (n : Nat) :
    worldAfter (noting act) (w, []) n = (worldAfter act w n, List.range' 1 n) := by
  induction n with
  | zero => rfl
  | succ n ih =>
    rw [worldAfter, ih, noting, List.range'_1_concat, Nat.add_comm 1 n]
    rfl

theorem outcome_noting (act : Nat → ω → Except ε α × ω) (w : ω) :
    outcome (noting act) (w, []) = outcome act w := by
  funext n
  rw [outcome, worldAfter_noting]
  rfl

end RequestTrail.Retry
