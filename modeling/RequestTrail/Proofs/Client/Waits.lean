import RequestTrail.Proofs.Client.Schedule

/-! How long a task waits before it tries again. The wait before the n-th retry is n times the base delay
as long as n has 32 bits and the product can be represented, and every retry that a client may make is
reached in some run. -/
namespace RequestTrail

open Http

namespace Duration

variable {base : Duration} {n : Nat}

def times (n : Nat) (base : Duration) : Duration := ⟨n * base.nanoseconds⟩

/-- The factor fits in 32 bits, and the product is a length of time. -/
def Fits (base : Duration) (n : Nat) : Prop := n < 1 <<< 32 ∧ n * base.nanoseconds < limit

theorem beforeRetry_eq_none_iff :
    base.beforeRetry n = none ↔ limit ≤ n % (1 <<< 32) * base.nanoseconds := by
  rw [Nat.mul_comm]
  simp [beforeRetry]

theorem eq_times_of_beforeRetry {wait : Duration} (given : base.beforeRetry n = some wait) :
    wait = base.times (n % (1 <<< 32)) := by
  simp only [beforeRetry] at given
  split at given
  · rw [← Option.some.inj given, times, Nat.mul_comm]
  · cases given

theorem beforeRetry_of_fits (fits : base.Fits n) : base.beforeRetry n = some (base.times n) := by
  obtain ⟨short, small⟩ := fits
  simp only [beforeRetry, Nat.mod_eq_of_lt short, Nat.mul_comm base.nanoseconds, if_pos small, times]

theorem fits_of_beforeRetry (positive : base ≠ zero) (exact : base.beforeRetry n = some (base.times n)) :
    base.Fits n := by
  have length : 0 < base.nanoseconds := Nat.pos_of_ne_zero fun none => positive (congrArg mk none)
  have product : n * base.nanoseconds = n % (1 <<< 32) * base.nanoseconds :=
    congrArg nanoseconds (eq_times_of_beforeRetry exact)
  have same : n = n % (1 <<< 32) := Nat.eq_of_mul_eq_mul_right length product
  constructor
  · rw [same]
    exact Nat.mod_lt n (by decide)
  · apply Nat.lt_of_not_ge
    intro large
    rw [product] at large
    rw [beforeRetry_eq_none_iff.mpr large] at exact
    cases exact

end Duration

namespace Client

variable {σ : Type} {c : Client σ} {p : Pending σ} {n : Nat} {w x : World σ}

/-- Attempts are counted from one, and a task rests only between two of them. -/
def Task.Counted (c : Client σ) : Task σ → Prop
  | .queued _ | .finished _ => True
  | .ready _ n | .sent _ n _ => 1 ≤ n
  | .resting _ n wait => 1 ≤ n ∧ n ≤ c.retries ∧ c.delay ≠ .zero ∧ wait = c.delay.beforeRetry n

theorem counted_settle (positive : 1 ≤ n) (p : Pending σ) (result : Except Fault Response) :
    (c.settle p n result).Counted c := by
  unfold settle
  split
  · next more =>
    obtain ⟨_, _, _, within⟩ := Retry.again_eq_true_iff.mp more
    split
    · exact Nat.le_add_left 1 n
    · next delay => exact ⟨positive, within, delay, rfl⟩
  · trivial

theorem counted_step {t : Task σ} (counted : t.Counted c) (w : World σ) : (c.step t w).1.Counted c := by
  cases t with
  | queued q =>
    simp only [Client.step]
    split
    · trivial
    · exact Nat.le_refl 1
  | ready p n => exact counted
  | sent p n answer =>
    obtain ⟨result, pauses⟩ := answer
    cases pauses with
    | zero => exact counted_settle counted p result
    | succ pauses => exact counted
  | resting p n wait => exact Nat.le_add_left 1 n
  | finished result => trivial

/-- What every task has at its start, and keeps in every step, every task has in every run. -/
theorem forall_mem_play {good : Task σ → Prop} (starts : ∀ q, good (.queued q))
    (steps : ∀ {t}, good t → ∀ w, good (c.step t w).1) (moves : List Move) {s : Traffic σ}
    (all : ∀ t ∈ s.tasks, good t) : ∀ t ∈ (c.play s moves).tasks, good t := by
  induction moves generalizing s with
  | nil => exact all
  | cons m moves ih =>
    refine ih (s := c.move s m) ?_
    cases m with
    | send requests =>
      intro t member
      rcases List.mem_append.mp member with old | new
      · exact all t old
      · obtain ⟨q, _, rfl⟩ := List.mem_map.mp new
        exact starts q
    | step i =>
      simp only [move, advance]
      cases found : s.tasks[i]? with
      | none => exact all
      | some t =>
        intro t' member
        rcases List.mem_or_eq_of_mem_set member with old | rfl
        · exact all t' old
        · exact steps (all t (List.mem_of_getElem? found)) _

/-- A wait before the n-th retry, in any run of any client. It is n times the delay exactly when n has 32
bits and the product is a length of time. Only the lower 32 bits of n count, and a product that is no length
of time is no wait. -/
theorem wait_eq_times_iff (c : Client σ) (w : World σ) (moves : List Move) {wait : Option Duration}
    (rests : .resting p n wait ∈ (c.play ⟨[], w, []⟩ moves).tasks) :
    (1 ≤ n ∧ n ≤ c.retries ∧ c.delay ≠ .zero) ∧ (wait = some (c.delay.times n) ↔ c.delay.Fits n) ∧
      (∀ short, wait = some short → short = c.delay.times (n % (1 <<< 32))) ∧
      (wait = none ↔ Duration.limit ≤ n % (1 <<< 32) * c.delay.nanoseconds) := by
  have none : ∀ t ∈ (⟨[], w, []⟩ : Traffic σ).tasks, t.Counted c := List.forall_mem_nil _
  have counted := forall_mem_play (fun _ => trivial) counted_step moves none _ rests
  obtain ⟨positive, within, delay, rfl⟩ := counted
  exact ⟨⟨positive, within, delay⟩, ⟨Duration.fits_of_beforeRetry delay, Duration.beforeRetry_of_fits⟩,
    fun _ => Duration.eq_times_of_beforeRetry, Duration.beforeRetry_eq_none_iff⟩

/-- A client whose attempts all fail in the transport. -/
def tireless (retries : Nat) (delay : Duration) : Client Unit where
  initializer := Hook.idle
  transport := fun _ _ own => (⟨.error ⟨.transport, "down"⟩, 0⟩, own)
  retries
  delay

def probe : Request := { method := "GET", uri := .authorityOnly "host".toList }

/-- The second of three retries waits for twice the delay. -/
theorem wait_eq_times_iff_second :
    let c := tireless 3 ⟨5⟩
    let w : World Unit := ⟨fun _ => .empty, ()⟩
    let moves := [.send [probe], .step 0, .step 0, .step 0, .step 0, .step 0, .step 0]
    .resting ⟨probe, none⟩ 2 (some ⟨10⟩) ∈ (c.play ⟨[], w, []⟩ moves).tasks ∧
      some (Duration.mk 10) = some (c.delay.times 2) := by
  intro c w moves
  have rests : .resting ⟨probe, none⟩ 2 (some ⟨10⟩) ∈ (c.play ⟨[], w, []⟩ moves).tasks := .head _
  exact ⟨rests, (wait_eq_times_iff c w moves rests).2.1.mpr ⟨by decide, by decide⟩⟩

/-! ### Retries that are reached -/

/-- Every attempt that begins is reached. -/
theorem Schedules.begins (begins : Retry.Begins retryable c.retries (c.outcome p) w n x) :
    c.Schedules [.ready p 1] w [.ready p n] x := by
  induction begins with
  | first => exact .refl c _ w
  | next _ more ih => exact ih.trans ((Schedules.attempted c p _ _).trans (.retried more _))

/-- A task rests between an attempt and the one that follows it. -/
theorem Schedules.rests (begins : Retry.Begins retryable c.retries (c.outcome p) w n x)
    (more : Retry.again retryable c.retries n (c.outcome p n x).1 = true) (delay : c.delay ≠ .zero) :
    c.Schedules [.ready p 1] w [.resting p n (c.delay.beforeRetry n)] (c.outcome p n x).2 := by
  have settled : c.settle p n (c.outcome p n x).1 = .resting p n (c.delay.beforeRetry n) := by
    rw [settle, if_pos more, if_neg delay]
  rw [← settled]
  exact (Schedules.begins begins).trans (.attempted c p n x)

/-- It makes all its retries. -/
theorem rests_tireless {retries : Nat} {delay : Duration} (positive : 1 ≤ n) (within : n ≤ retries)
    (waits : delay ≠ .zero) (q : Request) (w : World Unit) :
    ∃ moves, .resting ⟨q, none⟩ n (delay.beforeRetry n) ∈
      ((tireless retries delay).play ⟨[], w, []⟩ moves).tasks := by
  let c := tireless retries delay
  let p : Pending Unit := ⟨q, none⟩
  have lost (n : Nat) (x : World Unit) : (c.outcome p n x).1 = .error ⟨.transport, "down"⟩ := rfl
  have goesOn (n : Nat) : Retry.endsRun retryable (Retry.outcome (c.outcome p) w n) = false := by
    rw [Retry.outcome, lost]
    rfl
  obtain ⟨m, rfl⟩ : ∃ m, n = m + 1 := ⟨n - 1, by omega⟩
  have begins : Retry.Begins retryable c.retries (c.outcome p) w (m + 1) (Retry.worldAfter (c.outcome p) w m) :=
    Retry.begins_of_forall (Nat.le_of_succ_le within) fun k _ => goesOn (k + 1)
  have more : Retry.again retryable c.retries (m + 1) (c.outcome p (m + 1) (Retry.worldAfter (c.outcome p) w m)).1 = true := by
    rw [lost]
    exact Retry.again_eq_true_iff.mpr ⟨_, rfl, rfl, within⟩
  have started : c.Schedules [.queued q] w [.ready p 1] w := Schedules.step c [] (.queued q) [] w
  obtain ⟨schedule, run⟩ := started.trans (Schedules.rests begins more waits)
  obtain ⟨sent, run⟩ := run []
  refine ⟨.send [q] :: schedule.map .step, ?_⟩
  have tasks : c.play ⟨[], w, []⟩ (.send [q] :: schedule.map .step) = _ := run
  rw [tasks]
  exact .head _

/-- With a base delay of one nanosecond there is no wait at all before retry 4294967296, which is due to
wait for as many nanoseconds. With a base delay of 2 ^ 63 seconds the second wait cannot be told. -/
theorem wait_ne_times :
    let w : World Unit := ⟨fun _ => .empty, ()⟩
    let short := tireless (1 <<< 32) ⟨1⟩
    let long := tireless 2 ⟨Duration.second <<< 63⟩
    short.delay.times (1 <<< 32) ≠ .zero ∧
      (∃ moves, .resting ⟨probe, none⟩ (1 <<< 32) (some .zero) ∈ (short.play ⟨[], w, []⟩ moves).tasks) ∧
      ∃ moves, .resting ⟨probe, none⟩ 2 none ∈ (long.play ⟨[], w, []⟩ moves).tasks := by
  intro w short long
  exact ⟨by decide, rests_tireless (by decide) (by decide) (by decide) probe w,
    rests_tireless (by decide) (by decide) (by decide) probe w⟩

end Client

end RequestTrail
