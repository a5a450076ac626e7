import RequestTrail.Proofs.Client.HookFault
import RequestTrail.Proofs.Client.Watched

/-! What a send runs, and on what. The list of a watched client begins with the one run of the
initializer. The attempts follow, and each runs the interceptor on the request as the initializer left
it, so nothing that an attempt changes in its copy comes to the next. -/
namespace RequestTrail

open Http

variable {σ : Type}

namespace Client

/-- The runs of so many attempts, one after another. -/
def runsOf (c : Client σ) (p : Pending σ) (w : World σ) (count : Nat) : List Run :=
  (List.range' 1 count).flatMap fun n => p.runs n (Retry.worldAfter (c.outcome p) w (n - 1))

theorem worldAfter_watched (c : Client σ) (p : Pending σ) (w : World σ) (runs : List Run) (n : Nat) :
    Retry.worldAfter (c.watched.outcome p.watched) (w.watched runs) n =
      (Retry.worldAfter (c.outcome p) w n).watched (runs ++ c.runsOf p w n) := by
  induction n with
  | zero => simp [Retry.worldAfter, runsOf]
  | succ n ih =>
    rw [Retry.worldAfter, ih, outcome_watched, Retry.worldAfter, runsOf, runsOf,
      List.range'_1_concat, List.flatMap_append, List.append_assoc]
    simp [Nat.add_comm 1 n]

theorem retryOutcome_watched (c : Client σ) (p : Pending σ) (w : World σ) (runs : List Run) :
    Retry.outcome (c.watched.outcome p.watched) (w.watched runs) =
      Retry.outcome (c.outcome p) w := by
  funext n
  rw [Retry.outcome, worldAfter_watched, outcome_watched]
  rfl

theorem initialized_watched (c : Client σ) (q : Request) (w : World σ) (runs : List Run) :
    c.watched.initialized q (w.watched runs) =
      ⟨(c.initialized q w).verdict, (c.initialized q w).subject.watched,
        (c.initialized q w).world.watched (runs ++ [.initializer q])⟩ := rfl

/-- The attempts do not run the initializer, and each runs the interceptor on the same request. -/
theorem eq_of_mem_runsOf {c : Client σ} {p : Pending σ} {w : World σ} {count : Nat} {run : Run}
    (m : run ∈ c.runsOf p w count) :
    run = .interceptor p.request ∨ ∃ n handed, run = .transport n handed := by
  obtain ⟨n, _, inside⟩ := List.mem_flatMap.mp m
  rcases List.mem_append.mp inside with hook | handed
  · obtain ⟨_, _, same⟩ := Option.map_eq_some_iff.mp (Option.mem_toList.mp hook)
    exact Or.inl same.symm
  · obtain ⟨handed, _, same⟩ := Option.map_eq_some_iff.mp (Option.mem_toList.mp handed)
    exact Or.inr ⟨n, handed, same.symm⟩

/-- An action that may be retried is run up to the first result that ends the run, or as often as is
allowed, and the run ends as the last attempt does. So does a send past its initializer, which is run
once and before all attempts, and whose failure ends the send. Every run of the interceptor begins with
the request as the initializer left it. -/
theorem attempts_start_fresh {α ε ω : Type} (mayRetry : ε → Bool) (retries : Nat)
    (act : Nat → ω → Except ε α × ω) (x : ω) (c : Client σ) (q : Request) (w : World σ) :
    let last := Retry.lastAttempt mayRetry retries (Retry.outcome act x)
    let r := c.initialized q w
    Retry.run mayRetry retries act x = (Retry.outcome act x last, Retry.worldAfter act x last) ∧
    Retry.run mayRetry retries (Retry.noting act) (x, []) =
      (Retry.outcome act x last, (Retry.worldAfter act x last, List.range' 1 last)) ∧
    match r.verdict with
    | .error e =>
      c.send q w = (.error e, r.world) ∧
      c.watched.send q (w.watched []) = (.error e, r.world.watched [.initializer q])
    | .ok () =>
      let attempt := c.outcome r.subject
      let last := Retry.lastAttempt retryable c.retries (Retry.outcome attempt r.world)
      let result := Retry.outcome attempt r.world last
      let left := Retry.worldAfter attempt r.world last
      let runs := c.runsOf r.subject r.world last
      c.send q w = (result, left) ∧
      c.watched.send q (w.watched []) = (result, left.watched (.initializer q :: runs)) ∧
      ∀ run ∈ runs, run = .interceptor r.subject.request ∨ ∃ n handed, run = .transport n handed := by
  intro last r
  refine ⟨Retry.run_eq_outcome .., ?_, ?_⟩
  · rw [Retry.run_eq_outcome, Retry.outcome_noting, Retry.worldAfter_noting]
  · have watchedRun := initialized_watched c q w []
    cases verdict : r.verdict with
    | error e =>
      have failed : (c.watched.initialized q (w.watched [])).verdict = .error e := by
        rw [watchedRun]
        exact verdict
      refine ⟨send_of_initializer_fault verdict, ?_⟩
      rw [send_of_initializer_fault failed, watchedRun]
      rfl
    | ok _ =>
      have passed : (c.watched.initialized q (w.watched [])).verdict = .ok () := by
        rw [watchedRun]
        exact verdict
      refine ⟨?_, ?_, fun run m => eq_of_mem_runsOf m⟩
      · rw [send_of_initialized verdict, Retry.run_eq_outcome]
      · rw [send_of_initialized passed, watchedRun, Retry.run_eq_outcome, worldAfter_watched,
          retryOutcome_watched]
        rfl

/-- The interceptor makes a PUT of every copy, and yet finds a GET each time. Its first run fails and the
second attempt is lost. -/
example :
    let c : Client Script.Stage := ⟨Script.unsteady, Script.lossy, 3, .zero⟩
    let q : Request := { method := "GET", uri := .authorityOnly "host".toList }
    let stamped := { q with headers := ⟨[⟨"x-stamp", [[0x31]]⟩]⟩ }
    (c.watched.send q (Script.opening.watched [])).2.own.2 =
      [.initializer q, .interceptor stamped, .interceptor stamped,
        .transport 2 { stamped with method := "PUT" }, .interceptor stamped,
        .transport 3 { stamped with method := "PUT" }] := by
  rfl

end Client

end RequestTrail
