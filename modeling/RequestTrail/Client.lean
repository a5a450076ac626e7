import RequestTrail.Hook
import RequestTrail.Retry

/-!
# Clients

A client runs its initializer once on each request that it sends. Every attempt then starts from a
copy of the request as the initializer left it: the interceptor is run on the copy, and the copy is
handed to the transport. Faults of the transport origin are retried, whoever raises them.

Several requests can be sent side by side. Each is a task, and a step of a task is either the work
up to the next hand-over or the arrival of an answer. Time is not modelled. A transport says how
often the task is passed over before its answer arrives. A running program panics over a wait that
is too long to be represented. The panic is not modelled: the task goes on with its next attempt.
-/
namespace RequestTrail

open Http

/-- What a transport makes of a request, and how often the sender is passed over before it knows. -/
structure Answer where
  result : Except Fault Response
  pauses : Nat := 0

/-- A transport sees the request and the number of the attempt, and none of the histories. -/
abbrev Transport (σ : Type) := (attempt : Nat) → Request → σ → Answer × σ

structure Client (σ : Type) where
  initializer : Initializer σ
  transport : Transport σ
  retries : Nat := 0
  delay : Duration := .zero

namespace Client

variable {σ : Type}

def retryable (f : Fault) : Bool := f.origin = .transport

/-- Hands a request to the transport, which sees no history. -/
def handOver (c : Client σ) (n : Nat) (q : Request) (w : World σ) : Answer × World σ :=
  let (answer, own) := c.transport n q w.own
  (answer, { w with own })

/-- One attempt on a copy of the request. The copy does not outlive it. -/
def attempt (c : Client σ) (p : Pending σ) (n : Nat) (w : World σ) : Answer × World σ :=
  let r := p.prepare w
  match r.verdict with
  | .error e => (⟨.error e, 0⟩, r.world)
  | .ok () => c.handOver n r.subject r.world

/-- What an attempt ends in, however long it took. -/
def outcome (c : Client σ) (p : Pending σ) (n : Nat) (w : World σ) :
    Except Fault Response × World σ :=
  let (answer, w) := c.attempt p n w
  (answer.result, w)

/-- Sends one request with nothing beside it. -/
def send (c : Client σ) (q : Request) (w : World σ) : Except Fault Response × World σ :=
  let r := c.initializer ⟨q, none⟩ w
  match r.verdict with
  | .error e => (.error e, r.world)
  | .ok () => Retry.run retryable c.retries (c.outcome r.subject) r.world

/-- A request on its way: not yet looked at, ready for an attempt, handed over, waiting before a
retry, or answered for good. The wait is `none` where it cannot be represented. -/
inductive Task (σ : Type) where
  | queued (q : Request)
  | ready (p : Pending σ) (n : Nat)
  | sent (p : Pending σ) (n : Nat) (answer : Answer)
  | resting (p : Pending σ) (n : Nat) (wait : Option Duration)
  | finished (result : Except Fault Response)

namespace Task

def result? : Task σ → Option (Except Fault Response)
  | .finished result => some result
  | _ => none

def isFinished (t : Task σ) : Bool := t.result?.isSome

/-- Whether the task lets the others run. -/
def isSuspended : Task σ → Bool
  | .queued _ => false
  | .ready _ _ => false
  | .sent _ _ answer => answer.pauses != 0
  | .resting _ _ _ => true
  | .finished _ => true

end Task

/-- What an answer to attempt `n` leads to. -/
def settle (c : Client σ) (p : Pending σ) (n : Nat) (result : Except Fault Response) : Task σ :=
  if Retry.again retryable c.retries n result then
    if c.delay = .zero then .ready p (n + 1) else .resting p n (c.delay.beforeRetry n)
  else .finished result

/-- One step of one task. A wait that cannot be represented ends like any other, where a running
program panics. -/
def step (c : Client σ) (t : Task σ) (w : World σ) : Task σ × World σ :=
  match t with
  | .queued q =>
    let r := c.initializer ⟨q, none⟩ w
    match r.verdict with
    | .error e => (.finished (.error e), r.world)
    | .ok () => (.ready r.subject 1, r.world)
  | .ready p n =>
    let (answer, w) := c.attempt p n w
    (.sent p n answer, w)
  | .sent p n ⟨result, pauses + 1⟩ => (.sent p n ⟨result, pauses⟩, w)
  | .sent p n ⟨result, 0⟩ => (c.settle p n result, w)
  | .resting p n _ => (.ready p (n + 1), w)
  | .finished result => (.finished result, w)

/-- How many steps a task has left at most, apart from being passed over. -/
def rank (c : Client σ) : Task σ → Nat
  | .queued _ => 3 * c.retries + 4
  | .ready _ n => 3 * (c.retries + 1 - n) + 3
  | .sent _ n _ => 3 * (c.retries + 1 - n) + 2
  | .resting _ n _ => 3 * (c.retries - n) + 4
  | .finished _ => 0

def Task.pauses : Task σ → Nat
  | .sent _ _ answer => answer.pauses
  | _ => 0

/-- Fewer steps are left, or as many and fewer pauses. -/
def Nearer (c : Client σ) (a b : Task σ) : Prop :=
  c.rank a < c.rank b ∨ c.rank a = c.rank b ∧ a.pauses < b.pauses

theorem Nearer.trans {c : Client σ} {x y z : Task σ} (h : c.Nearer x y) (g : c.Nearer y z) :
    c.Nearer x z := by
  unfold Nearer at *
  omega

theorem settle_nearer (c : Client σ) (p : Pending σ) (n : Nat) (result : Except Fault Response)
    (pauses : Nat) : c.Nearer (c.settle p n result) (.sent p n ⟨result, pauses⟩) := by
  unfold settle
  split
  · next h =>
    have left : n ≤ c.retries := by
      cases result <;> simp_all [Retry.again]
    split <;> · left; simp only [rank]; omega
  · left; simp [rank]

/-- Every step of an unfinished task brings its end nearer. -/
theorem step_nearer (c : Client σ) (t : Task σ) (w : World σ) (unfinished : t.isFinished = false) :
    c.Nearer (c.step t w).1 t := by
  unfold step
  split
  · dsimp only
    split <;> · left; simp only [rank]; omega
  · left; simp [rank]
  · right; simp [rank, Task.pauses]
  · exact settle_nearer ..
  · left; simp only [rank]; omega
  · simp [Task.isFinished, Task.result?] at unfinished

theorem step_of_isFinished (c : Client σ) {t : Task σ} (w : World σ)
    (done : t.isFinished = true) : c.step t w = (t, w) := by
  cases t <;> simp_all [Task.isFinished, Task.result?, step]

theorem isSuspended_of_isFinished {t : Task σ} (done : t.isFinished = true) :
    t.isSuspended = true := by
  cases t <;> simp_all [Task.isFinished, Task.result?, Task.isSuspended]

theorem nearer_of_runs (c : Client σ) (t : Task σ) (w : World σ)
    (runs : ¬(c.step t w).1.isSuspended = true) : c.Nearer (c.step t w).1 t := by
  cases done : t.isFinished with
  | false => exact step_nearer c t w done
  | true =>
    rw [step_of_isFinished c w done] at runs
    exact absurd (isSuspended_of_isFinished done) runs

/-- A task runs until it has to wait for something or is finished. -/
def turn (c : Client σ) (t : Task σ) (w : World σ) : Task σ × World σ :=
  let next := c.step t w
  if next.1.isSuspended then next else c.turn next.1 next.2
termination_by (c.rank t, t.pauses)
decreasing_by
  rcases nearer_of_runs c t w ‹_› with h | ⟨h, g⟩
  · exact Prod.Lex.left _ _ h
  · rw [h]; exact Prod.Lex.right _ g

theorem turn_nearer (c : Client σ) (t : Task σ) (w : World σ) (unfinished : t.isFinished = false) :
    c.Nearer (c.turn t w).1 t := by
  fun_induction turn c t w with
  | case1 t w next waits => exact step_nearer c t w unfinished
  | case2 t w next runs ih =>
    have near : c.Nearer next.1 t := step_nearer c t w unfinished
    refine (ih ?_).trans near
    cases done : next.1.isFinished with
    | false => rfl
    | true => exact absurd (isSuspended_of_isFinished done) runs

theorem turn_of_isFinished (c : Client σ) {t : Task σ} (w : World σ)
    (done : t.isFinished = true) : c.turn t w = (t, w) := by
  rw [turn, step_of_isFinished c w done]
  simp [isSuspended_of_isFinished done]

/-- Every task has one turn, in order. -/
def round (c : Client σ) : List (Task σ) → World σ → List (Task σ) × World σ
  | [], w => ([], w)
  | t :: ts, w =>
    let (t, w) := c.turn t w
    let (ts, w) := c.round ts w
    (t :: ts, w)

def ranks (c : Client σ) (ts : List (Task σ)) : Nat := ts.foldr (c.rank · + ·) 0

def allPauses (ts : List (Task σ)) : Nat := ts.foldr (·.pauses + ·) 0

/-- A round with an unfinished task brings the end of all nearer. -/
theorem round_nearer (c : Client σ) (ts : List (Task σ)) (w : World σ) :
    (∀ t ∈ ts, t.isFinished = true) ∧ (c.round ts w).1 = ts ∨
      c.ranks (c.round ts w).1 < c.ranks ts ∨
      c.ranks (c.round ts w).1 = c.ranks ts ∧ allPauses (c.round ts w).1 < allPauses ts := by
  induction ts generalizing w with
  | nil => exact Or.inl ⟨by simp, rfl⟩
  | cons t ts ih =>
    simp only [round, ranks, allPauses, List.foldr_cons] at ih ⊢
    cases done : t.isFinished with
    | true =>
      simp only [turn_of_isFinished c w done]
      rcases ih w with ⟨all, same⟩ | h | h
      · exact Or.inl ⟨by simpa [done] using all, by rw [same]⟩
      · right; left; omega
      · right; right; omega
    | false =>
      have near := turn_nearer c t w done
      unfold Nearer at near
      rcases ih (c.turn t w).2 with ⟨_, same⟩ | h | h
      · rw [same]; omega
      · omega
      · omega

/-- Rounds until every task is finished. -/
def finish (c : Client σ) (ts : List (Task σ)) (w : World σ) : List (Task σ) × World σ :=
  if ts.all Task.isFinished then (ts, w)
  else
    let next := c.round ts w
    c.finish next.1 next.2
termination_by (c.ranks ts, allPauses ts)
decreasing_by
  rcases round_nearer c ts w with ⟨all, _⟩ | h | ⟨h, g⟩
  · exact absurd (List.all_eq_true.mpr all) ‹_›
  · exact Prod.Lex.left _ _ h
  · rw [h]; exact Prod.Lex.right _ g

/-- Sends all requests side by side. The results stand in the order of the requests. -/
def sendAll (c : Client σ) (qs : List Request) (w : World σ) :
    List (Except Fault Response) × World σ :=
  let (ts, w) := c.finish (qs.map .queued) w
  (ts.filterMap Task.result?, w)

end Client

end RequestTrail
