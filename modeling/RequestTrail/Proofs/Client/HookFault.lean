import RequestTrail.Proofs.Client.Traffic
import RequestTrail.Proofs.Retry
import RequestTrail.Proofs.Script
import RequestTrail.Tracker

/-! How a send ends when a hook fails. A fault of the initializer ends it, whatever its origin. A fault
of an interceptor is judged as if the transport had raised it, so one of the transport origin is
followed by another attempt while retries are left. A world holds every history and all that hooks and
the transport keep, so a send that ends in a world has run nothing since. -/
namespace RequestTrail.Client

open Http

variable {σ : Type} {c : Client σ} {q : Request} {w x y : World σ} {n : Nat} {e : Fault}

/-- What the initializer leaves of a request. -/
def initialized (c : Client σ) (q : Request) (w : World σ) : Ran (Pending σ) σ :=
  c.initializer ⟨q, none⟩ w

/-- What the interceptor leaves of the copy for an attempt that begins in the world `x`. -/
def intercepted (c : Client σ) (q : Request) (w x : World σ) : Ran Request σ :=
  (c.initialized q w).subject.prepare x

/-- Attempt `n` of a send begins in the world `x`. -/
structure Begins (c : Client σ) (q : Request) (w : World σ) (n : Nat) (x : World σ) : Prop where
  passed : (c.initialized q w).verdict = .ok ()
  attempt : Retry.Begins retryable c.retries (c.outcome (c.initialized q w).subject)
    (c.initialized q w).world n x

theorem retryable_eq_true_iff : retryable e = true ↔ e.origin = .transport := by
  simp [retryable]

theorem outcome_of_error (n : Nat) (failed : (c.intercepted q w x).verdict = .error e) :
    c.outcome (c.initialized q w).subject n x = (.error e, (c.intercepted q w x).world) := by
  rw [outcome, attempt_of_error n failed]
  rfl

theorem outcome_of_ok (n : Nat) (passed : (c.intercepted q w x).verdict = .ok ()) :
    c.outcome (c.initialized q w).subject n x =
      ((c.handOver n (c.intercepted q w x).subject (c.intercepted q w x).world).1.result,
        (c.handOver n (c.intercepted q w x).subject (c.intercepted q w x).world).2) := by
  rw [outcome, attempt_of_ok n passed]
  rfl

theorem send_of_initializer_fault (failed : (c.initialized q w).verdict = .error e) :
    c.send q w = (.error e, (c.initialized q w).world) := by
  simp only [initialized] at failed ⊢
  simp [send, failed]

theorem send_of_initialized (passed : (c.initialized q w).verdict = .ok ()) :
    c.send q w = Retry.run retryable c.retries (c.outcome (c.initialized q w).subject)
      (c.initialized q w).world := by
  simp only [initialized] at passed ⊢
  simp [send, passed]

namespace Begins

theorem first (passed : (c.initialized q w).verdict = .ok ()) :
    c.Begins q w 1 (c.initialized q w).world :=
  ⟨passed, .first⟩

theorem next (begins : c.Begins q w n x)
    (failed : c.outcome (c.initialized q w).subject n x = (.error e, y))
    (origin : e.origin = .transport) (left : n ≤ c.retries) : c.Begins q w (n + 1) y := by
  have more : Retry.again retryable c.retries n
      (c.outcome (c.initialized q w).subject n x).1 = true :=
    Retry.again_eq_true_iff.mpr ⟨e, by rw [failed], retryable_eq_true_iff.mpr origin, left⟩
  have after := Retry.Begins.next begins.attempt more
  rw [failed] at after
  exact ⟨begins.passed, after⟩

/-- An attempt is made only after one that failed with a fault of the transport origin. -/
theorem previous (begins : c.Begins q w (n + 2) y) :
    ∃ x e, c.Begins q w (n + 1) x ∧ n + 1 ≤ c.retries ∧ e.origin = .transport ∧
      c.outcome (c.initialized q w).subject (n + 1) x = (.error e, y) := by
  obtain ⟨passed, attempt⟩ := begins
  cases attempt with
  | next before more =>
    obtain ⟨e, failed, retried, left⟩ := Retry.again_eq_true_iff.mp more
    exact ⟨_, e, ⟨passed, before⟩, left, retryable_eq_true_iff.mp retried, Prod.ext failed rfl⟩

theorem send_of_fault (begins : c.Begins q w n x)
    (failed : c.outcome (c.initialized q w).subject n x = (.error e, y))
    (last : ¬(e.origin = .transport ∧ n ≤ c.retries)) : c.send q w = (.error e, y) := by
  have final : Retry.again retryable c.retries n
      (c.outcome (c.initialized q w).subject n x).1 = false := by
    rw [Bool.eq_false_iff]
    intro more
    obtain ⟨e', failed', retried, left⟩ := Retry.again_eq_true_iff.mp more
    rw [failed] at failed'
    obtain rfl := Except.error.inj failed'
    exact last ⟨retryable_eq_true_iff.mp retried, left⟩
  rw [send_of_initialized begins.passed, begins.attempt.run_of_final final, failed]

end Begins

/-- Past its initializer a send ends as one of its attempts does. -/
theorem send_eq_outcome (passed : (c.initialized q w).verdict = .ok ()) :
    ∃ n x, c.Begins q w n x ∧ c.send q w = c.outcome (c.initialized q w).subject n x := by
  obtain ⟨n, x, begins, final⟩ :=
    (Begins.first passed).attempt.exists_final (Nat.add_comm 1 c.retries)
  exact ⟨n, x, ⟨passed, begins⟩, (send_of_initialized passed).trans (begins.run_of_final final)⟩

/-- A failed initializer ends the send. Otherwise the send ends as one of its attempts does. A failed
interceptor ends it too, unless its fault is of the transport origin and a retry is left: then the next
attempt is made, and nothing in between. An attempt is made for no other reason than a fault of that
origin, of the interceptor or of the transport. -/
theorem send_of_hook_fault (c : Client σ) (q : Request) (w : World σ) :
    (∀ e, (c.initialized q w).verdict = .error e →
      c.send q w = (.error e, (c.initialized q w).world)) ∧
    ((c.initialized q w).verdict = .ok () → c.Begins q w 1 (c.initialized q w).world ∧
      ∃ n x, c.Begins q w n x ∧ c.send q w = c.outcome (c.initialized q w).subject n x) ∧
    (∀ n x e, c.Begins q w n x → (c.intercepted q w x).verdict = .error e →
      (¬(e.origin = .transport ∧ n ≤ c.retries) →
        c.send q w = (.error e, (c.intercepted q w x).world)) ∧
      (e.origin = .transport ∧ n ≤ c.retries →
        c.Begins q w (n + 1) (c.intercepted q w x).world)) ∧
    ∀ n y, c.Begins q w (n + 2) y → ∃ x e, c.Begins q w (n + 1) x ∧ n + 1 ≤ c.retries ∧
      e.origin = .transport ∧
      ((c.intercepted q w x).verdict = .error e ∧ y = (c.intercepted q w x).world ∨
        (c.intercepted q w x).verdict = .ok () ∧
          (c.handOver (n + 1) (c.intercepted q w x).subject (c.intercepted q w x).world).1.result =
            .error e) := by
  refine ⟨fun e failed => send_of_initializer_fault failed,
    fun passed => ⟨.first passed, send_eq_outcome passed⟩, fun n x e begins failed => ?_,
    fun n y begins => ?_⟩
  · have outcome := outcome_of_error n failed
    exact ⟨begins.send_of_fault outcome, fun ⟨origin, left⟩ => begins.next outcome origin left⟩
  · -- The fault that was retried does not say who raised it, so both sides of the attempt remain.
    obtain ⟨x, e, before, left, origin, failed⟩ := begins.previous
    refine ⟨x, e, before, left, origin, ?_⟩
    cases verdict : (c.intercepted q w x).verdict with
    | error e' =>
      rw [outcome_of_error (n + 1) verdict] at failed
      obtain ⟨same, rfl⟩ := Prod.mk.inj failed
      obtain rfl := Except.error.inj same
      exact Or.inl ⟨rfl, rfl⟩
    | ok _ =>
      rw [outcome_of_ok (n + 1) verdict] at failed
      exact Or.inr ⟨rfl, (Prod.mk.inj failed).1⟩

/-- Signs requests with a key that may fail to be read: the interceptor fails on the calls given. -/
def keyed (origin : Origin) (calls : List Nat) : Initializer Script.Stage :=
  Script.initializer "d" [.intercept ⟨"i", [.fail ⟨⟨origin, "no key"⟩, calls⟩]⟩ false] 0

def bucketRequest : Request where
  method := "GET"
  uri := .absolute "https".toList "www.googleapis.com".toList ⟨"/storage/v1/b/bucket".toList, none⟩

/-- The first request is lost and sent again. The interceptor then fails on its own account, and the
send ends with its fault, though retries are left. -/
theorem send_of_hook_fault_keyed :
    let c : Client Script.Stage := ⟨keyed .interceptor [2], Script.lossy, 3, .zero⟩
    let begun := (c.initialized bucketRequest Script.opening).world
    let lost := (c.outcome (c.initialized bucketRequest Script.opening).subject 1 begun).2
    c.Begins bucketRequest Script.opening 2 lost ∧
      c.send bucketRequest Script.opening = (.error ⟨.interceptor, "no key"⟩,
        (c.intercepted bucketRequest Script.opening lost).world) := by
  intro c begun lost
  have begins : c.Begins bucketRequest Script.opening 2 lost :=
    (Begins.first rfl).next (e := ⟨.transport, "lost"⟩) rfl rfl (by decide)
  have failed : (c.intercepted bucketRequest Script.opening lost).verdict =
      .error ⟨.interceptor, "no key"⟩ := rfl
  have ends := ((send_of_hook_fault c bucketRequest Script.opening).2.2.1 2 lost _ begins failed).1
  exact ⟨begins, ends (by decide)⟩

/-- A hook whose fault is of the transport origin fails and is run again, and the send succeeds. The
tracker records the second attempt. -/
theorem send_after_hook_fault :
    let t : Tracker Script.Stage := ⟨0, some (keyed .transport [1])⟩
    let c : Client Script.Stage := ⟨t.toInitializer, Script.transport [] 0 1, 1, .zero⟩
    let begun := (c.initialized bucketRequest Script.opening).world
    let sent := c.send bucketRequest Script.opening
    c.Begins bucketRequest Script.opening 1 begun ∧
      (c.intercepted bucketRequest Script.opening begun).verdict = .error ⟨.transport, "no key"⟩ ∧
      sent.1 = .ok ⟨200, []⟩ ∧ (t.history sent.2).size = 1 ∧
      sent.2.own.events.map Script.Event.line =
        ["initializer d #1 GET https://www.googleapis.com/storage/v1/b/bucket body=0",
          "interceptor i #1", "interceptor i #2",
          "transport #1 GET https://www.googleapis.com/storage/v1/b/bucket HTTP/1.1 [] body= marker=false"] := by
  intro t c begun sent
  exact ⟨Begins.first rfl, rfl, rfl, by decide +kernel, by decide +kernel⟩

end RequestTrail.Client
