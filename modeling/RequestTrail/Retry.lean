import RequestTrail.Fault

/-!
# Retrying

An action is run again as long as it fails with a fault that may be retried and attempts are left.
The wait before the n-th retry is a multiple of the base delay. The factor is kept in 32 bits, and
a wait has no more than 64 bits of seconds.
-/
namespace RequestTrail

namespace Retry

variable {α ε ω : Type}

/-- Whether the result of attempt `n`, counted from one, is followed by another attempt. -/
def again (retryable : ε → Bool) (retries n : Nat) : Except ε α → Bool
  | .error e => retryable e && n ≤ retries
  | .ok _ => false

/-- Runs attempt `n` and as many more as are left. -/
def attempts (retryable : ε → Bool) (act : Nat → ω → Except ε α × ω) :
    (left n : Nat) → ω → Except ε α × ω
  | 0, n, w => act n w
  | left + 1, n, w =>
    match act n w with
    | (.error e, w) => if retryable e then attempts retryable act left (n + 1) w else (.error e, w)
    | (.ok a, w) => (.ok a, w)

/-- Runs the action once and then at most `retries` times more. -/
def run (retryable : ε → Bool) (retries : Nat) (act : Nat → ω → Except ε α × ω) (w : ω) :
    Except ε α × ω :=
  attempts retryable act retries 1 w

end Retry

/-- A length of time in nanoseconds. -/
structure Duration where
  nanoseconds : Nat
deriving DecidableEq, Repr

namespace Duration

def zero : Duration := ⟨0⟩

def second : Nat := 1000000000

/-- The shortest length of time that has no representation. -/
def limit : Nat := second <<< 64

def ofMilliseconds (n : Nat) : Duration := ⟨n * 1000000⟩

/-- The wait before the n-th retry, or `none` where it has no representation and a running program
panics. -/
def beforeRetry (base : Duration) (n : Nat) : Option Duration :=
  let wait := base.nanoseconds * (n % (1 <<< 32))
  if wait < limit then some ⟨wait⟩ else none

end Duration

end RequestTrail
