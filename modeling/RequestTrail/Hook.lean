import RequestTrail.Fault
import RequestTrail.History
import RequestTrail.Http.Describe

/-!
# Hooks

A hook is run on a request, or on a request still being set up, before it goes out. It may change
what it is run on and the world, and it may fail. What it has changed by then stays changed.
-/
namespace RequestTrail

open Http

/-- The histories of all trackers, and whatever state the hooks and the transport keep between
them. -/
structure World (σ : Type) where
  histories : Nat → History
  own : σ

namespace World

variable {σ : Type}

def setHistory (w : World σ) (tracker : Nat) (h : History) : World σ :=
  { w with histories := fun other => if other = tracker then h else w.histories other }

def record (w : World σ) (tracker : Nat) (r : Record) : World σ :=
  w.setHistory tracker ((w.histories tracker).append r)

@[simp] theorem histories_setHistory (w : World σ) (tracker other : Nat) (h : History) :
    (w.setHistory tracker h).histories other =
      if other = tracker then h else w.histories other := rfl

@[simp] theorem own_setHistory (w : World σ) (tracker : Nat) (h : History) :
    (w.setHistory tracker h).own = w.own := rfl

end World

/-- How a hook ended, with what it leaves behind. -/
structure Ran (α σ : Type) where
  verdict : Except Fault Unit
  subject : α
  world : World σ

abbrev Hook (α σ : Type) := α → World σ → Ran α σ

/-- The second hook runs on what the first leaves, unless the first fails. -/
def Hook.andThen {α σ : Type} (first second : Hook α σ) : Hook α σ := fun a w =>
  let r := first a w
  match r.verdict with
  | .error _ => r
  | .ok () => second r.subject r.world

theorem Hook.andThen_of_error {α σ : Type} {first second : Hook α σ} {a : α} {w : World σ}
    {f : Fault} (failed : (first a w).verdict = .error f) :
    first.andThen second a w = first a w := by
  simp [andThen, failed]

theorem Hook.andThen_of_ok {α σ : Type} {first second : Hook α σ} {a : α} {w : World σ}
    (passed : (first a w).verdict = .ok ()) :
    first.andThen second a w = second (first a w).subject (first a w).world := by
  simp [andThen, passed]

def Hook.idle {α σ : Type} : Hook α σ := fun a w => ⟨.ok (), a, w⟩

/-- Runs right before each attempt, on a copy of the request. -/
abbrev Interceptor (σ : Type) := Hook Request σ

/-- A request that is built and not yet sent, with the interceptor that is installed on it. -/
structure Pending (σ : Type) where
  request : Request
  interceptor : Option (Interceptor σ) := none

/-- The copy of the request that an attempt works on, after the interceptor was run on it. -/
def Pending.prepare {σ : Type} (p : Pending σ) (w : World σ) : Ran Request σ :=
  (p.interceptor.getD Hook.idle) p.request w

/-- Runs once for each request that is sent. -/
abbrev Initializer (σ : Type) := Hook (Pending σ) σ

/-- The request as it stands, and whether an interceptor is installed. -/
def Pending.describe {σ : Type} (p : Pending σ) : String :=
  "PendingRequest \x7b request: " ++ p.request.describe ++ ", has_interceptor: " ++
    (if p.interceptor.isSome then "true" else "false") ++ " \x7d"

end RequestTrail
