import RequestTrail.Proofs.Client.Traffic
import RequestTrail.Tracker

/-! What a tracker adds to a request: a record of every attempt that the other hooks let pass. -/
namespace RequestTrail

open Http

variable {σ : Type} {w : World σ} {e : Fault}

/-- The request with a recording interceptor after its own. -/
def Pending.tracked (key : Nat) (p : Pending σ) : Pending σ :=
  { p with interceptor := some (Tracker.after p.interceptor key) }

namespace Pending

variable {p : Pending σ}

theorem prepare_tracked_of_error (key : Nat) (failed : (p.prepare w).verdict = .error e) :
    (p.tracked key).prepare w = p.prepare w := by
  cases installed : p.interceptor with
  | none => simp [prepare, installed, Hook.idle] at failed
  | some i =>
    have first : (i p.request w).verdict = .error e := by simpa [prepare, installed] using failed
    simp [prepare, tracked, Tracker.after, installed, Hook.andThen_of_error first]

theorem prepare_tracked_of_ok (key : Nat) (passed : (p.prepare w).verdict = .ok ()) :
    (p.tracked key).prepare w =
      ⟨.ok (), (p.prepare w).subject,
        (p.prepare w).world.record key (.ofRequest (p.prepare w).subject)⟩ := by
  cases installed : p.interceptor with
  | none => simp [prepare, tracked, Tracker.after, Tracker.recording, installed, Hook.idle]
  | some i =>
    have first : (i p.request w).verdict = .ok () := by simpa [prepare, installed] using passed
    simp [prepare, tracked, Tracker.after, Tracker.recording, installed,
      Hook.andThen_of_ok first]

theorem handed?_tracked (key : Nat) (p : Pending σ) (w : World σ) :
    (p.tracked key).handed? w = p.handed? w := by
  cases verdict : (p.prepare w).verdict with
  | error e => rw [handed?, prepare_tracked_of_error key verdict, handed?]
  | ok _ => rw [handed?, prepare_tracked_of_ok key verdict, handed?_of_ok verdict]

end Pending

namespace Tracker

variable {t : Tracker σ} {p : Pending σ}

/-- What the tracker runs before it installs its own hook. -/
def inner (t : Tracker σ) : Initializer σ := t.delegate.getD Hook.idle

theorem toInitializer_eq (t : Tracker σ) : t.toInitializer = t.inner.andThen (install t.key) := by
  unfold toInitializer inner
  cases t.delegate with
  | none => rfl
  | some d => rfl

theorem toInitializer_of_error (failed : (t.inner p w).verdict = .error e) :
    t.toInitializer p w = t.inner p w := by
  rw [toInitializer_eq, Hook.andThen_of_error failed]

theorem toInitializer_of_ok (passed : (t.inner p w).verdict = .ok ()) :
    t.toInitializer p w =
      ⟨.ok (), (t.inner p w).subject.tracked t.key, (t.inner p w).world⟩ := by
  rw [toInitializer_eq, Hook.andThen_of_ok passed]
  rfl

end Tracker

end RequestTrail
