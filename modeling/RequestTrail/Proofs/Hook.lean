import RequestTrail.Hook

/-! What hooks leave alone: a view of the world that they do not change, and a history that they
neither read nor write. -/
namespace RequestTrail

open Http

variable {σ α β : Type} {key : Nat}

@[simp] theorem World.setHistory_record (w : World σ) (key : Nat) (h : History) (r : Record) :
    (w.setHistory key h).record key r = w.setHistory key (h.append r) := by
  simp only [record, setHistory, ↓reduceIte]
  congr 1
  funext other
  split <;> rfl

theorem World.setHistory_own (w : World σ) (key : Nat) (h : History) (own : σ) :
    { w.setHistory key h with own } = World.setHistory { w with own } key h := rfl

def Ran.setHistory (r : Ran α σ) (key : Nat) (h : History) : Ran α σ :=
  { r with world := r.world.setHistory key h }

theorem World.setHistory_self (w : World σ) (key : Nat) :
    w.setHistory key (w.histories key) = w := by
  cases w with
  | mk histories own =>
    simp only [setHistory]
    congr 1
    funext other
    split
    · next here => rw [here]
    · rfl

/-- The interceptor does not change what is viewed of the world. -/
def Interceptor.Leaves (view : World σ → β) (i : Interceptor σ) : Prop :=
  ∀ q w, view (i q w).world = view w

/-- Neither the initializer nor an interceptor that it installs changes what is viewed. -/
structure Initializer.Leaves (view : World σ → β) (d : Initializer σ) : Prop where
  world : ∀ q w, view (d ⟨q, none⟩ w).world = view w
  installed : ∀ q w, ∀ i ∈ (d ⟨q, none⟩ w).subject.interceptor, Interceptor.Leaves view i

theorem Pending.prepare_leaves {view : World σ → β} {p : Pending σ}
    (leaves : ∀ i ∈ p.interceptor, Interceptor.Leaves view i) (w : World σ) :
    view (p.prepare w).world = view w := by
  cases installed : p.interceptor with
  | none => simp [Pending.prepare, installed, Hook.idle]
  | some i =>
    have := leaves i (by simp [installed]) p.request w
    simpa [Pending.prepare, installed] using this

/-- The interceptor neither reads nor writes the history under the key. -/
def Interceptor.Unaware (key : Nat) (i : Interceptor σ) : Prop :=
  ∀ q w h, i q (w.setHistory key h) = (i q w).setHistory key h

/-- Neither the initializer nor an interceptor that it installs reads or writes the history. A tracker
is made after its delegate and shows its history to nobody else, so every delegate is unaware of it. -/
structure Initializer.Unaware (key : Nat) (d : Initializer σ) : Prop where
  run : ∀ q w h, d ⟨q, none⟩ (w.setHistory key h) = (d ⟨q, none⟩ w).setHistory key h
  installed : ∀ q w, ∀ i ∈ (d ⟨q, none⟩ w).subject.interceptor, i.Unaware key

def Pending.Unaware (key : Nat) (p : Pending σ) : Prop := ∀ i ∈ p.interceptor, i.Unaware key

theorem Pending.Unaware.prepare {p : Pending σ} (unaware : p.Unaware key) (w : World σ)
    (h : History) : p.prepare (w.setHistory key h) = (p.prepare w).setHistory key h := by
  cases installed : p.interceptor with
  | none => simp [Pending.prepare, installed, Hook.idle, Ran.setHistory]
  | some i =>
    have run := unaware i installed p.request w h
    simpa [Pending.prepare, installed] using run

/-- A history that is not written is left alone. -/
theorem Interceptor.Unaware.leaves {i : Interceptor σ} (unaware : i.Unaware key) :
    i.Leaves fun w => w.histories key := by
  intro q w
  have run := unaware q w (w.histories key)
  rw [World.setHistory_self] at run
  rw [run]
  simp [Ran.setHistory]

theorem Initializer.Unaware.leaves {d : Initializer σ} (unaware : d.Unaware key) :
    d.Leaves fun w => w.histories key := by
  refine ⟨fun q w => ?_, fun q w i installed => (unaware.installed q w i installed).leaves⟩
  have run := unaware.run q w (w.histories key)
  rw [World.setHistory_self] at run
  rw [run]
  simp [Ran.setHistory]

theorem Interceptor.Unaware.andThen {first second : Interceptor σ} (unaware : first.Unaware key)
    (also : second.Unaware key) : Interceptor.Unaware key (first.andThen second) := by
  intro q w h
  have run := unaware q w h
  cases verdict : (first q w).verdict with
  | error e =>
    have failed : (first q (w.setHistory key h)).verdict = .error e := by rw [run]; exact verdict
    rw [Hook.andThen_of_error failed, Hook.andThen_of_error verdict, run]
  | ok _ =>
    have passed : (first q (w.setHistory key h)).verdict = .ok () := by rw [run]; exact verdict
    rw [Hook.andThen_of_ok passed, Hook.andThen_of_ok verdict, run]
    exact also _ _ h

end RequestTrail
