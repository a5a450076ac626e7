import RequestTrail.Client

/-! What a client hands over while its tasks are stepped in any order. A rule that every single step
keeps is kept by a whole run, whatever the order. -/
namespace RequestTrail

open Http

variable {σ : Type}

/-- What an attempt on the pending request hands over. A failed hook hands over nothing. -/
def Pending.handed? (p : Pending σ) (w : World σ) : Option Request :=
  match (p.prepare w).verdict with
  | .error _ => none
  | .ok () => some (p.prepare w).subject

theorem Pending.handed?_of_error {p : Pending σ} {w : World σ} {e : Fault}
    (failed : (p.prepare w).verdict = .error e) : p.handed? w = none := by
  simp [handed?, failed]

theorem Pending.handed?_of_ok {p : Pending σ} {w : World σ}
    (passed : (p.prepare w).verdict = .ok ()) : p.handed? w = some (p.prepare w).subject := by
  simp [handed?, passed]

namespace Client

namespace Task

/-- The request of a task that is past its initializer. -/
def pending? : Task σ → Option (Pending σ)
  | .ready p _ | .sent p _ _ | .resting p _ _ => some p
  | .queued _ | .finished _ => none

/-- What the next step of a task hands over. Only attempts hand over. -/
def handed? (t : Task σ) (w : World σ) : Option Request :=
  match t with
  | .ready p _ => p.handed? w
  | _ => none

end Task

theorem attempt_of_error {c : Client σ} {p : Pending σ} {w : World σ} {e : Fault} (n : Nat)
    (failed : (p.prepare w).verdict = .error e) :
    c.attempt p n w = (⟨.error e, 0⟩, (p.prepare w).world) := by
  simp [attempt, failed]

theorem attempt_of_ok {c : Client σ} {p : Pending σ} {w : World σ} (n : Nat)
    (passed : (p.prepare w).verdict = .ok ()) :
    c.attempt p n w = c.handOver n (p.prepare w).subject (p.prepare w).world := by
  simp [attempt, passed]

/-- Tasks in the order in which they were started, with all that was handed over so far. -/
structure Traffic (σ : Type) where
  tasks : List (Task σ)
  world : World σ
  wire : List Request

/-- Starting requests side by side, one request being sent alone, or a step of one task. -/
inductive Move where
  | send (requests : List Request)
  | step (task : Nat)

def advance (c : Client σ) (s : Traffic σ) (i : Nat) : Traffic σ :=
  match s.tasks[i]? with
  | none => s
  | some t =>
    { tasks := s.tasks.set i (c.step t s.world).1
      world := (c.step t s.world).2
      wire := s.wire ++ (t.handed? s.world).toList }

def move (c : Client σ) (s : Traffic σ) : Move → Traffic σ
  | .send requests => { s with tasks := s.tasks ++ requests.map .queued }
  | .step i => c.advance s i

def play (c : Client σ) (s : Traffic σ) (moves : List Move) : Traffic σ := moves.foldl c.move s

theorem play_append (c : Client σ) (s : Traffic σ) (first second : List Move) :
    c.play s (first ++ second) = c.play (c.play s first) second :=
  List.foldl_append

variable {c : Client σ} {w : World σ} {built : Pending σ → Prop} {inv : World σ → List Request → Prop}

/-- What the initializer keeps and establishes, and what attempts keep from then on. -/
structure Keeps (c : Client σ) (built : Pending σ → Prop) (inv : World σ → List Request → Prop) :
    Prop where
  starts : ∀ {q w wire}, inv w wire → inv (c.initializer ⟨q, none⟩ w).world wire
  builds : ∀ {q w}, (c.initializer ⟨q, none⟩ w).verdict = .ok () →
    built (c.initializer ⟨q, none⟩ w).subject
  attempt : ∀ {p n w wire}, built p → inv w wire →
    inv (c.attempt p n w).2 (wire ++ (p.handed? w).toList)

theorem Keeps.trivial (keeps : c.Keeps built inv) : c.Keeps built fun _ _ => True :=
  ⟨fun _ => True.intro, keeps.builds, fun _ _ => True.intro⟩

/-- The invariant of a run: one of the world and the wire, and one of each request on its way. -/
structure Traffic.Holds (built : Pending σ → Prop) (inv : World σ → List Request → Prop)
    (s : Traffic σ) : Prop where
  tasks : ∀ t ∈ s.tasks, ∀ p ∈ t.pending?, built p
  inv : inv s.world s.wire

theorem settle_pending? (p : Pending σ) (n : Nat) (result : Except Fault Response) :
    ∀ p' ∈ (c.settle p n result).pending?, p' = p := by
  intro p' m
  unfold settle at m
  split at m
  · split at m <;> exact (Option.some.inj m).symm
  · cases m

theorem Keeps.step (keeps : c.Keeps built inv) {t : Task σ} {w : World σ}
    (ready : ∀ p ∈ t.pending?, built p) (wire : List Request) (h : inv w wire) :
    (∀ p ∈ (c.step t w).1.pending?, built p) ∧
      inv (c.step t w).2 (wire ++ (t.handed? w).toList) := by
  cases t with
  | queued q =>
    simp only [Client.step, Task.handed?, Option.toList_none, List.append_nil]
    cases verdict : (c.initializer ⟨q, none⟩ w).verdict with
    | error e => exact ⟨fun p m => absurd m (Option.not_mem_none p), keeps.starts h⟩
    | ok _ =>
      refine ⟨fun p m => ?_, keeps.starts h⟩
      obtain rfl := Option.some.inj m
      exact keeps.builds verdict
  | ready p n => exact ⟨fun p' m => ready p' m, keeps.attempt (ready p rfl) h⟩
  | sent p n answer =>
    obtain ⟨result, pauses⟩ := answer
    simp only [Task.handed?, Option.toList_none, List.append_nil]
    cases pauses with
    | zero =>
      refine ⟨fun p' m => ?_, h⟩
      rw [settle_pending? p n result p' m]
      exact ready p rfl
    | succ pauses => exact ⟨ready, h⟩
  | resting p n wait =>
    simp only [Task.handed?, Option.toList_none, List.append_nil]
    exact ⟨ready, h⟩
  | finished result =>
    simp only [Task.handed?, Option.toList_none, List.append_nil]
    exact ⟨ready, h⟩

theorem Keeps.advance (keeps : c.Keeps built inv) {s : Traffic σ} (h : s.Holds built inv)
    (i : Nat) : (c.advance s i).Holds built inv := by
  unfold Client.advance
  cases found : s.tasks[i]? with
  | none => exact h
  | some t =>
    have next := keeps.step (h.tasks t (List.mem_of_getElem? found)) s.wire h.inv
    refine ⟨fun t' m => ?_, next.2⟩
    rcases List.mem_or_eq_of_mem_set m with old | rfl
    · exact h.tasks t' old
    · exact next.1

theorem Keeps.move (keeps : c.Keeps built inv) {s : Traffic σ} (h : s.Holds built inv)
    (m : Move) : (c.move s m).Holds built inv := by
  cases m with
  | step i => exact keeps.advance h i
  | send requests =>
    refine ⟨fun t member => ?_, h.inv⟩
    rcases List.mem_append.mp member with old | new
    · exact h.tasks t old
    · obtain ⟨q, _, rfl⟩ := List.mem_map.mp new
      intro p none
      cases none

theorem Keeps.play (keeps : c.Keeps built inv) (moves : List Move) {s : Traffic σ}
    (h : s.Holds built inv) : (c.play s moves).Holds built inv := by
  induction moves generalizing s with
  | nil => exact h
  | cons m moves ih => exact ih (keeps.move h m)

theorem Traffic.holds_start (h : inv w []) : Traffic.Holds built inv ⟨[], w, []⟩ :=
  ⟨List.forall_mem_nil _, h⟩

end Client

end RequestTrail
