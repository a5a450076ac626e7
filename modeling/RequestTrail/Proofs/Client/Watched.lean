import RequestTrail.Proofs.Client.Simulation

/-! A watched client keeps a list of all runs of its hooks and its transport beside the state that these
share. None of them sees the list, so the client does what it does unwatched. The list tells what the
transport has been handed, whatever the transport makes of it. -/
namespace RequestTrail

open Http

variable {σ : Type}

/-- One run of a hook or of the transport, with the request that it was run on. -/
inductive Run where
  | initializer (request : Request)
  | interceptor (request : Request)
  | transport (attempt : Nat) (request : Request)

def Run.handed? : Run → Option Request
  | .transport _ q => some q
  | _ => none

/-- What the transport was handed in these runs. -/
def handed (runs : List Run) : List Request := runs.filterMap Run.handed?

@[simp] theorem handed_append (runs more : List Run) : handed (runs ++ more) = handed runs ++ handed more :=
  List.filterMap_append

/-- The world with a list of runs beside what hooks and transport share. -/
def World.watched (w : World σ) (runs : List Run) : World (σ × List Run) :=
  ⟨w.histories, (w.own, runs)⟩

def World.unwatched (w : World (σ × List Run)) : World σ := ⟨w.histories, w.own.1⟩

@[simp] theorem World.unwatched_watched (w : World σ) (runs : List Run) :
    (w.watched runs).unwatched = w := rfl

@[simp] theorem World.watched_own (w : World σ) (runs : List Run) :
    (w.watched runs).own = (w.own, runs) := rfl

theorem World.watched_unwatched (w : World (σ × List Run)) : w.unwatched.watched w.own.2 = w := rfl

def Interceptor.watched (i : Interceptor σ) : Interceptor (σ × List Run) := fun q w =>
  let r := i q w.unwatched
  ⟨r.verdict, r.subject, r.world.watched (w.own.2 ++ [.interceptor q])⟩

def Pending.watched (p : Pending σ) : Pending (σ × List Run) :=
  ⟨p.request, p.interceptor.map Interceptor.watched⟩

/-- A client runs its initializer on requests that have no interceptor yet. -/
def Initializer.watched (d : Initializer σ) : Initializer (σ × List Run) := fun p w =>
  let r := d ⟨p.request, none⟩ w.unwatched
  ⟨r.verdict, r.subject.watched, r.world.watched (w.own.2 ++ [.initializer p.request])⟩

def Transport.watched (transport : Transport σ) : Transport (σ × List Run) := fun n q own =>
  let r := transport n q own.1
  (r.1, (r.2, own.2 ++ [.transport n q]))

/-- What attempt `n` runs when it begins in the world: the interceptor on the request as it is pending,
and the transport on what is handed over. -/
def Pending.runs (p : Pending σ) (n : Nat) (w : World σ) : List Run :=
  (p.interceptor.map fun _ => .interceptor p.request).toList ++
    ((p.handed? w).map (.transport n)).toList

theorem Pending.handed_runs (p : Pending σ) (n : Nat) (w : World σ) :
    handed (p.runs n w) = (p.handed? w).toList := by
  have interceptor : handed (p.interceptor.map fun _ => Run.interceptor p.request).toList = [] := by
    cases p.interceptor <;> rfl
  have transport : handed ((p.handed? w).map (Run.transport n)).toList = (p.handed? w).toList := by
    cases p.handed? w <;> rfl
  rw [runs, handed_append, interceptor, transport, List.nil_append]

theorem Pending.prepare_watched (p : Pending σ) (w : World σ) (runs : List Run) :
    p.watched.prepare (w.watched runs) =
      ⟨(p.prepare w).verdict, (p.prepare w).subject, (p.prepare w).world.watched
        (runs ++ (p.interceptor.map fun _ => .interceptor p.request).toList)⟩ := by
  cases installed : p.interceptor with
  | none => simp [prepare, Pending.watched, installed, Hook.idle]
  | some i => simp [prepare, Pending.watched, installed, Interceptor.watched]

theorem Pending.handed?_watched (p : Pending σ) (w : World σ) (runs : List Run) :
    p.watched.handed? (w.watched runs) = p.handed? w := by
  rw [handed?, prepare_watched, handed?]

namespace Client

variable {c : Client σ} {built : Pending σ → Prop} {inv : World σ → List Request → Prop}

def watched (c : Client σ) : Client (σ × List Run) where
  initializer := c.initializer.watched
  transport := c.transport.watched
  retries := c.retries
  delay := c.delay

/-- An attempt of a watched client comes to the same, and adds its runs to the list. -/
theorem attempt_watched (c : Client σ) (p : Pending σ) (n : Nat) (w : World σ) (runs : List Run) :
    c.watched.attempt p.watched n (w.watched runs) =
      ((c.attempt p n w).1, (c.attempt p n w).2.watched (runs ++ p.runs n w)) := by
  have prepared := p.prepare_watched w runs
  cases verdict : (p.prepare w).verdict with
  | error e =>
    have failed : (p.watched.prepare (w.watched runs)).verdict = .error e := by
      rw [prepared, verdict]
    simp [attempt_of_error n verdict, attempt_of_error n failed, prepared, Pending.runs,
      Pending.handed?_of_error verdict]
  | ok _ =>
    have passed : (p.watched.prepare (w.watched runs)).verdict = .ok () := by
      rw [prepared, verdict]
    rw [attempt_of_ok n passed, prepared, attempt_of_ok n verdict, Pending.runs,
      Pending.handed?_of_ok verdict, ← List.append_assoc]
    rfl

theorem outcome_watched (c : Client σ) (p : Pending σ) (n : Nat) (w : World σ) (runs : List Run) :
    c.watched.outcome p.watched n (w.watched runs) =
      ((c.outcome p n w).1, (c.outcome p n w).2.watched (runs ++ p.runs n w)) := by
  rw [outcome, attempt_watched, outcome]

/-- Watching changes nothing but the list. -/
theorem simulates_watched (c : Client σ) :
    c.Simulates c.watched (fun p p' => p' = p.watched) (fun w x => x.unwatched = w) where
  retries := rfl
  delay := rfl
  starts q w x same := by
    subst same
    exact ⟨rfl, rfl⟩
  builds {q w x} same _ := by
    subst same
    rfl
  hands {p p' w x} pending same := by
    subst pending same
    exact p.handed?_watched x.unwatched x.own.2
  attempt {p p'} n {w x} pending same := by
    subst pending same
    have run := c.attempt_watched p n x.unwatched x.own.2
    rw [World.watched_unwatched] at run
    rw [run]
    exact ⟨rfl, rfl⟩

/-- What a client keeps it keeps watched, and what its transport is handed is what stands on the wire. -/
theorem Keeps.watched (keeps : c.Keeps built inv) (before : List Request) :
    c.watched.Keeps (fun p' => ∃ p : Pending σ, p' = p.watched ∧ built p) fun x wire =>
      handed x.own.2 = before ++ wire ∧ inv x.unwatched wire where
  starts {q x wire} h := by
    refine ⟨?_, keeps.starts h.2⟩
    calc handed (x.own.2 ++ [.initializer q])
      _ = handed x.own.2 := by rw [handed_append]; exact List.append_nil _
      _ = before ++ wire := h.1
  builds passed := ⟨_, rfl, keeps.builds passed⟩
  attempt {p' n x wire} built h := by
    obtain ⟨p, rfl, built⟩ := built
    have run := c.attempt_watched p n x.unwatched x.own.2
    have same := p.handed?_watched x.unwatched x.own.2
    rw [World.watched_unwatched] at run same
    rw [run, same]
    refine ⟨?_, keeps.attempt built h.2⟩
    calc handed (x.own.2 ++ p.runs n x.unwatched)
      _ = handed x.own.2 ++ (p.handed? x.unwatched).toList := by rw [handed_append, p.handed_runs]
      _ = before ++ (wire ++ (p.handed? x.unwatched).toList) := by rw [h.1, List.append_assoc]

end Client

end RequestTrail
