import Mathlib.Data.List.DropRight
import RequestTrail.Proofs.Client.Watched
import RequestTrail.Tracker

/-! Sessions with a tracker and the client that it is installed in. Requests are sent and waited for, or
their tasks are stepped in any order. In between the tracker is asked and reset. -/
namespace RequestTrail.Tracker

open Http Client

variable {σ : Type} {t : Tracker σ} {c : Client σ} {built : Pending σ → Prop}
  {inv : World σ → List Request → Prop}

/-- Tasks in the order in which they were started, and the world they share. -/
structure Session (σ : Type) where
  tasks : List (Client.Task σ)
  world : World σ

inductive Call where
  | move (m : Move)
  | sendOut (sending : Sending)
  | reset
  | query (q : Query)

def Call.isReset : Call → Bool
  | .reset => true
  | _ => false

theorem Call.eq_reset : ∀ {call : Call}, call.isReset = true → call = .reset
  | .reset, _ => rfl

def Call.isQuery : Call → Bool
  | .query _ => true
  | _ => false

/-- Performs a call. Only a query is answered at once, and requests that are waited for are finished
tasks afterwards. -/
def perform (t : Tracker σ) (c : Client σ) (s : Session σ) : Call → Option Reading × Session σ
  | .move m =>
    -- the wire of the move is dropped: a session has no account of its own of what is handed over
    let moved := c.move ⟨s.tasks, s.world, []⟩ m
    (none, ⟨moved.tasks, moved.world⟩)
  | .sendOut sending =>
    let (results, world) := c.sendOut s.world sending
    (none, ⟨s.tasks ++ results.map .finished, world⟩)
  | .reset => (none, { s with world := t.reset s.world })
  | .query q =>
    let (reading, world) := t.ask s.world q
    (some reading, { s with world })

def performAll (t : Tracker σ) (c : Client σ) (s : Session σ) (calls : List Call) : Session σ :=
  calls.foldl (fun s call => (t.perform c s call).2) s

/-- The calls up to the last reset. -/
def untilReset (calls : List Call) : List Call := calls.rdropWhile (!·.isReset)

theorem performAll_concat (t : Tracker σ) (c : Client σ) (s : Session σ) (calls : List Call)
    (call : Call) : t.performAll c s (calls ++ [call]) =
      (t.perform c (t.performAll c s calls) call).2 :=
  List.foldl_append

theorem untilReset_reset (calls : List Call) : untilReset (calls ++ [.reset]) = calls ++ [.reset] :=
  List.rdropWhile_concat_neg _ _ _ (by simp [Call.isReset])

theorem untilReset_concat (calls : List Call) {call : Call} (goesOn : call.isReset = false) :
    untilReset (calls ++ [call]) = untilReset calls :=
  List.rdropWhile_concat_pos _ _ _ (by simp [goesOn])

theorem ask_world (t : Tracker σ) (w : World σ) (q : Query) : (t.ask w q).2 = w := by
  cases q <;> rfl

theorem perform_query (t : Tracker σ) (c : Client σ) (s : Session σ) (q : Query) :
    t.perform c s (.query q) = (some (t.ask s.world q).1, s) := by
  simp [perform, ask_world]

theorem performAll_filter (t : Tracker σ) (c : Client σ) (s : Session σ) (calls : List Call) :
    t.performAll c s (calls.filter (!·.isQuery)) = t.performAll c s calls := by
  induction calls generalizing s with
  | nil => rfl
  | cons call calls ih =>
    cases call with
    | query q =>
      have unchanged : t.performAll c s (.query q :: calls) = t.performAll c s calls := by
        rw [performAll, List.foldl_cons, perform_query]
        rfl
      rw [unchanged]
      exact ih s
    | move m => exact ih _
    | sendOut sending => exact ih _
    | reset => exact ih _

/-- A step of a task that is ready is an attempt. -/
theorem world_perform_ready (t : Tracker σ) (c : Client σ) {s : Session σ} {i n : Nat} {p : Pending σ}
    (found : s.tasks[i]? = some (.ready p n)) :
    (t.perform c s (.move (.step i))).2.world = (c.attempt p n s.world).2 := by
  simp [perform, Client.move, advance, found, Client.step]

/-- Every request on its way is built as said. -/
def Session.Ready (built : Pending σ → Prop) (s : Session σ) : Prop :=
  ∀ task ∈ s.tasks, ∀ p ∈ task.pending?, built p

theorem Session.ready_nil (w : World σ) : Session.Ready built ⟨[], w⟩ := List.forall_mem_nil _

/-- What a client keeps is kept by every call that does not reset the tracker. -/
theorem perform_keeps (keeps : c.Keeps built inv) {s : Session σ} (ready : s.Ready built)
    (h : inv s.world []) (call : Call) :
    (t.perform c s call).2.Ready built ∧
      (call.isReset = false → ∃ wire, inv (t.perform c s call).2.world wire) := by
  have start : Traffic.Holds built inv ⟨s.tasks, s.world, []⟩ := ⟨ready, h⟩
  cases call with
  | move m =>
    have moved := keeps.move start m
    exact ⟨moved.tasks, fun _ => ⟨_, moved.inv⟩⟩
  | sendOut sending =>
    refine ⟨fun task m p pending => ?_, fun _ => ?_⟩
    · rcases List.mem_append.mp m with old | new
      · exact ready task old p pending
      · obtain ⟨result, _, rfl⟩ := List.mem_map.mp new
        cases pending
    · obtain ⟨moves, run⟩ := exists_play_sendOut c sending ⟨s.tasks, s.world, []⟩
      have sent := (keeps.play moves start).inv
      rw [run] at sent
      exact ⟨_, sent⟩
  | reset => exact ⟨ready, fun goesOn => by cases goesOn⟩
  | query q =>
    rw [perform_query]
    exact ⟨ready, fun _ => ⟨[], h⟩⟩

theorem ready_performAll (keeps : c.Keeps built fun _ _ => True) {s : Session σ}
    (ready : s.Ready built) (calls : List Call) : (t.performAll c s calls).Ready built := by
  induction calls generalizing s with
  | nil => exact ready
  | cons call calls ih => exact ih (perform_keeps keeps ready trivial call).1

/-- The tracker as it stands over watched hooks. -/
def watched (t : Tracker σ) : Tracker (σ × List Run) :=
  ⟨t.key, t.delegate.map Initializer.watched⟩

/-- The session stands where that of the watched client does. -/
structure Session.WatchedBy (s : Session σ) (o : Session (σ × List Run)) : Prop where
  tasks : List.Forall₂ (Task.Matches fun (p : Pending σ) p' => p' = p.watched) s.tasks o.tasks
  world : o.world.unwatched = s.world

theorem Session.WatchedBy.ready {s : Session σ} {o : Session (σ × List Run)} (h : s.WatchedBy o)
    {i n : Nat} {p : Pending σ} (found : s.tasks[i]? = some (.ready p n)) :
    o.tasks[i]? = some (.ready p.watched n) := by
  rcases Task.Matches.getElem? h.tasks i with ⟨ends, _⟩ | ⟨task, watching, here, there, m⟩
  · rw [found] at ends
    cases ends
  · rw [found] at here
    obtain rfl := Option.some.inj here
    cases m with
    | ready pending => rw [there, pending]

@[simp] theorem history_watched (t : Tracker σ) (w : World (σ × List Run)) :
    t.watched.history w = t.history w.unwatched := rfl

theorem isSome_watched (t : Tracker σ) : t.watched.delegate.isSome = t.delegate.isSome := by
  simp [watched]

theorem describe_watched (t : Tracker σ) (w : World (σ × List Run)) :
    t.watched.describe w = t.describe w.unwatched := by
  unfold describe
  rw [isSome_watched, history_watched]

theorem ask_watched (t : Tracker σ) (w : World (σ × List Run)) (q : Query) :
    (t.watched.ask w q).1 = (t.ask w.unwatched q).1 := by
  cases q with
  | description => exact congrArg Reading.text (describe_watched t w)
  | _ => rfl

theorem perform_watched (t : Tracker σ) (c : Client σ) {s : Session σ}
    {o : Session (σ × List Run)} (h : s.WatchedBy o) (call : Call) :
    (t.watched.perform c.watched o call).1 = (t.perform c s call).1 ∧
      (t.perform c s call).2.WatchedBy (t.watched.perform c.watched o call).2 := by
  have sim := simulates_watched c
  cases call with
  | move m =>
    have moved : Traffic.Matches _ _ (c.move ⟨s.tasks, s.world, []⟩ m)
        (c.watched.move ⟨o.tasks, o.world, []⟩ m) := sim.move ⟨h.tasks, h.world, rfl⟩ m
    exact ⟨rfl, moved.tasks, moved.world⟩
  | sendOut sending =>
    obtain ⟨results, after⟩ := sim.sendOut sending h.world
    have finished : List.Forall₂ (Task.Matches fun (p : Pending σ) p' => p' = p.watched)
        ((c.sendOut s.world sending).1.map .finished)
        ((c.watched.sendOut o.world sending).1.map .finished) := by
      rw [results]
      exact Task.Matches.map .finished _
    exact ⟨rfl, List.rel_append h.tasks finished, after⟩
  | reset => exact ⟨rfl, h.tasks, congrArg t.reset h.world⟩
  | query q =>
    rw [perform_query, perform_query, ask_watched, h.world]
    exact ⟨rfl, h⟩

theorem performAll_watched (t : Tracker σ) (c : Client σ) {s : Session σ}
    {o : Session (σ × List Run)} (h : s.WatchedBy o) (calls : List Call) :
    (t.performAll c s calls).WatchedBy (t.watched.performAll c.watched o calls) := by
  induction calls generalizing s o with
  | nil => exact h
  | cons call calls ih => exact ih (perform_watched t c h call).2

/-- What an attempt hands over is what its transport is handed. -/
theorem handed_perform_ready (t : Tracker σ) (c : Client σ) {s : Session σ}
    {o : Session (σ × List Run)} (h : s.WatchedBy o) {i n : Nat} {p : Pending σ}
    (found : s.tasks[i]? = some (.ready p n)) :
    handed (t.watched.perform c.watched o (.move (.step i))).2.world.own.2 =
      handed o.world.own.2 ++ (p.handed? s.world).toList := by
  have run := c.attempt_watched p n o.world.unwatched o.world.own.2
  rw [World.watched_unwatched] at run
  rw [world_perform_ready t.watched c.watched (h.ready found), run, World.watched_own, handed_append,
    p.handed_runs, h.world]

end RequestTrail.Tracker
