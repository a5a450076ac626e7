import Mathlib.Data.List.Forall2
import RequestTrail.Proofs.Client.Schedule

/-! A client that does in its worlds what another does in worlds of another kind. It is enough that an
initializer run and an attempt come to the same. Then tasks that stand alike are stepped to tasks that
stand alike, in any order, and calls that are waited for have the same results. -/
namespace RequestTrail.Client

open Http

variable {σ τ : Type} {pendings : Pending σ → Pending τ → Prop} {worlds : World σ → World τ → Prop}

/-- The second client does to alike requests in alike worlds what the first does. -/
structure Simulates (c : Client σ) (d : Client τ) (pendings : Pending σ → Pending τ → Prop)
    (worlds : World σ → World τ → Prop) : Prop where
  retries : d.retries = c.retries
  delay : d.delay = c.delay
  starts : ∀ q {w x}, worlds w x →
    (d.initializer ⟨q, none⟩ x).verdict = (c.initializer ⟨q, none⟩ w).verdict ∧
      worlds (c.initializer ⟨q, none⟩ w).world (d.initializer ⟨q, none⟩ x).world
  builds : ∀ {q w x}, worlds w x → (c.initializer ⟨q, none⟩ w).verdict = .ok () →
    pendings (c.initializer ⟨q, none⟩ w).subject (d.initializer ⟨q, none⟩ x).subject
  hands : ∀ {p p' w x}, pendings p p' → worlds w x → p'.handed? x = p.handed? w
  attempt : ∀ {p p'} n {w x}, pendings p p' → worlds w x →
    (d.attempt p' n x).1 = (c.attempt p n w).1 ∧
      worlds (c.attempt p n w).2 (d.attempt p' n x).2

/-- The tasks stand at the same place, with alike requests. -/
inductive Task.Matches (pendings : Pending σ → Pending τ → Prop) : Task σ → Task τ → Prop where
  | queued (q : Request) : Matches pendings (.queued q) (.queued q)
  | ready {p : Pending σ} {p' : Pending τ} (alike : pendings p p') (n : Nat) :
    Matches pendings (.ready p n) (.ready p' n)
  | sent {p : Pending σ} {p' : Pending τ} (alike : pendings p p') (n : Nat) (answer : Answer) :
    Matches pendings (.sent p n answer) (.sent p' n answer)
  | resting {p : Pending σ} {p' : Pending τ} (alike : pendings p p') (n : Nat)
    (wait : Option Duration) : Matches pendings (.resting p n wait) (.resting p' n wait)
  | finished (result : Except Fault Response) : Matches pendings (.finished result) (.finished result)

namespace Task.Matches

variable {t : Task σ} {u : Task τ} {ts : List (Task σ)} {us : List (Task τ)}

theorem result? (m : t.Matches pendings u) : u.result? = t.result? := by
  cases m <;> rfl

theorem isSuspended (m : t.Matches pendings u) : u.isSuspended = t.isSuspended := by
  cases m <;> rfl

theorem map_result? (m : List.Forall₂ (Task.Matches pendings) ts us) :
    us.map Task.result? = ts.map Task.result? := by
  induction m with
  | nil => rfl
  | cons first _ ih => rw [List.map_cons, List.map_cons, first.result?, ih]

theorem results (m : List.Forall₂ (Task.Matches pendings) ts us) :
    us.filterMap Task.result? = ts.filterMap Task.result? := by
  simpa [List.filterMap_map] using congrArg (List.filterMap id) (map_result? m)

theorem all_isFinished (m : List.Forall₂ (Task.Matches pendings) ts us) :
    us.all Task.isFinished = ts.all Task.isFinished := by
  have same := congrArg (List.all · Option.isSome) (map_result? m)
  rwa [List.all_map, List.all_map] at same

theorem map {α : Type} {f : α → Task σ} {g : α → Task τ}
    (alike : ∀ a, (f a).Matches pendings (g a)) (as : List α) :
    List.Forall₂ (Task.Matches pendings) (as.map f) (as.map g) := by
  rw [List.forall₂_map_left_iff, List.forall₂_map_right_iff, List.forall₂_same]
  exact fun a _ => alike a

/-- At each place either both lists end or two tasks stand alike. -/
theorem getElem? (m : List.Forall₂ (Task.Matches pendings) ts us) (i : Nat) :
    ts[i]? = none ∧ us[i]? = none ∨
      ∃ t u, ts[i]? = some t ∧ us[i]? = some u ∧ t.Matches pendings u := by
  induction m generalizing i with
  | nil => exact .inl ⟨rfl, rfl⟩
  | cons first _ ih =>
    cases i with
    | zero => exact .inr ⟨_, _, rfl, rfl, first⟩
    | succ i => exact ih i

theorem set (m : List.Forall₂ (Task.Matches pendings) ts us) (next : t.Matches pendings u)
    (i : Nat) : List.Forall₂ (Task.Matches pendings) (ts.set i t) (us.set i u) := by
  induction m generalizing i with
  | nil => exact .nil
  | cons first rest ih =>
    cases i with
    | zero => exact .cons next rest
    | succ i => exact .cons first (ih i)

end Task.Matches

/-- The same places, alike worlds and the same requests handed over. -/
structure Traffic.Matches (pendings : Pending σ → Pending τ → Prop)
    (worlds : World σ → World τ → Prop) (s : Traffic σ) (s' : Traffic τ) : Prop where
  tasks : List.Forall₂ (Task.Matches pendings) s.tasks s'.tasks
  world : worlds s.world s'.world
  wire : s'.wire = s.wire

section Unfolding

variable {c : Client σ} {t : Task σ} {ts : List (Task σ)} {w : World σ}

theorem turn_of_waits (waits : (c.step t w).1.isSuspended = true) : c.turn t w = c.step t w := by
  rw [turn]
  exact if_pos waits

theorem turn_of_runs (runs : ¬(c.step t w).1.isSuspended = true) :
    c.turn t w = c.turn (c.step t w).1 (c.step t w).2 := by
  rw [turn]
  exact if_neg runs

theorem finish_of_done (done : ts.all Task.isFinished = true) : c.finish ts w = (ts, w) := by
  rw [finish, if_pos done]

theorem finish_of_unfinished (unfinished : ¬ts.all Task.isFinished = true) :
    c.finish ts w = c.finish (c.round ts w).1 (c.round ts w).2 := by
  rw [finish, if_neg unfinished]

end Unfolding

namespace Simulates

variable {c : Client σ} {d : Client τ} {t : Task σ} {u : Task τ} {ts : List (Task σ)}
  {us : List (Task τ)} {w : World σ} {x : World τ}

theorem settle (sim : c.Simulates d pendings worlds) {p : Pending σ} {p' : Pending τ}
    (alike : pendings p p') (n : Nat) (result : Except Fault Response) :
    (c.settle p n result).Matches pendings (d.settle p' n result) := by
  unfold Client.settle
  rw [sim.retries, sim.delay]
  split
  · split
    · exact .ready alike _
    · exact .resting alike n _
  · exact .finished result

theorem step (sim : c.Simulates d pendings worlds) (m : t.Matches pendings u)
    (alike : worlds w x) :
    (c.step t w).1.Matches pendings (d.step u x).1 ∧ worlds (c.step t w).2 (d.step u x).2 := by
  cases m with
  | queued q =>
    obtain ⟨verdicts, after⟩ := sim.starts q alike
    cases verdict : (c.initializer ⟨q, none⟩ w).verdict with
    | error e =>
      rw [verdict] at verdicts
      simpa [Client.step, verdict, verdicts] using And.intro (Task.Matches.finished _) after
    | ok _ =>
      rw [verdict] at verdicts
      simpa [Client.step, verdict, verdicts] using
        And.intro (Task.Matches.ready (sim.builds alike verdict) 1) after
  | ready pending n =>
    obtain ⟨answer, after⟩ := sim.attempt n pending alike
    refine ⟨?_, after⟩
    simp only [Client.step, answer]
    exact .sent pending n _
  | sent pending n answer =>
    obtain ⟨result, pauses⟩ := answer
    cases pauses with
    | zero => exact ⟨sim.settle pending n result, alike⟩
    | succ pauses => exact ⟨.sent pending n _, alike⟩
  | resting pending n wait => exact ⟨.ready pending (n + 1), alike⟩
  | finished result => exact ⟨.finished result, alike⟩

theorem handed? (sim : c.Simulates d pendings worlds) (m : t.Matches pendings u)
    (alike : worlds w x) : u.handed? x = t.handed? w := by
  cases m with
  | ready pending n => exact sim.hands pending alike
  | _ => rfl

theorem move (sim : c.Simulates d pendings worlds) {s : Traffic σ} {s' : Traffic τ}
    (h : s.Matches pendings worlds s') (m : Move) :
    (c.move s m).Matches pendings worlds (d.move s' m) := by
  cases m with
  | send requests =>
    exact ⟨List.rel_append h.tasks (Task.Matches.map .queued requests), h.world, h.wire⟩
  | step i =>
    rcases Task.Matches.getElem? h.tasks i with ⟨ends, ends'⟩ | ⟨t, u, found, found', m⟩
    · simpa only [Client.move, advance, ends, ends'] using h
    · obtain ⟨next, after⟩ := sim.step m h.world
      simp only [Client.move, advance, found, found']
      exact ⟨Task.Matches.set h.tasks next i, after, by rw [h.wire, sim.handed? m h.world]⟩

theorem play (sim : c.Simulates d pendings worlds) (moves : List Move) {s : Traffic σ}
    {s' : Traffic τ} (h : s.Matches pendings worlds s') :
    (c.play s moves).Matches pendings worlds (d.play s' moves) := by
  induction moves generalizing s s' with
  | nil => exact h
  | cons m moves ih => exact ih (sim.move h m)

theorem turn (sim : c.Simulates d pendings worlds) : ∀ u x, t.Matches pendings u → worlds w x →
    (c.turn t w).1.Matches pendings (d.turn u x).1 ∧ worlds (c.turn t w).2 (d.turn u x).2 := by
  -- along the turn of the first client; that both wait at the same steps comes from the tasks
  fun_induction Client.turn c t w with
  | case1 t w next waits =>
    intro u x m alike
    obtain ⟨m, alike⟩ := sim.step m alike
    rw [turn_of_waits (m.isSuspended.trans waits)]
    exact ⟨m, alike⟩
  | case2 t w next runs ih =>
    intro u x m alike
    obtain ⟨m, alike⟩ := sim.step m alike
    rw [turn_of_runs fun waits => runs (m.isSuspended ▸ waits)]
    exact ih _ _ m alike

theorem round (sim : c.Simulates d pendings worlds)
    (m : List.Forall₂ (Task.Matches pendings) ts us) (alike : worlds w x) :
    List.Forall₂ (Task.Matches pendings) (c.round ts w).1 (d.round us x).1 ∧
      worlds (c.round ts w).2 (d.round us x).2 := by
  induction m generalizing w x with
  | nil => exact ⟨.nil, alike⟩
  | cons first _ ih =>
    obtain ⟨first, between⟩ := sim.turn _ _ first alike
    obtain ⟨rest, after⟩ := ih between
    exact ⟨.cons first rest, after⟩

theorem finish (sim : c.Simulates d pendings worlds) :
    ∀ us x, List.Forall₂ (Task.Matches pendings) ts us → worlds w x →
      List.Forall₂ (Task.Matches pendings) (c.finish ts w).1 (d.finish us x).1 ∧
        worlds (c.finish ts w).2 (d.finish us x).2 := by
  fun_induction Client.finish c ts w with
  | case1 ts w done =>
    intro us x m alike
    rw [finish_of_done ((Task.Matches.all_isFinished m).trans done)]
    exact ⟨m, alike⟩
  | case2 ts w unfinished next ih =>
    intro us x m alike
    rw [finish_of_unfinished fun done => unfinished (Task.Matches.all_isFinished m ▸ done)]
    obtain ⟨m, alike⟩ := sim.round m alike
    exact ih _ _ m alike

theorem sendAll (sim : c.Simulates d pendings worlds) (qs : List Request) (alike : worlds w x) :
    (d.sendAll qs x).1 = (c.sendAll qs w).1 ∧ worlds (c.sendAll qs w).2 (d.sendAll qs x).2 := by
  obtain ⟨tasks, after⟩ := sim.finish _ _ (Task.Matches.map .queued qs) alike
  exact ⟨Task.Matches.results tasks, after⟩

theorem outcome (sim : c.Simulates d pendings worlds) {p : Pending σ} {p' : Pending τ}
    (pending : pendings p p') (n : Nat) (alike : worlds w x) :
    (d.outcome p' n x).1 = (c.outcome p n w).1 ∧
      worlds (c.outcome p n w).2 (d.outcome p' n x).2 := by
  obtain ⟨answer, after⟩ := sim.attempt n pending alike
  exact ⟨congrArg Answer.result answer, after⟩

theorem send (sim : c.Simulates d pendings worlds) (q : Request) (alike : worlds w x) :
    (d.send q x).1 = (c.send q w).1 ∧ worlds (c.send q w).2 (d.send q x).2 := by
  obtain ⟨verdicts, after⟩ := sim.starts q alike
  cases verdict : (c.initializer ⟨q, none⟩ w).verdict with
  | error e =>
    rw [verdict] at verdicts
    simpa [Client.send, verdict, verdicts] using after
  | ok _ =>
    rw [verdict] at verdicts
    have pending := sim.builds alike verdict
    simp only [Client.send, verdict, verdicts, Retry.run, sim.retries]
    exact Retry.attempts_related retryable c.retries 1
      (fun n _ _ alike => sim.outcome pending n alike) after

theorem sendOut (sim : c.Simulates d pendings worlds) (sending : Sending) (alike : worlds w x) :
    (d.sendOut x sending).1 = (c.sendOut w sending).1 ∧
      worlds (c.sendOut w sending).2 (d.sendOut x sending).2 := by
  cases sending with
  | alone q =>
    obtain ⟨result, after⟩ := sim.send q alike
    exact ⟨congrArg ([·]) result, after⟩
  | together qs => exact sim.sendAll qs alike

theorem sendOuts (sim : c.Simulates d pendings worlds) (sendings : List Sending)
    (alike : worlds w x) :
    (d.sendOuts sendings x).1 = (c.sendOuts sendings w).1 ∧
      worlds (c.sendOuts sendings w).2 (d.sendOuts sendings x).2 := by
  induction sendings generalizing w x with
  | nil => exact ⟨rfl, alike⟩
  | cons sending sendings ih =>
    obtain ⟨first, between⟩ := sim.sendOut sending alike
    obtain ⟨rest, after⟩ := ih between
    exact ⟨congrArg₂ List.cons first rest, after⟩

end Simulates

end RequestTrail.Client
