import RequestTrail.Proofs.Client.Traffic
import RequestTrail.Proofs.Retry

/-! Sending alone and sending side by side are runs of single steps: some schedule of the tasks leads
to where they end. -/
namespace RequestTrail.Client

open Http

variable {σ : Type} {c : Client σ} {ts us vs : List (Task σ)} {w x y : World σ}

/-- Some schedule leads from the tasks in one world to the tasks in the other. -/
def Schedules (c : Client σ) (ts : List (Task σ)) (w : World σ) (us : List (Task σ))
    (x : World σ) : Prop :=
  ∃ schedule : List Nat, ∀ wire, ∃ sent,
    c.play ⟨ts, w, wire⟩ (schedule.map .step) = ⟨us, x, wire ++ sent⟩

/-- The same traffic with other tasks before it. -/
def Traffic.behind (before : List (Task σ)) (s : Traffic σ) : Traffic σ :=
  { s with tasks := before ++ s.tasks }

theorem advance_behind (c : Client σ) (before : List (Task σ)) (s : Traffic σ) (i : Nat) :
    c.advance (s.behind before) (before.length + i) = (c.advance s i).behind before := by
  have shifted : (before ++ s.tasks)[before.length + i]? = s.tasks[i]? := by
    rw [List.getElem?_append_right (Nat.le_add_right _ _), Nat.add_sub_cancel_left]
  cases found : s.tasks[i]? with
  | none => simp [advance, Traffic.behind, shifted, found]
  | some t => simp [advance, Traffic.behind, shifted, found]

theorem play_behind (c : Client σ) (before : List (Task σ)) (schedule : List Nat)
    (s : Traffic σ) :
    c.play (s.behind before) (schedule.map fun i => .step (before.length + i)) =
      (c.play s (schedule.map .step)).behind before := by
  induction schedule generalizing s with
  | nil => rfl
  | cons i schedule ih =>
    have rest := ih (c.advance s i)
    rw [← advance_behind] at rest
    exact rest

namespace Schedules

theorem refl (c : Client σ) (ts : List (Task σ)) (w : World σ) : c.Schedules ts w ts w :=
  ⟨[], fun wire => ⟨[], by simp [play]⟩⟩

theorem trans (h : c.Schedules ts w us x) (g : c.Schedules us x vs y) :
    c.Schedules ts w vs y := by
  obtain ⟨first, h⟩ := h
  obtain ⟨second, g⟩ := g
  refine ⟨first ++ second, fun wire => ?_⟩
  obtain ⟨sent, h⟩ := h wire
  obtain ⟨more, g⟩ := g (wire ++ sent)
  exact ⟨sent ++ more, by rw [List.map_append, play_append, h, g, List.append_assoc]⟩

theorem step (c : Client σ) (before : List (Task σ)) (t : Task σ) (after : List (Task σ))
    (w : World σ) :
    c.Schedules (before ++ t :: after) w (before ++ (c.step t w).1 :: after) (c.step t w).2 := by
  refine ⟨[before.length], fun wire => ⟨(t.handed? w).toList, ?_⟩⟩
  simp [play, move, advance]

theorem turn (c : Client σ) (before : List (Task σ)) (t : Task σ) (after : List (Task σ))
    (w : World σ) :
    c.Schedules (before ++ t :: after) w (before ++ (c.turn t w).1 :: after) (c.turn t w).2 := by
  fun_induction Client.turn c t w with
  | case1 t w next waits => exact step c before t after w
  | case2 t w next runs ih => exact (step c before t after w).trans ih

theorem round (c : Client σ) (before ts : List (Task σ)) (w : World σ) :
    c.Schedules (before ++ ts) w (before ++ (c.round ts w).1) (c.round ts w).2 := by
  induction ts generalizing before w with
  | nil => exact refl c _ w
  | cons t ts ih =>
    have rest := ih (before ++ [(c.turn t w).1]) (c.turn t w).2
    rw [List.append_assoc, List.append_assoc] at rest
    exact (turn c before t ts w).trans rest

theorem finish (c : Client σ) (ts : List (Task σ)) (w : World σ) :
    c.Schedules ts w (c.finish ts w).1 (c.finish ts w).2 := by
  fun_induction Client.finish c ts w with
  | case1 ts w done => exact refl c ts w
  | case2 ts w unfinished next ih => exact (round c [] ts w).trans ih

/-- Answers are waited for and then settled. -/
theorem answered (c : Client σ) (p : Pending σ) (n : Nat) (result : Except Fault Response)
    (pauses : Nat) (w : World σ) :
    c.Schedules [.sent p n ⟨result, pauses⟩] w [c.settle p n result] w := by
  induction pauses with
  | zero => exact step c [] _ [] w
  | succ pauses ih => exact (step c [] _ [] w).trans ih

theorem attempted (c : Client σ) (p : Pending σ) (n : Nat) (w : World σ) :
    c.Schedules [.ready p n] w [c.settle p n (c.outcome p n w).1] (c.outcome p n w).2 :=
  (step c [] _ [] w).trans (answered c p n _ _ _)

theorem retried {p : Pending σ} {n : Nat} {result : Except Fault Response}
    (more : Retry.again retryable c.retries n result = true) (w : World σ) :
    c.Schedules [c.settle p n result] w [.ready p (n + 1)] w := by
  rw [settle, if_pos more]
  split
  · exact refl c _ w
  · exact step c [] _ [] w

theorem concluded {p : Pending σ} {n : Nat} {w : World σ}
    (final : Retry.again retryable c.retries n (c.outcome p n w).1 = false) :
    c.Schedules [.ready p n] w [.finished (c.outcome p n w).1] (c.outcome p n w).2 := by
  have settled : c.settle p n (c.outcome p n w).1 = .finished (c.outcome p n w).1 := by
    simp [settle, final]
  rw [← settled]
  exact attempted c p n w

theorem attempts {p : Pending σ} {n left : Nat} (count : n + left = c.retries + 1)
    (w : World σ) :
    c.Schedules [.ready p n] w
      [.finished (Retry.attempts retryable (c.outcome p) left n w).1]
      (Retry.attempts retryable (c.outcome p) left n w).2 := by
  induction left generalizing n w with
  | zero => exact concluded (Retry.again_of_lt (by omega))
  | succ left ih =>
    cases more : Retry.again retryable c.retries n (c.outcome p n w).1 with
    | false =>
      rw [Retry.attempts_of_final count more]
      exact concluded more
    | true =>
      rw [Retry.attempts_of_again more]
      exact (attempted c p n w).trans ((retried more _).trans (ih (by omega) _))

theorem send (c : Client σ) (q : Request) (w : World σ) :
    c.Schedules [.queued q] w [.finished (c.send q w).1] (c.send q w).2 := by
  have first := step c [] (.queued q) [] w
  cases verdict : (c.initializer ⟨q, none⟩ w).verdict with
  | error e => simpa [Client.step, Client.send, verdict] using first
  | ok _ =>
    simp only [Client.step, verdict, List.nil_append] at first
    simp only [Client.send, verdict]
    exact first.trans (attempts (Nat.add_comm 1 c.retries) _)

/-- Tasks that the schedule does not name stay as they are. -/
theorem frame (before : List (Task σ)) (h : c.Schedules ts w us x) :
    c.Schedules (before ++ ts) w (before ++ us) x := by
  obtain ⟨schedule, h⟩ := h
  refine ⟨schedule.map (before.length + ·), fun wire => ?_⟩
  obtain ⟨sent, h⟩ := h wire
  refine ⟨sent, ?_⟩
  rw [List.map_map]
  exact (play_behind c before schedule ⟨ts, w, wire⟩).trans (by rw [h, Traffic.behind])

end Schedules

/-- Sending alone is a run of one task, whatever else is on its way. -/
theorem play_send (c : Client σ) (q : Request) (s : Traffic σ) :
    ∃ schedule : List Nat, ∃ sent,
      c.play s (.send [q] :: schedule.map .step) =
        ⟨s.tasks ++ [.finished (c.send q s.world).1], (c.send q s.world).2, s.wire ++ sent⟩ := by
  obtain ⟨schedule, h⟩ := (Schedules.send c q s.world).frame s.tasks
  exact ⟨schedule, h s.wire⟩

/-- Sending side by side is a run of one task for each request. -/
theorem play_sendAll (c : Client σ) (qs : List Request) (s : Traffic σ) :
    ∃ schedule : List Nat, ∃ done sent,
      c.play s (.send qs :: schedule.map .step) =
        ⟨s.tasks ++ done, (c.sendAll qs s.world).2, s.wire ++ sent⟩ ∧
      done.filterMap Task.result? = (c.sendAll qs s.world).1 := by
  obtain ⟨schedule, h⟩ := (Schedules.finish c (qs.map .queued) s.world).frame s.tasks
  obtain ⟨sent, h⟩ := h s.wire
  exact ⟨schedule, _, sent, h, rfl⟩

/-- A call that is waited for. -/
inductive Sending where
  | alone (q : Request)
  | together (qs : List Request)

def sendOut (c : Client σ) (w : World σ) :
    Sending → List (Except Fault Response) × World σ
  | .alone q => ([(c.send q w).1], (c.send q w).2)
  | .together qs => c.sendAll qs w

/-- Calls that are waited for one after another, with the results of each. -/
def sendOuts (c : Client σ) : List Sending → World σ →
    List (List (Except Fault Response)) × World σ
  | [], w => ([], w)
  | sending :: more, w =>
    let first := c.sendOut w sending
    let rest := c.sendOuts more first.2
    (first.1 :: rest.1, rest.2)

theorem exists_play_sendOut (c : Client σ) (sending : Sending) (s : Traffic σ) :
    ∃ moves, (c.play s moves).world = (c.sendOut s.world sending).2 := by
  cases sending with
  | alone q =>
    obtain ⟨schedule, sent, run⟩ := play_send c q s
    exact ⟨_, by rw [run]; rfl⟩
  | together qs =>
    obtain ⟨schedule, done, sent, run, _⟩ := play_sendAll c qs s
    exact ⟨_, by rw [run]; rfl⟩

theorem exists_play_sendOuts (c : Client σ) (sendings : List Sending) (s : Traffic σ) :
    ∃ moves, (c.play s moves).world = (c.sendOuts sendings s.world).2 := by
  induction sendings generalizing s with
  | nil => exact ⟨[], rfl⟩
  | cons sending sendings ih =>
    obtain ⟨moves, here⟩ := exists_play_sendOut c sending s
    obtain ⟨more, rest⟩ := ih (c.play s moves)
    exact ⟨moves ++ more, by rw [play_append, rest, here]; rfl⟩

end RequestTrail.Client
