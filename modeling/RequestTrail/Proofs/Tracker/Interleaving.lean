import Mathlib.Data.Fintype.EquivFin
import RequestTrail.Proofs.Client.Interleaving
import RequestTrail.Proofs.Tracker.Log

/-! The log of requests that are sent side by side. Whatever the order of their steps, it is made of the
entries that sending each of them alone would add, each request's in their order. -/
namespace RequestTrail

open Http Client

variable {σ τ : Type} {t : Tracker σ} {c : Client σ} {cells : Cells σ τ} {plan : Plan τ}
  {answer : Nat → Request → Except Fault Response}

/-- Hooks that keep no state at all share none. -/
theorem Initializer.unshared_of_stateless {d : Initializer σ}
    {plan : Request → Except Fault (Except Fault Request)}
    (verdict : ∀ q w, (d ⟨q, none⟩ w).verdict = (plan q).map fun _ => ())
    (result : ∀ {q r}, plan q = .ok r → ∀ w x, ((d ⟨q, none⟩ w).subject.prepare x).result = r) :
    d.Unshared ⟨Nat, fun _ _ => (), fun _ _ => True⟩
      fun q => (plan q).map fun r => (fun _ => (r, ()), ()) where
  verdict q w := by
    rw [verdict]
    cases plan q <;> rfl
  keeps _ _ _ _ := ⟨trivial, rfl⟩
  opens := by
    intro q act s planned w used _
    cases outcome : plan q with
    | error e =>
      rw [outcome] at planned
      cases planned
    | ok r =>
      rw [outcome] at planned
      cases planned
      obtain ⟨k, free⟩ := Infinite.exists_notMem_finset (List.toFinset (α := Nat) used)
      exact ⟨k, by simpa using free, trivial, rfl, fun x _ => result outcome w x,
        fun _ _ => ⟨trivial, rfl⟩, fun _ _ _ _ _ => ⟨trivial, rfl⟩⟩

/-- Recording takes no part in what a private interceptor does. -/
theorem Pending.Private.tracked {p : Pending σ} {k : cells.Place} {act : Act τ}
    (acts : p.Private cells k act) (key : Nat) : (p.tracked key).Private cells k act := by
  have same (w : World σ) : ((p.tracked key).prepare w).result = (p.prepare w).result ∧
      ((p.tracked key).prepare w).world.own = (p.prepare w).world.own := by
    cases verdict : (p.prepare w).verdict with
    | error e => rw [prepare_tracked_of_error key verdict]; exact ⟨rfl, rfl⟩
    | ok _ =>
      rw [prepare_tracked_of_ok key verdict]
      exact ⟨by simp [Ran.result, verdict, Except.map], rfl⟩
  refine ⟨fun w live => ?_, fun w live => ?_, fun w live => ?_⟩
  · rw [(same w).1]
    exact acts.result w live
  · rw [(same w).2]
    exact acts.state w live
  · rw [(same w).2]
    exact acts.others w live

namespace Tracker

theorem unshared (hooks : t.inner.Unshared cells plan) : t.toInitializer.Unshared cells plan := by
  have same (q : Request) (w : World σ) :
      (t.toInitializer ⟨q, none⟩ w).verdict = (t.inner ⟨q, none⟩ w).verdict ∧
        (t.toInitializer ⟨q, none⟩ w).world = (t.inner ⟨q, none⟩ w).world := by
    cases verdict : (t.inner ⟨q, none⟩ w).verdict with
    | error e => rw [toInitializer_of_error verdict]; exact ⟨verdict, rfl⟩
    | ok _ => rw [toInitializer_of_ok verdict]; exact ⟨rfl, rfl⟩
  refine ⟨fun q w => ?_, fun q w => ?_, fun {q act s} planned w used inUse => ?_⟩
  · rw [(same q w).1]
    exact hooks.verdict q w
  · rw [(same q w).2]
    exact hooks.keeps q w
  · obtain ⟨k, free, opened, starts, acts⟩ := hooks.opens planned w used inUse
    have passed : (t.inner ⟨q, none⟩ w).verdict = .ok () := by
      rw [hooks.verdict, planned]
      rfl
    refine ⟨k, free, ?_⟩
    rw [toInitializer_of_ok passed]
    exact ⟨opened, starts, acts.tracked t.key⟩

/-- Without a delegate the requests are sent as they are. -/
theorem bare_unshared (bare : t.delegate = none) :
    t.inner.Unshared ⟨Nat, fun _ _ => (), fun _ _ => True⟩
      fun q => .ok (fun _ => (.ok q, ()), ()) := by
  have idle : t.inner = Hook.idle := by
    rw [inner, bare]
    rfl
  rw [idle]
  apply @Initializer.unshared_of_stateless σ Hook.idle fun q => .ok (.ok q)
  · intro q w
    rfl
  · rintro q r ⟨⟩ w x
    rfl

/-- What each step of a schedule adds to the history, with the task of the step. -/
def entries (t : Tracker σ) (c : Client σ) (s : Traffic σ) : List Nat → List (Nat × Record)
  | [] => []
  | i :: schedule =>
    ((t.history (c.advance s i).world).records.drop (t.history s.world).size).map (i, ·) ++
      t.entries c (c.advance s i) schedule

/-- A step adds to the history what it hands over. -/
theorem records_advance (installed : c.initializer = t.toInitializer)
    (apart : t.inner.Leaves fun w => w.histories t.key) {s : Traffic σ}
    (built : ∀ task ∈ s.tasks, ∀ p ∈ task.pending?, t.Installed p) (i : Nat) :
    (t.history (c.advance s i).world).records =
        (t.history s.world).records ++ (handedBy s i).map Record.ofRequest ∧
      ∀ task ∈ (c.advance s i).tasks, ∀ p ∈ task.pending?, t.Installed p := by
  have keeps := keeps_records installed apart (t.history s.world).records
  have start : Traffic.Holds t.Installed (fun w wire => (t.history w).records =
      (t.history s.world).records ++ wire.map Record.ofRequest) ⟨s.tasks, s.world, []⟩ :=
    ⟨built, by simp⟩
  have next := keeps.advance start i
  cases found : s.tasks[i]? with
  | none => simpa [advance, found, handedBy] using And.intro next.inv next.tasks
  | some task => simpa [advance, found, handedBy] using And.intro next.inv next.tasks

/-- The entries of a schedule are the records of what it hands over, and all that it adds. -/
theorem entries_eq (installed : c.initializer = t.toInitializer)
    (apart : t.inner.Leaves fun w => w.histories t.key) (schedule : List Nat) {s : Traffic σ}
    (built : ∀ task ∈ s.tasks, ∀ p ∈ task.pending?, t.Installed p) :
    t.entries c s schedule = (c.handovers s schedule).map (Prod.map id Record.ofRequest) ∧
      (t.history (c.play s (schedule.map .step)).world).records =
        (t.history s.world).records ++ (t.entries c s schedule).map (·.2) := by
  induction schedule generalizing s with
  | nil => exact ⟨rfl, (List.append_nil _).symm⟩
  | cons i schedule ih =>
    obtain ⟨added, still⟩ := records_advance installed apart built i
    obtain ⟨named, whole⟩ := ih still
    have first : (t.history (c.advance s i).world).records.drop (t.history s.world).size =
        (handedBy s i).map Record.ofRequest := by
      rw [added, History.size, List.drop_left]
    refine ⟨?_, ?_⟩
    · rw [entries, handovers, named, first]
      simp [Function.comp_def]
    · calc (t.history (c.play s ((i :: schedule).map .step)).world).records
        _ = (t.history (c.advance s i).world).records ++
              (t.entries c (c.advance s i) schedule).map (·.2) := whole
        _ = (t.history s.world).records ++ (t.entries c s (i :: schedule)).map (·.2) := by
          rw [added, entries, first]
          simp [Function.comp_def]

theorem share_map {α β : Type} (f : α → β) (j : Nat) (log : List (Nat × α)) :
    share j (log.map (Prod.map id f)) = (share j log).map f := by
  simp [share, List.filter_map, Function.comp_def]

/-- What sending a request alone adds to the history is what is handed over for it alone. -/
theorem records_send_alone (installed : c.initializer = t.toInitializer)
    (apart : t.inner.Leaves fun w => w.histories t.key) (hooks : t.inner.Unshared cells plan)
    (steady : c.transport.Steady cells answer) (q : Request) (w : World σ) :
    (c.send q w).1 = (alone c.retries answer plan q).1 ∧
      (t.history (c.send q w).2).records =
        (t.history w).records ++ (alone c.retries answer plan q).2.map Record.ofRequest := by
  have unshared : c.initializer.Unshared cells plan := installed ▸ t.unshared hooks
  obtain ⟨schedule, ended, same⟩ := exists_schedule_send unshared steady q w
  obtain ⟨named, whole⟩ := entries_eq installed apart schedule (s := opening [q] w)
    (by simp [opening, Task.pending?])
  rw [same, ← ended, whole, named]
  simp [opening, Function.comp_def]

/-- Under every schedule, the history grows by entries of the requests only. What the entries of one
request are and what it ends in is as if it were sent alone, in any world. Every schedule can be gone
on with until all requests have ended, and sending them side by side is such a schedule. -/
theorem entries_eq_alone (installed : c.initializer = t.toInitializer)
    (apart : ∀ d ∈ t.delegate, d.Leaves fun w => w.histories t.key)
    (hooks : t.inner.Unshared cells plan) (steady : c.transport.Steady cells answer) (w : World σ)
    (qs : List Request) (schedule : List Nat) :
    let s := c.play (opening qs w) (schedule.map .step)
    let log := t.entries c (opening qs w) schedule
    (t.history s.world).records = (t.history w).records ++ log.map (·.2) ∧
      (∀ entry ∈ log, entry.1 < qs.length) ∧
      (∀ j q, qs[j]? = some q → ∀ x, ∃ own,
        (t.history (c.send q x).2).records = (t.history x).records ++ own ∧
          share j log <+: own ∧
          ∀ result, s.tasks[j]? = some (.finished result) →
            result = (c.send q x).1 ∧ share j log = own) ∧
      (∃ more : List Nat, ∀ task ∈ (c.play s (more.map .step)).tasks, task.isFinished = true) ∧
      ∃ whole : List Nat,
        let s' := c.play (opening qs w) (whole.map .step)
        (∀ task ∈ s'.tasks, task.isFinished = true) ∧
          c.sendAll qs w = (s'.tasks.filterMap Task.result?, s'.world) ∧
          (c.sendAll qs w).1 = qs.map fun q => (c.send q w).1 := by
  intro s log
  have unshared : c.initializer.Unshared cells plan := installed ▸ t.unshared hooks
  have sentAlone := records_send_alone installed (inner_leaves apart) hooks steady
  have start := interleaves_opening c cells plan answer qs w
  obtain ⟨named, grown⟩ := entries_eq installed (inner_leaves apart) schedule
    (s := opening qs w) (by simp [opening, Task.pending?])
  obtain ⟨place, h⟩ := start.play unshared steady schedule
  have shares (j : Nat) : share j log = (share j (c.handovers (opening qs w) schedule)).map
      Record.ofRequest := by
    rw [← share_map, ← named]
  refine ⟨grown, fun entry m => ?_, fun j q given x => ?_, ?_, ?_⟩
  · rw [show log = _ from named] at m
    obtain ⟨handed, known, rfl⟩ := List.mem_map.mp m
    exact h.named handed known
  · obtain ⟨result, records⟩ := sentAlone q x
    refine ⟨_, records, ?_, fun r done => ?_⟩
    · rw [shares]
      exact (h.share_prefix given).map Record.ofRequest
    · have ended : alone c.retries answer plan q = (r, _) := h.stands given done
      rw [shares, result, ended]
      exact ⟨rfl, rfl⟩
  · obtain ⟨more, tasks, _⟩ := exists_schedule_finish c s
    exact ⟨more, tasks ▸ isFinished_of_mem_finish c _ _⟩
  · obtain ⟨whole, tasks, world⟩ := exists_schedule_finish c (opening qs w)
    obtain ⟨_, h⟩ := start.play unshared steady whole
    have done := tasks ▸ isFinished_of_mem_finish c (qs.map .queued) w
    have same : c.sendAll qs w = (_, _) := Prod.ext
      (congrArg (List.filterMap Task.result?) tasks.symm) world.symm
    refine ⟨whole, done, same, ?_⟩
    rw [same, h.tasks_eq done, List.filterMap_map]
    simp [Task.result?, Function.comp_def, sentAlone]

/-- Two requests with a failed hook, a lost attempt and an answer each, in turns that do not keep their
order. -/
theorem entries_eq_alone_unready :
    let t : Tracker Script.Stage := ⟨0, some Script.unready⟩
    let c : Client Script.Stage :=
      ⟨t.toInitializer, fun n q s => (⟨Script.losesSecond n q, 0⟩, s), 3, .zero⟩
    let q (host : String) : Request := { method := "GET", uri := .authorityOnly host.toList }
    let qs := [q "first", q "second"]
    let schedule := [0, 1, 1, 1, 0, 1, 1, 0, 0, 0, 1, 1, 0, 0]
    let s := c.play (opening qs Script.opening) (schedule.map .step)
    let log := t.entries c (opening qs Script.opening) schedule
    log.map (fun entry => (entry.1, entry.2.uri)) =
        [(1, "second"), (0, "first"), (1, "second"), (0, "first")] ∧
      s.tasks.all Task.isFinished = true ∧
      (t.history s.world).records = (t.history Script.opening).records ++ log.map (·.2) ∧
      ∀ j q, qs[j]? = some q → ∀ x, ∃ own,
        (t.history (c.send q x).2).records = (t.history x).records ++ own ∧
          share j log <+: own ∧
          ∀ result, s.tasks[j]? = some (.finished result) →
            result = (c.send q x).1 ∧ share j log = own := by
  intro t c q qs schedule s log
  have apart : ∀ d ∈ t.delegate, d.Leaves fun w => w.histories t.key := by
    intro d given
    obtain rfl := Option.some.inj given
    exact (Script.performOnPending_unaware _ _ _).leaves
  have steady : c.transport.Steady Script.counterCells Script.losesSecond :=
    ⟨fun _ _ _ => rfl, fun _ _ _ _ live => ⟨live, rfl⟩⟩
  have hooks : t.inner.Unshared Script.counterCells _ := Script.intercept_unshared 1 _
  have installed : c.initializer = t.toInitializer := rfl
  have all := entries_eq_alone installed apart hooks steady Script.opening qs schedule
  exact ⟨by decide +kernel, by decide +kernel, all.1, all.2.2.1⟩

end Tracker

end RequestTrail
