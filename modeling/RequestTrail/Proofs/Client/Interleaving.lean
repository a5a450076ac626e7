import Mathlib.Logic.Function.Basic
import RequestTrail.Proofs.Client.Unshared

/-! Requests side by side, each as if it were sent alone. Under every schedule each task stands where it
would stand alone after handing over its share of the wire, because the hooks of the tasks keep to
places apart. -/
namespace RequestTrail.Client

open Http

variable {σ τ α : Type} {c : Client σ} {cells : Cells σ τ} {plan : Plan τ}
  {answer : Nat → Request → Except Fault Response} {w : World σ} {qs : List Request}

/-- What one task has of a log in which every entry names its task. -/
def share (task : Nat) (log : List (Nat × α)) : List α :=
  (log.filter (·.1 = task)).map (·.2)

@[simp] theorem share_append (task : Nat) (log more : List (Nat × α)) :
    share task (log ++ more) = share task log ++ share task more := by
  simp [share]

theorem share_self (task : Nat) (entries : List α) :
    share task (entries.map (task, ·)) = entries := by
  simp [share, List.filter_map, Function.comp_def]

theorem share_of_ne {task other : Nat} (apart : other ≠ task) (entries : List α) :
    share task (entries.map (other, ·)) = [] := by
  simp [share, List.filter_map, Function.comp_def, apart]

/-- What the next step of a task hands over. -/
def handedBy (s : Traffic σ) (i : Nat) : List Request :=
  (s.tasks[i]?.bind fun t => t.handed? s.world).toList

/-- All that the steps of a schedule hand over, each with its task. -/
def handovers (c : Client σ) (s : Traffic σ) : List Nat → List (Nat × Request)
  | [] => []
  | i :: schedule => (handedBy s i).map (i, ·) ++ c.handovers (c.advance s i) schedule

/-- The requests as they are side by side, before anything is done for them. -/
def opening (qs : List Request) (w : World σ) : Traffic σ := ⟨qs.map .queued, w, []⟩

/-- The places of the tasks are in use, and no two tasks have one place. -/
structure Housed (cells : Cells σ τ) (count : Nat) (place : Nat → Option cells.Place) (own : σ) :
    Prop where
  live : ∀ {j k}, place j = some k → cells.live own k
  apart : ∀ {i j k}, place i = some k → place j = some k → i = j
  known : ∀ {j k}, place j = some k → j < count

section Housed

variable {count i : Nat} {place : Nat → Option cells.Place} {mine : Option cells.Place} {own own' : σ}

def Housed.used (count : Nat) (place : Nat → Option cells.Place) : List cells.Place :=
  (List.range count).filterMap place

theorem Housed.live_used (h : Housed cells count place own) :
    ∀ k ∈ Housed.used count place, cells.live own k := by
  intro k m
  obtain ⟨j, _, taken⟩ := List.mem_filterMap.mp m
  exact h.live taken

/-- A task that keeps its place, or takes one that is free, does not come to the place of another. -/
theorem Housed.ne_of_kept (h : Housed cells count place own)
    (kept : mine = place i ∨ ∃ k, k ∉ Housed.used count place ∧ mine = some k) {j : Nat}
    (other : j ≠ i) {k : cells.Place} (taken : place j = some k) : mine ≠ some k := by
  rintro rfl
  rcases kept with same | ⟨k', free, same⟩
  · exact other (h.apart taken same.symm)
  · obtain rfl := Option.some.inj same
    exact free (List.mem_filterMap.mpr ⟨j, List.mem_range.mpr (h.known taken), taken⟩)

theorem Housed.update (h : Housed cells count place own) (inside : i < count)
    (kept : mine = place i ∨ ∃ k, k ∉ Housed.used count place ∧ mine = some k)
    (opened : ∀ k ∈ mine, cells.live own' k)
    (keeps : ∀ k, place i ≠ some k → cells.Keeps k own own') :
    Housed cells count (Function.update place i mine) own' := by
  refine ⟨?_, ?_, ?_⟩
  · intro j k taken
    by_cases same : j = i
    · subst same
      rw [Function.update_self] at taken
      exact opened k taken
    · rw [Function.update_of_ne same] at taken
      exact (keeps k (fun here => same (h.apart taken here)) (h.live taken)).1
  · intro j j' k taken taken'
    by_cases same : j = i <;> by_cases same' : j' = i
    · rw [same, same']
    · subst same
      rw [Function.update_self] at taken
      rw [Function.update_of_ne same'] at taken'
      exact absurd taken (h.ne_of_kept kept same' taken')
    · subst same'
      rw [Function.update_of_ne same] at taken
      rw [Function.update_self] at taken'
      exact absurd taken' (h.ne_of_kept kept same taken)
    · rw [Function.update_of_ne same] at taken
      rw [Function.update_of_ne same'] at taken'
      exact h.apart taken taken'
  · intro j k taken
    by_cases same : j = i
    · exact same ▸ inside
    · rw [Function.update_of_ne same] at taken
      exact h.known taken

end Housed

/-- The invariant of a schedule. Each task stands where it would alone, at a place of its own. -/
structure Interleaves (c : Client σ) (cells : Cells σ τ) (plan : Plan τ)
    (answer : Nat → Request → Except Fault Response) (qs : List Request)
    (place : Nat → Option cells.Place) (s : Traffic σ) (log : List (Nat × Request)) : Prop where
  length : s.tasks.length = qs.length
  stands : ∀ {j q t}, qs[j]? = some q → s.tasks[j]? = some t →
    Stands c.retries cells plan answer s.world.own (place j) (share j log) q t
  housed : Housed cells qs.length place s.world.own
  named : ∀ entry ∈ log, entry.1 < qs.length

theorem interleaves_opening (c : Client σ) (cells : Cells σ τ) (plan : Plan τ)
    (answer : Nat → Request → Except Fault Response) (qs : List Request) (w : World σ) :
    Interleaves c cells plan answer qs (fun _ => none) (opening qs w) [] := by
  refine ⟨List.length_map _, fun {j q t} here there => ?_, ⟨nofun, nofun, nofun⟩, by simp⟩
  obtain rfl : t = .queued q := by simpa [opening, here] using there.symm
  exact ⟨rfl, rfl⟩

namespace Interleaves

variable {place : Nat → Option cells.Place} {s : Traffic σ} {log : List (Nat × Request)}

theorem advance (h : Interleaves c cells plan answer qs place s log)
    (hooks : c.initializer.Unshared cells plan) (steady : c.transport.Steady cells answer)
    (i : Nat) : ∃ place', Interleaves c cells plan answer qs place' (c.advance s i)
      (log ++ (handedBy s i).map (i, ·)) := by
  cases found : s.tasks[i]? with
  | none => exact ⟨place, by simpa [Client.advance, handedBy, found] using h⟩
  | some t =>
    have inside : i < qs.length := h.length ▸ (List.getElem?_eq_some_iff.mp found).1
    have given : qs[i]? = some qs[i] := List.getElem?_eq_getElem inside
    obtain ⟨mine, kept, stands, opened, keeps⟩ := stands_step hooks steady (h.stands given found)
      (fun k m => h.housed.live m) _ h.housed.live_used
    have stepped : c.advance s i = ⟨s.tasks.set i (c.step t s.world).1, (c.step t s.world).2,
        s.wire ++ (t.handed? s.world).toList⟩ := by
      simp [Client.advance, found]
    have handed : handedBy s i = (t.handed? s.world).toList := by simp [handedBy, found]
    rw [stepped, handed]
    refine ⟨Function.update place i mine, ?_, ?_, h.housed.update inside kept opened keeps, ?_⟩
    · simpa using h.length
    · intro j q t' here there
      by_cases same : j = i
      · subst same
        obtain rfl := Option.some.inj (given.symm.trans here)
        obtain rfl : (c.step t s.world).1 = t' := by
          simpa [List.getElem?_set_self, found, h.length, inside] using there
        rw [Function.update_self, share_append, share_self]
        exact stands
      · rw [List.getElem?_set_ne (Ne.symm same)] at there
        rw [Function.update_of_ne same, share_append, share_of_ne (Ne.symm same), List.append_nil]
        exact stands_keeps (h.stands here there) (fun k m => h.housed.live m)
          fun k m => keeps k fun mine => same (h.housed.apart m mine)
    · intro entry m
      rcases List.mem_append.mp m with old | new
      · exact h.named entry old
      · obtain ⟨_, _, rfl⟩ := List.mem_map.mp new
        exact inside

theorem play (h : Interleaves c cells plan answer qs place s log)
    (hooks : c.initializer.Unshared cells plan) (steady : c.transport.Steady cells answer)
    (schedule : List Nat) : ∃ place', Interleaves c cells plan answer qs place'
      (c.play s (schedule.map .step)) (log ++ c.handovers s schedule) := by
  induction schedule generalizing place s log with
  | nil => exact ⟨place, by simpa [Client.play, handovers] using h⟩
  | cons i schedule ih =>
    obtain ⟨between, first⟩ := h.advance hooks steady i
    obtain ⟨place', rest⟩ := ih first
    refine ⟨place', ?_⟩
    rw [handovers, ← List.append_assoc]
    exact rest

theorem share_prefix (h : Interleaves c cells plan answer qs place s log) {j : Nat} {q : Request}
    (given : qs[j]? = some q) : share j log <+: (alone c.retries answer plan q).2 := by
  have inside : j < s.tasks.length := h.length ▸ (List.getElem?_eq_some_iff.mp given).1
  exact stands_prefix (h.stands given (List.getElem?_eq_getElem inside))

/-- When all tasks are finished, each has the result of its request alone. -/
theorem tasks_eq (h : Interleaves c cells plan answer qs place s log)
    (done : ∀ t ∈ s.tasks, t.isFinished = true) :
    s.tasks = qs.map fun q => .finished (alone c.retries answer plan q).1 := by
  refine List.ext_getElem (by simpa using h.length) fun j here there => ?_
  have inside : j < qs.length := h.length ▸ here
  have stands := h.stands (List.getElem?_eq_getElem inside) (List.getElem?_eq_getElem here)
  have finished := done _ (List.getElem_mem here)
  cases task : s.tasks[j] with
  | finished result =>
    rw [task] at stands
    rw [List.getElem_map, congrArg Prod.fst (show alone _ _ _ _ = _ from stands)]
  | queued | ready | sent | resting => simp [task, Task.isFinished, Task.result?] at finished

end Interleaves

/-- With one task, everything is its share. -/
theorem share_zero {log : List (Nat × α)} (named : ∀ entry ∈ log, entry.1 < 1) :
    share 0 log = log.map (·.2) := by
  rw [share, List.filter_eq_self.mpr]
  intro entry m
  simpa using named entry m

/-- Sending alone is the schedule of one task, and ends as the request does alone. -/
theorem exists_schedule_send (hooks : c.initializer.Unshared cells plan)
    (steady : c.transport.Steady cells answer) (q : Request) (w : World σ) :
    ∃ schedule : List Nat, (c.play (opening [q] w) (schedule.map .step)).world = (c.send q w).2 ∧
      alone c.retries answer plan q =
        ((c.send q w).1, (c.handovers (opening [q] w) schedule).map (·.2)) := by
  obtain ⟨schedule, run⟩ := Schedules.send c q w
  obtain ⟨sent, run⟩ := run []
  obtain ⟨place, h⟩ := (interleaves_opening c cells plan answer [q] w).play hooks steady schedule
  rw [List.nil_append] at h
  have ended : c.play (opening [q] w) (schedule.map .step) =
      ⟨[.finished (c.send q w).1], (c.send q w).2, [] ++ sent⟩ := run
  refine ⟨schedule, by rw [ended], ?_⟩
  have done : (c.play (opening [q] w) (schedule.map .step)).tasks[0]? =
      some (.finished (c.send q w).1) := by rw [ended]; rfl
  rw [← share_zero h.named]
  exact h.stands (q := q) rfl done

theorem isFinished_of_mem_finish (c : Client σ) (ts : List (Task σ)) (w : World σ) :
    ∀ t ∈ (c.finish ts w).1, t.isFinished = true := by
  fun_induction Client.finish c ts w with
  | case1 ts w done => exact List.all_eq_true.mp done
  | case2 ts w unfinished next ih => exact ih

/-- Every run can be gone on with until all tasks are finished. -/
theorem exists_schedule_finish (c : Client σ) (s : Traffic σ) :
    ∃ schedule : List Nat, (c.play s (schedule.map .step)).tasks = (c.finish s.tasks s.world).1 ∧
      (c.play s (schedule.map .step)).world = (c.finish s.tasks s.world).2 := by
  obtain ⟨schedule, run⟩ := Schedules.finish c s.tasks s.world
  obtain ⟨sent, run⟩ := run s.wire
  exact ⟨schedule, by rw [run], by rw [run]⟩

end RequestTrail.Client
