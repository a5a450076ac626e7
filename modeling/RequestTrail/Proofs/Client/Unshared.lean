import RequestTrail.Proofs.Client.Schedule

/-! Hooks without shared state. What the hooks of a request do depends on the request and on a state that
nothing else reads or changes. So it can be said beforehand, whatever is sent beside it. -/
namespace RequestTrail

open Http

variable {σ τ : Type}

/-- What came of the run of a hook. -/
def Ran.result {α : Type} (r : Ran α σ) : Except Fault α := r.verdict.map fun _ => r.subject

/-- Where the hooks of each request keep their state, and which places may be in use. -/
structure Cells (σ τ : Type) where
  Place : Type
  read : σ → Place → τ
  live : σ → Place → Prop

/-- What stands at a place in use still stands there. -/
def Cells.Keeps (cells : Cells σ τ) (k : cells.Place) (own own' : σ) : Prop :=
  cells.live own k → cells.live own' k ∧ cells.read own' k = cells.read own k

theorem Cells.Keeps.trans {cells : Cells σ τ} {k : cells.Place} {own own' own'' : σ}
    (first : cells.Keeps k own own') (next : cells.Keeps k own' own'') : cells.Keeps k own own'' := by
  intro live
  obtain ⟨live', same⟩ := first live
  obtain ⟨live'', same'⟩ := next live'
  exact ⟨live'', same'.trans same⟩

/-- What an interceptor makes of its request, given the state of the request. -/
abbrev Act (τ : Type) := τ → Except Fault Request × τ

/-- The interceptor of the request acts on the state at the place, and on no other in use. -/
structure Pending.Private (cells : Cells σ τ) (k : cells.Place) (act : Act τ) (p : Pending σ) :
    Prop where
  result : ∀ w, cells.live w.own k → (p.prepare w).result = (act (cells.read w.own k)).1
  state : ∀ w, cells.live w.own k → cells.live (p.prepare w).world.own k ∧
    cells.read (p.prepare w).world.own k = (act (cells.read w.own k)).2
  others : ∀ w, cells.live w.own k → ∀ k' ≠ k, cells.Keeps k' w.own (p.prepare w).world.own

/-- What hooks do with each request: refuse it, or act on it from a first state on. -/
abbrev Plan (τ : Type) := Request → Except Fault (Act τ × τ)

/-- The initializer follows the plan. It leaves the places in use alone and takes one that is not. -/
structure Initializer.Unshared (cells : Cells σ τ) (plan : Plan τ) (d : Initializer σ) : Prop where
  verdict : ∀ q w, (d ⟨q, none⟩ w).verdict = (plan q).map fun _ => ()
  keeps : ∀ q w k, cells.Keeps k w.own (d ⟨q, none⟩ w).world.own
  opens : ∀ {q act s}, plan q = .ok (act, s) → ∀ w (used : List cells.Place),
    (∀ k ∈ used, cells.live w.own k) → ∃ k, k ∉ used ∧ cells.live (d ⟨q, none⟩ w).world.own k ∧
      cells.read (d ⟨q, none⟩ w).world.own k = s ∧ (d ⟨q, none⟩ w).subject.Private cells k act

/-- The transport answers by attempt and request, and leaves the state of the hooks alone. -/
structure Transport.Steady (cells : Cells σ τ) (answer : Nat → Request → Except Fault Response)
    (transport : Transport σ) : Prop where
  result : ∀ n q own, (transport n q own).1.result = answer n q
  keeps : ∀ n q own k, cells.Keeps k own (transport n q own).2

namespace Client

variable {c : Client σ} {cells : Cells σ τ} {plan : Plan τ}
  {answer : Nat → Request → Except Fault Response} {w : World σ} {q : Request}

/-- An attempt with nothing beside it, on the state of the request and what was handed over before. -/
def attemptAlone (answer : Nat → Request → Except Fault Response) (act : Act τ) (n : Nat)
    (x : τ × List Request) : Except Fault Response × (τ × List Request) :=
  match act x.1 with
  | (.error e, s) => (.error e, (s, x.2))
  | (.ok q, s) => (answer n q, (s, x.2 ++ [q]))

/-- What the request ends in with nothing beside it, and what is handed over for it. -/
def alone (retries : Nat) (answer : Nat → Request → Except Fault Response) (plan : Plan τ)
    (q : Request) : Except Fault Response × List Request :=
  match plan q with
  | .error e => (.error e, [])
  | .ok (act, s) =>
    let r := Retry.run retryable retries (attemptAlone answer act) (s, [])
    (r.1, r.2.2)

/-- The request is pending at its place, and its attempts have come to the point. -/
def Reaches (cells : Cells σ τ) (plan : Plan τ) (own : σ) (place : Option cells.Place)
    (share : List Request) (q : Request) (p : Pending σ)
    (point : Act τ → τ × List Request → τ × List Request → Prop) : Prop :=
  ∃ act s k, plan q = .ok (act, s) ∧ place = some k ∧ p.Private cells k act ∧
    point act (s, []) (cells.read own k, share)

/-- Where a task stands in the attempts that it would make alone, after handing over its share. -/
def Stands (retries : Nat) (cells : Cells σ τ) (plan : Plan τ)
    (answer : Nat → Request → Except Fault Response) (own : σ) (place : Option cells.Place)
    (share : List Request) (q : Request) : Task σ → Prop
  | .queued q' => q' = q ∧ share = []
  | .ready p n => Reaches cells plan own place share q p fun act first x =>
    Retry.Begins retryable retries (attemptAlone answer act) first n x
  | .sent p n a => Reaches cells plan own place share q p fun act first x =>
    ∃ y, Retry.Begins retryable retries (attemptAlone answer act) first n y ∧
      attemptAlone answer act n y = (a.result, x)
  | .resting p n _ => Reaches cells plan own place share q p fun act first x =>
    Retry.Begins retryable retries (attemptAlone answer act) first (n + 1) x
  | .finished result => alone retries answer plan q = (result, share)

theorem Reaches.keeps {own own' : σ} {place : Option cells.Place} {share : List Request}
    {p : Pending σ} {point : Act τ → τ × List Request → τ × List Request → Prop}
    (reaches : Reaches cells plan own place share q p point)
    (live : ∀ k ∈ place, cells.live own k) (keeps : ∀ k ∈ place, cells.Keeps k own own') :
    Reaches cells plan own' place share q p point := by
  obtain ⟨act, s, k, planned, here, acts, reached⟩ := reaches
  refine ⟨act, s, k, planned, here, acts, ?_⟩
  rw [(keeps k here (live k here)).2]
  exact reached

theorem attemptAlone_of_error {act : Act τ} {n : Nat} {x : τ × List Request} {e : Fault}
    (failed : (act x.1).1 = .error e) :
    attemptAlone answer act n x = (.error e, ((act x.1).2, x.2)) := by
  unfold attemptAlone
  split
  · next f s acted => simp_all
  · next r s acted => simp_all

theorem attemptAlone_of_ok {act : Act τ} {n : Nat} {x : τ × List Request} {r : Request}
    (passed : (act x.1).1 = .ok r) :
    attemptAlone answer act n x = (answer n r, ((act x.1).2, x.2 ++ [r])) := by
  unfold attemptAlone
  split
  · next f s acted => simp_all
  · next r s acted => simp_all

/-- An attempt on the request at its place is the attempt that it would make alone. -/
theorem attempt_of_private {act : Act τ} {k : cells.Place} {p : Pending σ}
    (acts : p.Private cells k act) (steady : c.transport.Steady cells answer)
    (live : cells.live w.own k) (n : Nat) (share : List Request) :
    attemptAlone answer act n (cells.read w.own k, share) =
        ((c.attempt p n w).1.result,
          (cells.read (c.attempt p n w).2.own k, share ++ (p.handed? w).toList)) ∧
      cells.live (c.attempt p n w).2.own k ∧
      ∀ k' ≠ k, cells.Keeps k' w.own (c.attempt p n w).2.own := by
  have result := acts.result w live
  obtain ⟨stays, state⟩ := acts.state w live
  have others := acts.others w live
  cases verdict : (p.prepare w).verdict with
  | error e =>
    simp only [Ran.result, verdict, Except.map] at result
    rw [attempt_of_error n verdict, Pending.handed?_of_error verdict,
      attemptAlone_of_error result.symm, state]
    exact ⟨by simp, stays, others⟩
  | ok _ =>
    simp only [Ran.result, verdict, Except.map] at result
    have sent := steady.keeps n (p.prepare w).subject (p.prepare w).world.own
    rw [attempt_of_ok n verdict, Pending.handed?_of_ok verdict, attemptAlone_of_ok result.symm]
    have after := sent k stays
    refine ⟨?_, after.1, fun k' other => (others k' other).trans (sent k')⟩
    simp only [handOver, steady.result, after.2, state, Option.toList_some]

/-- An answer leads to where the task would stand alone after the attempt. -/
theorem stands_settle {own : σ} {place : Option cells.Place} {share : List Request} {p : Pending σ}
    {n : Nat} {result : Except Fault Response}
    (reaches : Reaches cells plan own place share q p fun act first x =>
      ∃ y, Retry.Begins retryable c.retries (attemptAlone answer act) first n y ∧
        attemptAlone answer act n y = (result, x)) :
    Stands c.retries cells plan answer own place share q (c.settle p n result) := by
  obtain ⟨act, s, k, planned, here, acts, y, begins, ended⟩ := reaches
  have resulted : (attemptAlone answer act n y).1 = result := by rw [ended]
  unfold settle
  split
  · next more =>
    have next := begins.next (by rwa [resulted])
    rw [ended] at next
    split <;> exact ⟨act, s, k, planned, here, acts, next⟩
  · next final =>
    have run := begins.run_of_final (by rwa [resulted, ← Bool.not_eq_true])
    simp only [Stands, alone, planned, run, ended]

theorem stands_step (hooks : c.initializer.Unshared cells plan)
    (steady : c.transport.Steady cells answer) {t : Task σ} {place : Option cells.Place}
    {share : List Request} (stands : Stands c.retries cells plan answer w.own place share q t)
    (live : ∀ k ∈ place, cells.live w.own k) (used : List cells.Place)
    (inUse : ∀ k ∈ used, cells.live w.own k) :
    ∃ place', (place' = place ∨ ∃ k, k ∉ used ∧ place' = some k) ∧
      Stands c.retries cells plan answer (c.step t w).2.own place'
        (share ++ (t.handed? w).toList) q (c.step t w).1 ∧
      (∀ k ∈ place', cells.live (c.step t w).2.own k) ∧
      ∀ k, place ≠ some k → cells.Keeps k w.own (c.step t w).2.own := by
  have unchanged (k : cells.Place) : cells.Keeps k w.own w.own := fun live => ⟨live, rfl⟩
  cases t with
  | queued q' =>
    obtain ⟨rfl, rfl⟩ := stands
    have verdict := hooks.verdict q' w
    have keeps := hooks.keeps q' w
    cases planned : plan q' with
    | error e =>
      rw [planned] at verdict
      simp only [Client.step, verdict, Except.map]
      refine ⟨place, .inl rfl, ?_, fun k here => (keeps k (live k here)).1, fun k _ => keeps k⟩
      simp [Stands, alone, planned, Task.handed?]
    | ok first =>
      obtain ⟨act, s⟩ := first
      rw [planned] at verdict
      obtain ⟨k, free, opened, starts, acts⟩ := hooks.opens planned w used inUse
      simp only [Client.step, verdict, Except.map]
      refine ⟨some k, .inr ⟨k, free, rfl⟩, ⟨act, s, k, planned, rfl, acts, ?_⟩, ?_, fun k _ => keeps k⟩
      · rw [starts]
        exact .first
      · rintro k' ⟨⟩
        exact opened
  | ready p n =>
    obtain ⟨act, s, k, planned, rfl, acts, begins⟩ := stands
    obtain ⟨alike, stays, others⟩ := attempt_of_private acts steady (live k rfl) n share
    refine ⟨some k, .inl rfl, ⟨act, s, k, planned, rfl, acts, _, begins, alike⟩, ?_, ?_⟩
    · rintro k' ⟨⟩
      exact stays
    · intro k' other
      exact others k' fun same => other (congrArg some same.symm)
  | sent p n a =>
    obtain ⟨result, pauses⟩ := a
    simp only [Task.handed?, Option.toList_none, List.append_nil]
    cases pauses with
    | zero => exact ⟨place, .inl rfl, stands_settle stands, live, fun k _ => unchanged k⟩
    | succ pauses => exact ⟨place, .inl rfl, stands, live, fun k _ => unchanged k⟩
  | resting p n wait =>
    simp only [Task.handed?, Option.toList_none, List.append_nil]
    exact ⟨place, .inl rfl, stands, live, fun k _ => unchanged k⟩
  | finished result =>
    simp only [Task.handed?, Option.toList_none, List.append_nil]
    exact ⟨place, .inl rfl, stands, live, fun k _ => unchanged k⟩

/-- What happens at other places does not matter to a task. -/
theorem stands_keeps {own own' : σ} {t : Task σ} {place : Option cells.Place}
    {share : List Request} {retries : Nat} (stands : Stands retries cells plan answer own place share q t)
    (live : ∀ k ∈ place, cells.live own k) (keeps : ∀ k ∈ place, cells.Keeps k own own') :
    Stands retries cells plan answer own' place share q t := by
  cases t with
  | queued q' => exact stands
  | ready p n =>
    simp only [Stands] at stands ⊢
    exact stands.keeps live keeps
  | sent p n a =>
    simp only [Stands] at stands ⊢
    exact stands.keeps live keeps
  | resting p n wait =>
    simp only [Stands] at stands ⊢
    exact stands.keeps live keeps
  | finished result => exact stands

theorem attemptAlone_adds (act : Act τ) (n : Nat) (x : τ × List Request) :
    x.2 <+: (attemptAlone answer act n x).2.2 := by
  unfold attemptAlone
  split
  · exact List.prefix_rfl
  · exact List.prefix_append _ _

theorem Reaches.prefix_alone {own : σ} {place : Option cells.Place} {share : List Request}
    {p : Pending σ} {retries : Nat} {point : Act τ → τ × List Request → τ × List Request → Prop}
    (reaches : Reaches cells plan own place share q p point)
    (begins : ∀ {act first x}, point act first x → ∃ n y,
      Retry.Begins retryable retries (attemptAlone answer act) first n y ∧
        x.2 <+: (attemptAlone answer act n y).2.2) :
    share <+: (alone retries answer plan q).2 := by
  obtain ⟨act, s, k, planned, _, _, reached⟩ := reaches
  obtain ⟨n, y, begun, within⟩ := begins reached
  have rest := begun.prefix_run (attemptAlone_adds act)
  simp only [alone, planned]
  exact within.trans rest

/-- What a task has handed over is a start of what is handed over for its request alone. -/
theorem stands_prefix {own : σ} {t : Task σ} {place : Option cells.Place} {share : List Request}
    {retries : Nat} (stands : Stands retries cells plan answer own place share q t) :
    share <+: (alone retries answer plan q).2 := by
  cases t with
  | queued q' =>
    obtain ⟨_, rfl⟩ := stands
    exact List.nil_prefix
  | ready p n =>
    simp only [Stands] at stands
    exact stands.prefix_alone fun begins => ⟨n, _, begins, attemptAlone_adds _ n _⟩
  | sent p n a =>
    simp only [Stands] at stands
    refine stands.prefix_alone ?_
    rintro act first x ⟨y, begins, ended⟩
    exact ⟨n, y, begins, ended ▸ List.prefix_rfl⟩
  | resting p n wait =>
    simp only [Stands] at stands
    exact stands.prefix_alone fun begins => ⟨n + 1, _, begins, attemptAlone_adds _ _ _⟩
  | finished result => exact (congrArg Prod.snd stands) ▸ List.prefix_rfl

end Client

end RequestTrail
