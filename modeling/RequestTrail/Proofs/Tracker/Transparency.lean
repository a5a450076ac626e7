import RequestTrail.Proofs.Client.Watched
import RequestTrail.Proofs.Script
import RequestTrail.Proofs.Tracker.Tracked

/-! A client with a tracker against the same client without one. Their worlds differ in the history of
the tracker at most, which no other hook has a hold of. -/
namespace RequestTrail

open Http Client

variable {σ α : Type} {key : Nat} {w : World σ} {h : History}

theorem Pending.Unaware.handed? {p : Pending σ} (unaware : p.Unaware key) (w : World σ)
    (h : History) : p.handed? (w.setHistory key h) = p.handed? w := by
  rw [Pending.handed?, unaware.prepare]
  rfl

namespace Client

/-- The client with a tracker over its initializer. -/
def tracked (key : Nat) (c : Client σ) : Client σ :=
  { c with initializer := c.initializer.andThen (Tracker.install key) }

theorem tracked_initializer (key : Nat) (c : Client σ) :
    (c.tracked key).initializer = c.initializer.andThen (Tracker.install key) := rfl

variable {c : Client σ}

theorem attempt_tracked {p : Pending σ} (unaware : p.Unaware key) (c : Client σ) (n : Nat)
    (w : World σ) (h : History) :
    ∃ h', (c.tracked key).attempt (p.tracked key) n (w.setHistory key h) =
      ((c.attempt p n w).1, (c.attempt p n w).2.setHistory key h') := by
  have same := unaware.prepare w h
  cases verdict : (p.prepare w).verdict with
  | error e =>
    have failed : (p.prepare (w.setHistory key h)).verdict = .error e := by rw [same]; exact verdict
    have prepared := Pending.prepare_tracked_of_error key failed
    refine ⟨h, ?_⟩
    rw [attempt_of_error n verdict, attempt_of_error (e := e) n (by rw [prepared, failed]), prepared,
      same]
    rfl
  | ok _ =>
    have passed : (p.prepare (w.setHistory key h)).verdict = .ok () := by rw [same]; exact verdict
    have prepared := Pending.prepare_tracked_of_ok key passed
    refine ⟨h.append (.ofRequest (p.prepare w).subject), ?_⟩
    rw [attempt_of_ok n verdict, attempt_of_ok n (by rw [prepared]), prepared, same]
    simp only [Ran.setHistory, World.setHistory_record]
    rfl

theorem initializer_tracked_of_error (aware : c.initializer.Unaware key) {q : Request} {e : Fault}
    (failed : (c.initializer ⟨q, none⟩ w).verdict = .error e) (h : History) :
    (c.tracked key).initializer ⟨q, none⟩ (w.setHistory key h) =
      (c.initializer ⟨q, none⟩ w).setHistory key h := by
  have same := aware.run q w h
  rw [tracked_initializer, Hook.andThen_of_error (f := e) (by rw [same]; exact failed), same]

theorem initializer_tracked_of_ok (aware : c.initializer.Unaware key) {q : Request}
    (passed : (c.initializer ⟨q, none⟩ w).verdict = .ok ()) (h : History) :
    (c.tracked key).initializer ⟨q, none⟩ (w.setHistory key h) =
      ⟨.ok (), (c.initializer ⟨q, none⟩ w).subject.tracked key,
        (c.initializer ⟨q, none⟩ w).world.setHistory key h⟩ := by
  have same := aware.run q w h
  rw [tracked_initializer, Hook.andThen_of_ok (by rw [same]; exact passed), same]
  rfl

/-- A tracked client does what the client does, in worlds that differ in the history at most. -/
theorem simulates_tracked (aware : c.initializer.Unaware key) :
    c.Simulates (c.tracked key) (fun p p' => p.Unaware key ∧ p' = p.tracked key)
      (fun w x => ∃ h, x = w.setHistory key h) where
  retries := rfl
  delay := rfl
  starts q w x alike := by
    obtain ⟨h, rfl⟩ := alike
    cases verdict : (c.initializer ⟨q, none⟩ w).verdict with
    | error e =>
      rw [initializer_tracked_of_error aware verdict]
      exact ⟨verdict, h, rfl⟩
    | ok _ =>
      rw [initializer_tracked_of_ok aware verdict]
      exact ⟨rfl, h, rfl⟩
  builds {q w x} alike passed := by
    obtain ⟨h, rfl⟩ := alike
    rw [initializer_tracked_of_ok aware passed]
    exact ⟨aware.installed q w, rfl⟩
  hands {p p' w x} pending alike := by
    obtain ⟨unaware, rfl⟩ := pending
    obtain ⟨h, rfl⟩ := alike
    exact (p.handed?_tracked key _).trans (unaware.handed? w h)
  attempt {p p'} n {w x} pending alike := by
    obtain ⟨unaware, rfl⟩ := pending
    obtain ⟨h, rfl⟩ := alike
    obtain ⟨h', same⟩ := attempt_tracked unaware c n w h
    rw [same]
    exact ⟨rfl, h', rfl⟩

end Client

/-- The interceptor, which also notes each of its runs in the state that hooks and transport share. -/
def Interceptor.noting (note : Run → σ → σ) (i : Interceptor σ) : Interceptor σ := fun q w =>
  i q { w with own := note (.interceptor q) w.own }

def Initializer.noting (note : Run → σ → σ) (d : Initializer σ) : Initializer σ := fun p w =>
  let r := d p { w with own := note (.initializer p.request) w.own }
  { r with subject :=
    { r.subject with interceptor := r.subject.interceptor.map (Interceptor.noting note) } }

def Transport.noting (note : Run → σ → σ) (transport : Transport σ) : Transport σ :=
  fun n q own => transport n q (note (.transport n q) own)

theorem Interceptor.Unaware.noting {i : Interceptor σ} (unaware : i.Unaware key)
    (note : Run → σ → σ) : (i.noting note).Unaware key := by
  intro q w h
  exact unaware q { w with own := note (.interceptor q) w.own } h

theorem Initializer.Unaware.noting {d : Initializer σ} (unaware : d.Unaware key)
    (note : Run → σ → σ) : (d.noting note).Unaware key := by
  constructor
  · intro q w h
    have run := unaware.run q { w with own := note (.initializer q) w.own } h
    rw [← World.setHistory_own] at run
    simp only [Initializer.noting]
    rw [World.own_setHistory, run]
    rfl
  · intro q w i m
    obtain ⟨i', installed, rfl⟩ := Option.map_eq_some_iff.mp m
    exact (unaware.installed q _ i' installed).noting note

/-- The worlds agree on all but the history under the key. -/
structure World.Alike (key : Nat) (w x : World σ) : Prop where
  own : w.own = x.own
  histories : ∀ other, other ≠ key → w.histories other = x.histories other

theorem World.alike_setHistory (key : Nat) (h : History) (w : World σ) :
    (w.setHistory key h).Alike key w :=
  ⟨rfl, fun other away => by simp [away]⟩

namespace Tracker

theorem tracked_inner (t : Tracker σ) (c : Client σ) :
    { c with initializer := t.toInitializer } =
      Client.tracked t.key { c with initializer := t.inner } := by
  rw [toInitializer_eq]
  rfl

theorem inner_unaware {t : Tracker σ} (unaware : ∀ d ∈ t.delegate, d.Unaware t.key) :
    t.inner.Unaware t.key := by
  unfold inner
  cases given : t.delegate with
  | none => exact ⟨fun _ _ _ => rfl, fun _ _ i none => absurd none (Option.not_mem_none i)⟩
  | some d => exact unaware d given

/-- Whatever the hooks of the delegate and the transport do, and in whatever order tasks are stepped, a
tracker changes nothing but its own history: no hand-over, no result, and nothing in what the worlds
share, where every run of those hooks and of the transport is noted. -/
theorem transparent (t : Tracker σ) (c : Client σ) (note : Run → σ → σ)
    (unaware : ∀ d ∈ t.delegate, d.Unaware t.key) (w : World σ) (moves : List Move) :
    let noted := t.delegate.map (Initializer.noting note)
    let transport := c.transport.noting note
    let tracking := { c with initializer := toInitializer { t with delegate := noted }, transport }
    let direct := { c with initializer := noted.getD Hook.idle, transport }
    let s := tracking.play ⟨[], w, []⟩ moves
    let s' := direct.play ⟨[], w, []⟩ moves
    s.wire = s'.wire ∧
      s.tasks.map Task.result? = s'.tasks.map Task.result? ∧
      s.world.Alike t.key s'.world ∧
      ∀ sendings, (tracking.sendOuts sendings s.world).1 = (direct.sendOuts sendings s'.world).1 ∧
        (tracking.sendOuts sendings s.world).2.Alike t.key
          (direct.sendOuts sendings s'.world).2 := by
  intro noted transport tracking direct s s'
  have same : tracking = direct.tracked t.key :=
    tracked_inner { t with delegate := noted } { c with transport }
  have aware : direct.initializer.Unaware t.key := by
    refine @inner_unaware _ { t with delegate := noted } fun d given => ?_
    obtain ⟨d', installed, rfl⟩ := Option.map_eq_some_iff.mp given
    exact (unaware d' installed).noting note
  have sim := simulates_tracked aware
  have start : Traffic.Matches (fun p p' => p.Unaware t.key ∧ p' = p.tracked t.key)
      (fun w x => ∃ h, x = World.setHistory w t.key h) ⟨[], w, []⟩ ⟨[], w, []⟩ :=
    ⟨.nil, ⟨w.histories t.key, (w.setHistory_self t.key).symm⟩, rfl⟩
  have run : Traffic.Matches _ _ s' s := same ▸ sim.play moves start
  have beside {x y : World σ} (alike : ∃ h, y = x.setHistory t.key h) : y.Alike t.key x := by
    obtain ⟨h, rfl⟩ := alike
    exact World.alike_setHistory t.key h x
  refine ⟨run.wire, Task.Matches.map_result? run.tasks, beside run.world, fun sendings => ?_⟩
  obtain ⟨results, after⟩ := sim.sendOuts sendings run.world
  rw [same]
  exact ⟨results, beside after⟩

/-- A failed hook, a lost request and an answer look the same with a tracker and without. -/
theorem transparent_unsteady :
    let note : Run → Script.Stage → Script.Stage
      | .initializer q, own => own.log (.initializer "noted" 0 q)
      | .interceptor q, own => own.log (.initializer "noted" 1 q)
      | .transport n q, own => own.log (.initializer "noted" (n + 2) q)
    let noted := Initializer.noting note Script.unsteady
    let transport := Transport.noting note Script.lossy
    let tracking : Client Script.Stage := ⟨toInitializer ⟨0, some noted⟩, transport, 3, .zero⟩
    let direct : Client Script.Stage := ⟨noted, transport, 3, .zero⟩
    let q : Request := { method := "GET", uri := .authorityOnly "host".toList }
    let moves : List Move := .send [q] :: List.replicate 7 (.step 0)
    let s := tracking.play ⟨[], Script.opening, []⟩ moves
    let s' := direct.play ⟨[], Script.opening, []⟩ moves
    s.wire.length = 2 ∧ s.wire = s'.wire ∧
      s.tasks.map Task.result? = s'.tasks.map Task.result? ∧
      s.world.Alike 0 s'.world := by
  intro note noted transport tracking direct q moves s s'
  have unaware : ∀ d ∈ some Script.unsteady, Initializer.Unaware 0 d := by
    intro d given
    obtain rfl := Option.some.inj given
    exact Script.initializer_unaware _ _ _ _
  have all := transparent ⟨0, some Script.unsteady⟩ ⟨noted, Script.lossy, 3, .zero⟩ note unaware
    Script.opening moves
  exact ⟨by decide +kernel, all.1, all.2.1, all.2.2.1⟩

end Tracker

end RequestTrail
