import RequestTrail.Proofs.Client.HookFault
import RequestTrail.Proofs.Tracker.Log

/-! Trackers over each other. Each installs its recording after those of the trackers below it, so an
attempt that the hooks under all of them let pass is recorded by every tracker of the chain, and one that
these refuse by none. No tracker outside the chain takes part. -/
namespace RequestTrail

open Http Client

variable {σ : Type} {key : Nat} {keys : List Nat} {w x y : World σ} {e : Fault}

/-- The histories under the keys have grown by the same entries, and no other has grown. -/
def World.Grows (keys : List Nat) (entries : List Record) (w w' : World σ) : Prop :=
  ∀ key, (w'.histories key).records =
    (w.histories key).records ++ if key ∈ keys then entries else []

theorem World.Grows.of_histories (same : x.histories = w.histories) : Grows keys [] w x := by
  intro key
  simp [same]

theorem World.Grows.trans {first second : List Record} (h : Grows keys first w x)
    (g : Grows keys second x y) : Grows keys (first ++ second) w y := by
  intro key
  rw [g key, h key]
  split <;> simp

/-- Records the request under every key, under the first of them last. -/
def World.recordAll (w : World σ) (r : Record) : List Nat → World σ
  | [] => w
  | key :: keys => (w.recordAll r keys).record key r

theorem World.histories_recordAll (distinct : keys.Nodup) (r : Record) (w : World σ) (key : Nat) :
    (w.recordAll r keys).histories key =
      if key ∈ keys then (w.histories key).append r else w.histories key := by
  induction keys with
  | nil => rfl
  | cons first keys ih =>
    obtain ⟨absent, rest⟩ := List.nodup_cons.mp distinct
    by_cases here : key = first
    · subst here
      simp [recordAll, record, ih rest, absent]
    · simp [recordAll, record, ih rest, here]

theorem World.grows_recordAll (distinct : keys.Nodup) (r : Record) (w : World σ) :
    Grows keys [r] w (w.recordAll r keys) := by
  intro key
  rw [histories_recordAll distinct]
  split <;> simp

/-- The request with a recording interceptor for each key, the first of them outermost. -/
def Pending.trackedAll (p : Pending σ) : List Nat → Pending σ
  | [] => p
  | key :: keys => (p.trackedAll keys).tracked key

theorem Pending.prepare_trackedAll_of_error (keys : List Nat) {p : Pending σ}
    (failed : (p.prepare w).verdict = .error e) : (p.trackedAll keys).prepare w = p.prepare w := by
  induction keys with
  | nil => rfl
  | cons key keys ih =>
    exact (prepare_tracked_of_error key (by rw [ih, failed])).trans ih

theorem Pending.prepare_trackedAll_of_ok (keys : List Nat) {p : Pending σ}
    (passed : (p.prepare w).verdict = .ok ()) :
    (p.trackedAll keys).prepare w =
      ⟨.ok (), (p.prepare w).subject,
        (p.prepare w).world.recordAll (.ofRequest (p.prepare w).subject) keys⟩ := by
  induction keys with
  | nil => rw [← passed]; rfl
  | cons key keys ih =>
    refine (prepare_tracked_of_ok key (by rw [ih])).trans ?_
    rw [ih]
    rfl

theorem Pending.handed?_trackedAll (keys : List Nat) (p : Pending σ) (w : World σ) :
    (p.trackedAll keys).handed? w = p.handed? w := by
  induction keys with
  | nil => rfl
  | cons key keys ih => exact (handed?_tracked key _ w).trans ih

/-- An attempt adds a record of what it hands over to the histories of all the recordings, and to no
other. -/
theorem grows_attempt (distinct : keys.Nodup) {p : Pending σ}
    (leaves : ∀ i ∈ p.interceptor, i.Leaves World.histories) (c : Client σ) (n : Nat) (w : World σ) :
    World.Grows keys ((p.handed? w).toList.map Record.ofRequest) w
      (c.attempt (p.trackedAll keys) n w).2 := by
  have kept : (p.prepare w).world.histories = w.histories := Pending.prepare_leaves leaves w
  cases verdict : (p.prepare w).verdict with
  | error e =>
    have prepared := Pending.prepare_trackedAll_of_error keys verdict
    rw [attempt_of_error n (by rw [prepared, verdict]), prepared, Pending.handed?_of_error verdict]
    exact .of_histories kept
  | ok _ =>
    have prepared := Pending.prepare_trackedAll_of_ok keys verdict
    rw [attempt_of_ok n (by rw [prepared]), prepared, Pending.handed?_of_ok verdict]
    exact (World.Grows.of_histories kept).trans (World.grows_recordAll distinct _ _)

/-- A delegate that leaves each history alone leaves all of them alone. -/
theorem Initializer.leaves_histories {d : Initializer σ}
    (each : ∀ key, d.Leaves fun w => w.histories key) : d.Leaves World.histories where
  world q w := funext fun key => (each key).world q w
  installed q w i m q' w' := funext fun key => (each key).installed q w i m q' w'

namespace Tracker

variable {base : Option (Initializer σ)} {t : Tracker σ} {c : Client σ} {p : Pending σ}

/-- The base under trackers with these keys, the first of them outermost. -/
def nested (base : Option (Initializer σ)) : List Nat → Option (Initializer σ)
  | [] => base
  | key :: keys => some (toInitializer ⟨key, nested base keys⟩)

/-- Trackers over each other, the outermost first. The last has the base for its delegate, and each of the
others the next. -/
def chain (base : Option (Initializer σ)) : List Nat → List (Tracker σ)
  | [] => []
  | key :: keys => ⟨key, nested base keys⟩ :: chain base keys

theorem keys_chain (base : Option (Initializer σ)) (keys : List Nat) :
    (chain base keys).map Tracker.key = keys := by
  induction keys with
  | nil => rfl
  | cons key keys ih => rw [chain, List.map_cons, ih]

/-- What a request finds before any tracker of the chain. -/
def root (base : Option (Initializer σ)) : Initializer σ := base.getD Hook.idle

theorem nested_of_error (keys : List Nat) (failed : (root base p w).verdict = .error e) :
    root (nested base keys) p w = root base p w := by
  induction keys with
  | nil => rfl
  | cons key keys ih =>
    have below : (inner ⟨key, nested base keys⟩ p w).verdict = .error e := by
      rw [← failed, ← ih]
      rfl
    exact (toInitializer_of_error below).trans ih

theorem nested_of_ok (keys : List Nat) (passed : (root base p w).verdict = .ok ()) :
    root (nested base keys) p w =
      ⟨.ok (), (root base p w).subject.trackedAll keys, (root base p w).world⟩ := by
  induction keys with
  | nil => rw [← passed]; rfl
  | cons key keys ih =>
    have below : inner ⟨key, nested base keys⟩ p w =
      ⟨.ok (), (root base p w).subject.trackedAll keys, (root base p w).world⟩ := ih
    refine (toInitializer_of_ok (by rw [below])).trans ?_
    rw [below]
    rfl

/-- The trackers have grown by the same entries, and no tracker beside them has changed. -/
structure InStep (ts : List (Tracker σ)) (entries : List Record) (w w' : World σ) : Prop where
  same : ∀ t ∈ ts, (t.history w').records = (t.history w).records ++ entries
  others : ∀ t : Tracker σ, t.key ∉ ts.map Tracker.key → t.history w' = t.history w

theorem inStep_of_grows {entries : List Record} (grows : World.Grows keys entries w x) :
    InStep (chain base keys) entries w x where
  same t m := by
    have known : t.key ∈ keys := keys_chain base keys ▸ List.mem_map_of_mem m
    simpa [history, known] using grows t.key
  others t other := by
    rw [keys_chain] at other
    have unchanged : (t.history x).records = (t.history w).records := by
      simpa [history, other] using grows t.key
    exact congrArg History.mk unchanged

section Installed

variable (distinct : keys.Nodup) (apart : (root base).Leaves World.histories)
  (installed : c.initializer = root (nested base keys))

include installed in
theorem initialized_of_root_error {q : Request} (failed : (root base ⟨q, none⟩ w).verdict = .error e) :
    c.initialized q w = root base ⟨q, none⟩ w := by
  rw [initialized, installed]
  exact nested_of_error keys failed

include installed in
theorem initialized_of_root_ok {q : Request} (passed : (root base ⟨q, none⟩ w).verdict = .ok ()) :
    c.initialized q w = ⟨.ok (), (root base ⟨q, none⟩ w).subject.trackedAll keys,
      (root base ⟨q, none⟩ w).world⟩ := by
  rw [initialized, installed]
  exact nested_of_ok keys passed

include apart installed in
theorem histories_initialized (q : Request) (w : World σ) :
    (c.initialized q w).world.histories = w.histories := by
  cases verdict : (root base ⟨q, none⟩ w).verdict with
  | error e => rw [initialized_of_root_error installed verdict, apart.world]
  | ok _ => rw [initialized_of_root_ok installed verdict, apart.world]

include distinct apart installed in
/-- Each attempt adds what it hands over to every history of the chain, so the wire is what they all
have grown by. -/
theorem keeps_grows (w : World σ) :
    c.Keeps
      (fun p => ∃ p' : Pending σ, p = p'.trackedAll keys ∧
        ∀ i ∈ p'.interceptor, i.Leaves World.histories)
      (fun x wire => World.Grows keys (wire.map Record.ofRequest) w x) where
  starts {q x wire} grows := by
    have kept := histories_initialized apart installed q x
    simpa [initialized] using grows.trans (.of_histories kept)
  builds {q x} passed := by
    rw [← initialized] at passed ⊢
    cases verdict : (root base ⟨q, none⟩ x).verdict with
    | error e =>
      rw [initialized_of_root_error installed verdict, verdict] at passed
      cases passed
    | ok _ =>
      rw [initialized_of_root_ok installed verdict]
      exact ⟨_, rfl, apart.installed q x⟩
  attempt {p n x wire} built grows := by
    obtain ⟨p', rfl, leaves⟩ := built
    rw [List.map_append, Pending.handed?_trackedAll]
    exact grows.trans (grows_attempt distinct leaves c n x)

end Installed

theorem root_leaves (apart : ∀ d ∈ base, d.Leaves World.histories) :
    (root base).Leaves World.histories := by
  unfold root
  cases given : base with
  | none => exact ⟨fun _ _ => rfl, fun _ _ i none => absurd none (Option.not_mem_none i)⟩
  | some d => exact apart d given

theorem root_nested (outermost : (chain base keys).head? = some t) :
    t.toInitializer = root (nested base keys) := by
  cases keys with
  | nil => cases outermost
  | cons key keys =>
    obtain rfl := Option.some.inj outermost
    rfl

/-- A client over the outermost tracker of a chain. When the delegate of the innermost refuses a request,
the send ends and nothing is recorded. Each attempt adds at most one entry to every tracker of the chain,
the same to all of them, and none when the interceptor of that delegate refuses it. So at every point of
every run, and after every call, all of them have grown by the same entries, and no other tracker has
changed. -/
theorem chain_inStep (distinct : keys.Nodup) (apart : ∀ d ∈ base, d.Leaves World.histories)
    (outermost : (chain base keys).head? = some t) (installed : c.initializer = t.toInitializer)
    (w : World σ) :
    let ts := chain base keys
    (∀ q, let r := root base ⟨q, none⟩ w
      InStep ts [] w (c.initialized q w).world ∧
      (∀ e, r.verdict = .error e → c.send q w = (.error e, (c.initialized q w).world)) ∧
      (r.verdict = .ok () → ∀ n x, ∃ entry : Option Record,
        InStep ts entry.toList x (c.attempt (c.initialized q w).subject n x).2 ∧
        (∀ e, (r.subject.prepare x).verdict = .error e → entry = none) ∧
        ((r.subject.prepare x).verdict = .ok () →
          entry = some (.ofRequest (r.subject.prepare x).subject)))) ∧
    (∀ moves, let s := c.play ⟨[], w, []⟩ moves
      InStep ts (s.wire.map Record.ofRequest) w s.world) ∧
    ∀ sendings, ∃ entries, InStep ts entries w (c.sendOuts sendings w).2 := by
  intro ts
  have leaves := root_leaves apart
  have outer : c.initializer = root (nested base keys) := installed.trans (root_nested outermost)
  have run (moves : List Move) : InStep ts
      ((c.play ⟨[], w, []⟩ moves).wire.map Record.ofRequest) w (c.play ⟨[], w, []⟩ moves).world :=
    inStep_of_grows ((keeps_grows distinct leaves outer w).play moves
      (Traffic.holds_start (.of_histories rfl))).inv
  refine ⟨fun q => ⟨?_, fun e failed => ?_, fun passed n x => ?_⟩, run, fun sendings => ?_⟩
  · exact inStep_of_grows (.of_histories (histories_initialized leaves outer q w))
  · have refused := initialized_of_root_error outer failed
    exact send_of_initializer_fault (by rw [refused, failed])
  · rw [initialized_of_root_ok outer passed]
    let p := (root base ⟨q, none⟩ w).subject
    refine ⟨(p.handed? x).map Record.ofRequest, ?_, fun e failed => ?_, fun taken => ?_⟩
    · have grows := grows_attempt distinct (leaves.installed q w) c n x
      rw [← Option.toList_map] at grows
      exact inStep_of_grows grows
    · rw [Pending.handed?_of_error failed]
      rfl
    · rw [Pending.handed?_of_ok taken]
      rfl
  · obtain ⟨moves, ended⟩ := exists_play_sendOuts c sendings ⟨[], w, []⟩
    exact ⟨_, ended ▸ run moves⟩

/-- Two trackers over a hook that fails once on each request, and a transport that loses the first that it
is handed. Of five attempts three are recorded, by both. -/
theorem chain_inStep_unsteady :
    let ts : List (Tracker Script.Stage) := chain (some Script.unsteady) [4, 2]
    let t : Tracker Script.Stage := ⟨4, nested (some Script.unsteady) [2]⟩
    let c : Client Script.Stage := ⟨t.toInitializer, Script.lossy, 3, .zero⟩
    let q : Request := { method := "GET", uri := .authorityOnly "host".toList }
    let sent := (c.sendOuts [.alone q, .alone q] Script.opening).2
    ts.head? = some t ∧ ts.map (fun t => (t.history sent).size) = [3, 3] ∧
      ∃ entries, InStep ts entries Script.opening sent := by
  intro ts t c q sent
  have apart : ∀ d ∈ some Script.unsteady, d.Leaves World.histories := by
    intro d given
    obtain rfl := Option.some.inj given
    exact Initializer.leaves_histories fun key => (Script.initializer_unaware _ _ _ key).leaves
  have outermost : ts.head? = some t := rfl
  have installed : c.initializer = t.toInitializer := rfl
  have all := chain_inStep (by decide) apart outermost installed Script.opening
  exact ⟨outermost, by decide +kernel, all.2.2 _⟩

end Tracker

end RequestTrail
