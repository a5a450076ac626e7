import RequestTrail.Proofs.Script
import RequestTrail.Proofs.Tracker.Calls
import RequestTrail.Proofs.Tracker.Tracked

/-! The history of a tracker holds what was handed over since the last reset, in the order in which it was
handed over and as the transport got it. -/
namespace RequestTrail

open Http Client

variable {σ : Type} {t : Tracker σ} {c : Client σ} {built : Pending σ → Prop}

namespace Tracker

/-- The recording interceptor is the last one, and those before it leave the history alone. -/
def Installed (t : Tracker σ) (p : Pending σ) : Prop :=
  ∃ p' : Pending σ, p = p'.tracked t.key ∧
    ∀ i ∈ p'.interceptor, i.Leaves fun w => w.histories t.key

/-- An attempt adds the request it hands over to the history, and nothing else. -/
theorem Installed.records_attempt {p : Pending σ} (installed : t.Installed p) (c : Client σ) (n : Nat)
    (w : World σ) : (t.history (c.attempt p n w).2).records =
      (t.history w).records ++ (p.handed? w).toList.map Record.ofRequest := by
  obtain ⟨p', rfl, leaves⟩ := installed
  have kept : (p'.prepare w).world.histories t.key = w.histories t.key :=
    Pending.prepare_leaves leaves w
  rw [Pending.handed?_tracked]
  cases verdict : (p'.prepare w).verdict with
  | error e =>
    have failed : ((p'.tracked t.key).prepare w).verdict = .error e := by
      rw [Pending.prepare_tracked_of_error t.key verdict, verdict]
    rw [attempt_of_error n failed, Pending.prepare_tracked_of_error t.key verdict,
      Pending.handed?_of_error verdict]
    simp [history, kept]
  | ok _ =>
    have prepared := Pending.prepare_tracked_of_ok t.key verdict
    have passed : ((p'.tracked t.key).prepare w).verdict = .ok () := by rw [prepared]
    rw [attempt_of_ok n passed, prepared, Pending.handed?_of_ok verdict]
    simp [history, handOver, World.record, kept]

/-- The initializer adds nothing to the history. -/
theorem history_initializer (installed : c.initializer = t.toInitializer)
    (apart : t.inner.Leaves fun w => w.histories t.key) (q : Request) (w : World σ) :
    t.history (c.initializer ⟨q, none⟩ w).world = t.history w := by
  have same : (c.initializer ⟨q, none⟩ w).world = (t.inner ⟨q, none⟩ w).world := by
    rw [installed]
    cases verdict : (t.inner ⟨q, none⟩ w).verdict with
    | error e => rw [toInitializer_of_error verdict]
    | ok _ => rw [toInitializer_of_ok verdict]
  rw [history, same]
  exact apart.world q w

theorem installed_initializer (installed : c.initializer = t.toInitializer)
    (apart : t.inner.Leaves fun w => w.histories t.key) {q : Request} {w : World σ}
    (passed : (c.initializer ⟨q, none⟩ w).verdict = .ok ()) :
    t.Installed (c.initializer ⟨q, none⟩ w).subject := by
  rw [installed] at passed ⊢
  cases verdict : (t.inner ⟨q, none⟩ w).verdict with
  | error e =>
    rw [toInitializer_of_error verdict, verdict] at passed
    cases passed
  | ok _ =>
    rw [toInitializer_of_ok verdict]
    exact ⟨_, rfl, apart.installed q w⟩

/-- What the history held before stays in front of what is handed over. -/
theorem keeps_records (installed : c.initializer = t.toInitializer)
    (apart : t.inner.Leaves fun w => w.histories t.key) (before : List Record) :
    c.Keeps t.Installed fun w wire =>
      (t.history w).records = before ++ wire.map Record.ofRequest where
  starts records := by rwa [history_initializer installed apart]
  builds passed := installed_initializer installed apart passed
  attempt built records := by
    rw [built.records_attempt c, records, List.map_append, List.append_assoc]

theorem inner_leaves (apart : ∀ d ∈ t.delegate, d.Leaves fun w => w.histories t.key) :
    t.inner.Leaves fun w => w.histories t.key := by
  unfold inner
  cases given : t.delegate with
  | none => exact ⟨fun _ _ => rfl, fun _ _ i none => absurd none (Option.not_mem_none i)⟩
  | some d => exact apart d given

/-- Over any client whose transport keeps what it is handed, the history holds what has been kept since
the last reset. -/
theorem history_eq_kept {kept : σ → List Request}
    (keeps : ∀ before records, c.Keeps built fun w wire => kept w.own = before ++ wire ∧
      (t.history w).records = records ++ wire.map Record.ofRequest)
    {w : World σ} (fresh : t.history w = .empty) (calls : List Call) :
    let s := t.performAll c ⟨[], w⟩ calls
    let forgotten := t.performAll c ⟨[], w⟩ (untilReset calls)
    ∃ sent, kept s.world.own = kept forgotten.world.own ++ sent ∧
      (t.history s.world).records = sent.map Record.ofRequest := by
  -- by the last call: a reset begins anew, and all others go on from where the last reset left off
  induction calls using List.reverseRecOn with
  | nil => exact ⟨[], (List.append_nil _).symm, congrArg History.records fresh⟩
  | append_singleton calls call ih =>
    obtain ⟨sent, still, logged⟩ := ih
    cases resets : call.isReset with
    | true =>
      obtain rfl := Call.eq_reset resets
      rw [untilReset_reset, performAll_concat]
      exact ⟨[], (List.append_nil _).symm, by simp [perform, reset, history, History.empty]⟩
    | false =>
      let s := t.performAll c ⟨[], w⟩ calls
      have ready : s.Ready built := ready_performAll (keeps [] []).trivial (Session.ready_nil w) calls
      have start : kept s.world.own = kept s.world.own ++ [] ∧
          (t.history s.world).records = (t.history s.world).records ++ [].map Record.ofRequest := by
        simp
      obtain ⟨wire, handed, grown⟩ := (perform_keeps (keeps _ _) ready start call).2 resets
      rw [untilReset_concat calls resets, performAll_concat]
      refine ⟨sent ++ wire, ?_, ?_⟩
      · rw [handed, still, List.append_assoc]
      · rw [grown, logged, List.map_append]

/-- What the transport has been handed in the calls of a session that begins in the world. -/
def transported (t : Tracker σ) (c : Client σ) (w : World σ) (calls : List Call) : List Request :=
  handed (t.watched.performAll c.watched ⟨[], w.watched []⟩ calls).world.own.2

/-- At every point of every session the history holds a record of each request that the transport has been
handed since the last reset, as it was handed over, and the lines are numbered from there. An attempt adds
what it hands over, and nothing when a hook fails. Queries change nothing. Nor does the watching by which
the requests are known. -/
theorem history_eq_transported (installed : c.initializer = t.toInitializer)
    (apart : ∀ d ∈ t.delegate, d.Leaves fun w => w.histories t.key) {w : World σ}
    (fresh : t.history w = .empty) (calls : List Call) :
    let s := t.performAll c ⟨[], w⟩ calls
    let o := t.watched.performAll c.watched ⟨[], w.watched []⟩ calls
    (o.world.unwatched = s.world ∧ o.tasks.map Client.Task.result? = s.tasks.map Client.Task.result?) ∧
      (∃ sent, t.transported c w calls = t.transported c w (untilReset calls) ++ sent ∧
        t.perform c s (.query .records) = (some (.records (sent.map Record.ofRequest)), s) ∧
        t.perform c s (.query .lines) = (some (.lines (render (sent.map Record.ofRequest))), s)) ∧
      (∀ i p n, s.tasks[i]? = some (.ready p n) →
        let attempt := calls ++ [.move (.step i)]
        t.transported c w attempt = t.transported c w calls ++ (p.handed? s.world).toList ∧
          (t.history (t.performAll c ⟨[], w⟩ attempt).world).records =
            (t.history s.world).records ++ (p.handed? s.world).toList.map Record.ofRequest) ∧
      (∀ q, (t.perform c s (.query q)).2 = s) ∧
      t.performAll c ⟨[], w⟩ (calls.filter (!·.isQuery)) = s := by
  intro s o
  have leaves := inner_leaves apart
  have watches : s.WatchedBy o := performAll_watched t c ⟨.nil, rfl⟩ calls
  have same : t.watched.history o.world = t.history s.world := congrArg t.history watches.world
  obtain ⟨sent, handed, logged⟩ :=
    @history_eq_kept _ t.watched c.watched _ (fun own => handed own.2)
      (fun before records => (keeps_records installed leaves records).watched before) (w.watched [])
      fresh calls
  have logged : (t.history s.world).records = sent.map Record.ofRequest := same ▸ logged
  have ready : s.Ready t.Installed :=
    ready_performAll (keeps_records installed leaves []).trivial (Session.ready_nil w) calls
  refine ⟨⟨watches.world, Task.Matches.map_result? watches.tasks⟩, ⟨sent, handed, ?_, ?_⟩,
    fun i p n found => ⟨?_, ?_⟩, fun q => ?_, performAll_filter t c _ calls⟩
  · rw [perform_query, ask, logged]
  · rw [perform_query, ask, lines, History.lines, logged]
  · rw [transported, performAll_concat]
    exact handed_perform_ready t c watches found
  · rw [performAll_concat, world_perform_ready t c found]
    exact (ready _ (List.mem_of_getElem? found) p rfl).records_attempt c n s.world
  · rw [perform_query]

/-- Of three attempts the first fails before it is handed over and the second is forgotten. After them the
request is sent once more, and its first attempt fails again. -/
theorem history_eq_transported_unsteady :
    let t : Tracker Script.Stage := ⟨0, some Script.unsteady⟩
    let c : Client Script.Stage := ⟨t.toInitializer, Script.lossy, 3, .zero⟩
    let q : Request := { method := "GET", uri := .authorityOnly "host".toList }
    let handed := { q with method := "PUT", headers := ⟨[⟨"x-stamp", [[0x31]]⟩]⟩ }
    let calls : List Call := .move (.send [q]) :: List.replicate 4 (.move (.step 0)) ++
      [.query .lines, .reset] ++ List.replicate 3 (.move (.step 0)) ++ [.sendOut (.alone q), .query .json]
    let s := t.performAll c ⟨[], Script.opening⟩ calls
    t.transported c Script.opening (untilReset calls) = [handed] ∧
      t.transported c Script.opening calls = [handed, handed, handed] ∧
      t.perform c s (.query .records) = (some (.records ([handed, handed].map Record.ofRequest)), s) ∧
      t.perform c s (.query .lines) =
        (some (.lines (render ([handed, handed].map Record.ofRequest))), s) ∧
      t.performAll c ⟨[], Script.opening⟩ (calls.filter (!·.isQuery)) = s := by
  intro t c q handed calls s
  have apart : ∀ d ∈ t.delegate, d.Leaves fun w => w.histories t.key := by
    intro d given
    obtain rfl := Option.some.inj given
    exact (Script.initializer_unaware _ _ _ _).leaves
  have before : t.transported c Script.opening (untilReset calls) = [handed] := by decide +kernel
  have whole : t.transported c Script.opening calls = [handed, handed, handed] := by decide +kernel
  obtain ⟨_, ⟨sent, grown, records, lines⟩, _, _, filtered⟩ :=
    history_eq_transported (c := c) (w := Script.opening) rfl apart rfl calls
  rw [whole, before] at grown
  obtain rfl : [handed, handed] = sent := (List.cons.inj grown).2
  exact ⟨before, whole, records, lines, filtered⟩

end Tracker

end RequestTrail
