import RequestTrail.Proofs.Client.Unshared
import RequestTrail.Proofs.Hook
import RequestTrail.Script

/-! Scripted hooks have no hold of any history, and each interceptor counts on a counter of its own. -/
namespace RequestTrail.Script

open Http

variable {key : Nat}

theorem interceptor_unaware (part : Part) (counter key : Nat) :
    (interceptor part counter).Unaware key := by
  intro q w h
  rfl

/-- Installing a scripted interceptor keeps the request unaware of the history. -/
theorem intercept_setHistory (part : Part) (chained : Bool) {p : Pending Stage}
    (unaware : p.Unaware key) (w : World Stage) (h : History) :
    intercept part chained p (w.setHistory key h) =
        ((intercept part chained p w).1, (intercept part chained p w).2.setHistory key h) ∧
      (intercept part chained p w).1.Unaware key := by
  refine ⟨rfl, fun i installed => ?_⟩
  obtain rfl := Option.some.inj installed
  split
  · next previous present => exact (unaware previous present).andThen (interceptor_unaware part _ key)
  · exact interceptor_unaware part _ key

theorem performOnPending_setHistory (call : Nat) (actions : List PendingAction)
    {p : Pending Stage} (unaware : p.Unaware key) (w : World Stage) (h : History) :
    performOnPending call actions p (w.setHistory key h) =
        (performOnPending call actions p w).setHistory key h ∧
      (performOnPending call actions p w).subject.Unaware key := by
  induction actions generalizing p w with
  | nil => exact ⟨rfl, unaware⟩
  | cons action more ih =>
    cases action with
    | header edit =>
      let request := { p.request with headers := edit.apply p.request.headers }
      have edited : Pending.Unaware key { p with request } := unaware
      exact ih edited w
    | intercept part chained =>
      obtain ⟨same, still⟩ := intercept_setHistory part chained unaware w h
      simp only [performOnPending, same]
      exact ih still _
    | fail f =>
      simp only [performOnPending]
      split
      · exact ⟨rfl, unaware⟩
      · exact ih unaware w

theorem performOnPending_unaware (call : Nat) (actions : List PendingAction) (key : Nat) :
    Initializer.Unaware key (performOnPending call actions) := by
  have bare (q : Request) : Pending.Unaware (σ := Stage) key ⟨q, none⟩ :=
    fun i none => absurd none (Option.not_mem_none i)
  exact ⟨fun q w h => (performOnPending_setHistory call actions (bare q) w h).1,
    fun q w i installed => (performOnPending_setHistory call actions (bare q) w .empty).2 i installed⟩

theorem initializer_unaware (id : String) (actions : List PendingAction) (counter key : Nat) :
    (initializer id actions counter).Unaware key := by
  have run (w : World Stage) := performOnPending_unaware (w.own.count counter).1 actions key
  let noted (q : Request) (w : World Stage) : World Stage :=
    { w with own := (w.own.count counter).2.log (.initializer id (w.own.count counter).1 q) }
  exact ⟨fun q w h => (run w).run q (noted q w) h,
    fun q w i installed => (run w).installed q (noted q w) i installed⟩

/-- How often the part with the counter has been run. -/
def Stage.runs (s : Stage) (counter : Nat) : Nat := s.counters[counter]?.getD 0

theorem Stage.count_fst {s : Stage} {k : Nat} (live : k < s.counters.length) :
    (s.count k).1 = s.runs k + 1 := by
  simp [count, runs, live]

theorem Stage.runs_count {s : Stage} {k : Nat} (live : k < s.counters.length) :
    (s.count k).2.runs k = s.runs k + 1 := by
  simp [count, runs, live]

theorem Stage.runs_count_of_ne {s : Stage} {k other : Nat} (apart : other ≠ k) :
    (s.count k).2.runs other = s.runs other := by
  simp [count, runs, apart.symm]

theorem Stage.length_count (s : Stage) (k : Nat) :
    (s.count k).2.counters.length = s.counters.length := by
  simp [count]

theorem Stage.length_newCounter (s : Stage) :
    s.newCounter.2.counters.length = s.counters.length + 1 :=
  List.length_append

theorem Stage.runs_of_newCounter (s : Stage) : s.newCounter.2.runs s.counters.length = 0 := by
  simp [newCounter, runs]

theorem Stage.runs_newCounter {s : Stage} {k : Nat} (live : k < s.counters.length) :
    s.newCounter.2.runs k = s.runs k := by
  simp [newCounter, runs, List.getElem?_append_left live]

/-- Every counter is a place of its own. -/
def counterCells : Cells Stage Nat := ⟨Nat, Stage.runs, fun s k => k < s.counters.length⟩

/-- What a scripted interceptor makes of its request after so many runs. -/
def act (part : Part) (q : Request) : Act Nat := fun runs =>
  let (verdict, q) := performOnRequest (runs + 1) part.actions q
  (verdict.map fun _ => q, runs + 1)

theorem interceptor_private (part : Part) (counter : Nat) (q : Request) :
    Pending.Private counterCells counter (act part q) ⟨q, some (interceptor part counter)⟩ where
  result w live := by
    simp only [Pending.prepare, Option.getD_some, interceptor, Ran.result, act,
      Stage.count_fst live]
    rfl
  state w live :=
    ⟨Nat.lt_of_lt_of_eq live (Stage.length_count w.own counter).symm, Stage.runs_count live⟩
  others w _ other apart live :=
    ⟨Nat.lt_of_lt_of_eq live (Stage.length_count w.own counter).symm, Stage.runs_count_of_ne apart⟩

/-- A scripted interceptor has a counter that was not there before it was installed. -/
theorem intercept_unshared (call : Nat) (part : Part) :
    Initializer.Unshared counterCells (fun q => .ok (act part q, 0))
      (performOnPending call [.intercept part false]) where
  verdict q w := rfl
  keeps q w k live :=
    ⟨Nat.lt_of_lt_of_eq (Nat.lt_succ_of_lt live) (Stage.length_newCounter w.own).symm,
      Stage.runs_newCounter live⟩
  opens := by
    rintro q _ _ ⟨⟩ w used inUse
    refine ⟨w.own.counters.length, fun m => absurd (inUse _ m) (Nat.lt_irrefl _), ?_, ?_,
      interceptor_private part _ q⟩
    · exact Nat.lt_of_lt_of_eq (Nat.lt_succ_self _) (Stage.length_newCounter w.own).symm
    · exact Stage.runs_of_newCounter w.own

/-- Stamps every request, and installs an interceptor whose first run fails. -/
def unsteady : Initializer Stage :=
  initializer "d" [.header (.insert "x-stamp" [0x31]),
    .intercept ⟨"i", [.fail ⟨⟨.transport, "no key"⟩, [1]⟩, .setMethod "PUT"]⟩ false] 0

/-- Loses the first request that it is handed. -/
def lossy : Transport Stage := transport [{ result := .error ⟨.transport, "lost"⟩ }] 0 1

/-- Installs an interceptor whose first run fails on each request. -/
def unready : Initializer Stage :=
  performOnPending 1 [.intercept ⟨"i", [.fail ⟨⟨.transport, "no key"⟩, [1]⟩, .setMethod "PUT"]⟩ false]

/-- Loses every second attempt, whatever the request. -/
def losesSecond (attempt : Nat) (_ : Request) : Except Fault Response :=
  if attempt = 2 then .error ⟨.transport, "lost"⟩ else .ok ⟨200, []⟩

/-- A world in which only the two parts above have counters. -/
def opening : World Stage := ⟨fun _ => .empty, { counters := [0, 0] }⟩

end RequestTrail.Script
