import RequestTrail.Network
import RequestTrail.Script
import RequestTrail.Tracker

/-!
# Rehearsals

A cast of trackers and clients over scripted parts, and a list of steps played one after another.
Every step answers with what it found and with the events that were logged during it.
-/
namespace RequestTrail.Rehearsal

open Http Script

/-- An initializer by the number of an earlier tracker, or by its script. -/
inductive Role where
  | tracker (index : Nat)
  | scripted (id : String) (actions : List PendingAction)

inductive Line where
  | network
  | scripted (outcomes : List Outcome) (pauses : Nat)

structure ClientPart where
  role : Role
  line : Line
  retries : Nat := 0
  delay : Duration := .zero

structure Cast where
  trackers : List (Option Role)
  clients : List ClientPart

inductive Step where
  | send (client : Nat) (draft : Draft)
  | sendAll (client : Nat) (drafts : List Draft)
  | prepare (id : String) (draft : Draft) (interceptor : Option Part)
  | setUp (id : String) (role : Role)
  | inspect (id : String)
  | execute (id : String) (times : Nat)
  | lines (tracker : Nat)
  | records (tracker : Nat)
  | toJson (tracker : Nat)
  | reset (tracker : Nat)
  | describe (tracker : Nat)

inductive Finding where
  | nothing
  | refused (r : Refusal)
  | answer (result : Except Fault Response)
  | answers (results : List (Except Fault Response))
  | verdict (v : Except Fault Unit)
  | pending (p : Pending Stage)
  | executed (verdicts : List (Option (Except Fault Unit))) (final : Request)
  | lines (texts : List String)
  | records (records : List Record)
  | text (s : String)

def Finding.ofReading : Tracker.Reading → Finding
  | .records taken => .records taken
  | .lines texts => .lines texts
  | .text s => .text s

structure State where
  world : World Stage := ⟨fun _ => .empty, {}⟩
  trackers : List (Tracker Stage) := []
  clients : List (Client Stage) := []
  pendings : List (String × Pending Stage) := []

namespace State

def withOwn (s : State) (own : Stage) : State := { s with world := { s.world with own } }

/-- The initializer of a role. A scripted one is new each time, with its own counter. -/
def initializer? (s : State) : Role → Option (Initializer Stage × State)
  | .tracker index => do return ((← s.trackers[index]?).toInitializer, s)
  | .scripted id actions =>
    let (counter, own) := s.world.own.newCounter
    some (Script.initializer id actions counter, s.withOwn own)

def addTracker (s : State) (delegate : Option Role) : Option State := do
  let key := s.trackers.length
  match delegate with
  | none => return { s with trackers := s.trackers ++ [⟨key, none⟩] }
  | some role =>
    let (d, s) ← s.initializer? role
    return { s with trackers := s.trackers ++ [⟨key, some d⟩] }

def addClient (s : State) (c : ClientPart) : Option State := do
  let (initializer, s) ← s.initializer? c.role
  let (transport, s) := match c.line with
    | .network => (network, s)
    | .scripted outcomes pauses =>
      let (counter, own) := s.world.own.newCounter
      (Script.transport outcomes pauses counter, s.withOwn own)
  return { s with clients := s.clients ++ [⟨initializer, transport, c.retries, c.delay⟩] }

def ofCast (cast : Cast) : Option State := do
  let s ← cast.trackers.foldlM addTracker {}
  cast.clients.foldlM addClient s

def pending? (s : State) (id : String) : Option (Pending Stage) :=
  (s.pendings.find? (·.1 = id)).map (·.2)

def dropPending (s : State) (id : String) : State :=
  { s with pendings := s.pendings.filter (·.1 ≠ id) }

def setPending (s : State) (id : String) (p : Pending Stage) : State :=
  { s.dropPending id with pendings := (id, p) :: (s.dropPending id).pendings }

/-- Asks one of the trackers. -/
def ask? (s : State) (tracker : Nat) (q : Tracker.Query) : Option (Finding × State) := do
  let (reading, world) := (← s.trackers[tracker]?).ask s.world q
  return (.ofReading reading, { s with world })

end State

/-- Runs the installed interceptor so many times on one request, whose changes add up. -/
def runInterceptor (interceptor : Option (Interceptor Stage)) :
    (times : Nat) → Request → World Stage →
      List (Option (Except Fault Unit)) × Request × World Stage
  | 0, q, w => ([], q, w)
  | times + 1, q, w =>
    match interceptor with
    | none =>
      let (verdicts, q, w) := runInterceptor interceptor times q w
      (none :: verdicts, q, w)
    | some i =>
      let r := i q w
      let (verdicts, q, w) := runInterceptor interceptor times r.subject r.world
      (some r.verdict :: verdicts, q, w)

/-- Plays one step, if it names only what there is. -/
def play (s : State) : Step → Option (Finding × State)
  | .send client draft => do
    let c ← s.clients[client]?
    match Request.ofDraft draft with
    | .error r => return (.refused r, s)
    | .ok q =>
      let (result, world) := c.send q s.world
      return (.answer result, { s with world })
  | .sendAll client drafts => do
    let c ← s.clients[client]?
    match drafts.mapM Request.ofDraft with
    | .error r => return (.refused r, s)
    | .ok qs =>
      let (results, world) := c.sendAll qs s.world
      return (.answers results, { s with world })
  | .prepare id draft interceptor =>
    match Request.ofDraft draft with
    | .error r => some (.refused r, s)
    | .ok q => match interceptor with
      | none => some (.nothing, s.setPending id ⟨q, none⟩)
      | some part =>
        let (p, world) := intercept part false ⟨q, none⟩ s.world
        some (.nothing, { s with world }.setPending id p)
  | .setUp id role => do
    let p ← s.pending? id
    let (initializer, s) ← s.initializer? role
    let r : Ran (Pending Stage) Stage := initializer p s.world
    return (.verdict r.verdict, { s with world := r.world }.setPending id r.subject)
  | .inspect id => do return (.pending (← s.pending? id), s)
  | .execute id times => do
    let p ← s.pending? id
    let (verdicts, q, world) := runInterceptor p.interceptor times p.request s.world
    return (.executed verdicts q, { s with world }.dropPending id)
  | .lines tracker => s.ask? tracker .lines
  | .records tracker => s.ask? tracker .records
  | .toJson tracker => s.ask? tracker .json
  | .reset tracker => do
    return (.nothing, { s with world := (← s.trackers[tracker]?).reset s.world })
  | .describe tracker => s.ask? tracker .description

/-- Plays all steps. Each finding stands with the events of its step. -/
def playAll : List Step → State → Option (List (Finding × List Event))
  | [], _ => some []
  | step :: more, s => do
    let (finding, s) ← play s step
    let events := s.world.own.events
    return (finding, events) :: (← playAll more (s.withOwn { s.world.own with events := [] }))

def perform (cast : Cast) (steps : List Step) : Option (List (Finding × List Event)) := do
  playAll steps (← State.ofCast cast)

end RequestTrail.Rehearsal
