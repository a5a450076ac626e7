import RequestTrail.Client

/-!
# Scripted hooks and transports

Hooks and transports that do what a list of actions says, count how often they have been run, and
log every run. Each has a counter of its own.
-/
namespace RequestTrail.Script

open Http

inductive Event where
  | initializer (id : String) (call : Nat) (request : Request)
  | interceptor (id : String) (call : Nat)
  | transport (call : Nat) (request : Request)

/-- A request carries no local annotations to the transport, which the line of a hand-over says at
its end. -/
def Event.line : Event → String
  | .initializer id call q =>
    "initializer " ++ id ++ " #" ++ toString call ++ " " ++ q.method ++ " " ++ q.uri.text ++
      " body=" ++ toString q.body.length
  | .interceptor id call => "interceptor " ++ id ++ " #" ++ toString call
  | .transport call q =>
    "transport #" ++ toString call ++ " " ++ q.method ++ " " ++ q.uri.text ++ " " ++
      q.version.text ++ " [" ++ q.headers.line ++ "] body=" ++ Text.hex q.body ++ " marker=false"

/-- The log of all runs, and the counters of all scripted parts. -/
structure Stage where
  events : List Event := []
  counters : List Nat := []

namespace Stage

def log (s : Stage) (e : Event) : Stage := { s with events := s.events ++ [e] }

/-- A new counter, named by its number. -/
def newCounter (s : Stage) : Nat × Stage :=
  (s.counters.length, { s with counters := s.counters ++ [0] })

/-- Counts one more run. The first run is number one. -/
def count (s : Stage) (counter : Nat) : Nat × Stage :=
  let s := { s with counters := s.counters.modify counter (· + 1) }
  (s.counters[counter]?.getD 0, s)

end Stage

inductive HeaderEdit where
  | insert (name : String) (value : Bytes)
  | append (name : String) (value : Bytes)
  | erase (name : String)

def HeaderEdit.apply (h : Headers) : HeaderEdit → Headers
  | .insert name value => h.insert name value
  | .append name value => h.append name value
  | .erase name => h.erase name

/-- A failure on some calls, or on all if none is named. -/
structure Failure where
  fault : Fault
  calls : List Nat := []

def Failure.strikes (f : Failure) (call : Nat) : Bool := f.calls.isEmpty || f.calls.contains call

/-- What a scripted interceptor does. -/
inductive RequestAction where
  | header (edit : HeaderEdit)
  | setMethod (method : String)
  | setUri (uri : Uri)
  | setBody (body : Bytes)
  | fail (f : Failure)

/-- A scripted interceptor by name and actions. -/
structure Part where
  id : String
  actions : List RequestAction

/-- What a scripted initializer does. -/
inductive PendingAction where
  | header (edit : HeaderEdit)
  | intercept (part : Part) (chained : Bool)
  | fail (f : Failure)

/-- Performs actions in order until one fails. -/
def performOnRequest (call : Nat) : List RequestAction → Request → Except Fault Unit × Request
  | [], q => (.ok (), q)
  | .header edit :: more, q =>
    performOnRequest call more { q with headers := edit.apply q.headers }
  | .setMethod method :: more, q => performOnRequest call more { q with method }
  | .setUri uri :: more, q => performOnRequest call more { q with uri }
  | .setBody body :: more, q => performOnRequest call more { q with body }
  | .fail f :: more, q =>
    if f.strikes call then (.error f.fault, q) else performOnRequest call more q

def interceptor (part : Part) (counter : Nat) : Interceptor Stage := fun q w =>
  let (call, own) := w.own.count counter
  let (verdict, q) := performOnRequest call part.actions q
  ⟨verdict, q, { w with own := own.log (.interceptor part.id call) }⟩

/-- Installs a scripted interceptor with a fresh counter, behind the present one if it is chained. -/
def intercept (part : Part) (chained : Bool) (p : Pending Stage) (w : World Stage) :
    Pending Stage × World Stage :=
  let (counter, own) := w.own.newCounter
  let mine := interceptor part counter
  let installed := match chained, p.interceptor with
    | true, some previous => previous.andThen mine
    | _, _ => mine
  ({ p with interceptor := some installed }, { w with own })

def performOnPending (call : Nat) : List PendingAction → Initializer Stage
  | [], p, w => ⟨.ok (), p, w⟩
  | .header edit :: more, p, w =>
    let request := { p.request with headers := edit.apply p.request.headers }
    performOnPending call more { p with request } w
  | .intercept part chained :: more, p, w =>
    let (p, w) := intercept part chained p w
    performOnPending call more p w
  | .fail f :: more, p, w =>
    if f.strikes call then ⟨.error f.fault, p, w⟩ else performOnPending call more p w

def initializer (id : String) (actions : List PendingAction) (counter : Nat) :
    Initializer Stage := fun p w =>
  let (call, own) := w.own.count counter
  performOnPending call actions p { w with own := own.log (.initializer id call p.request) }

/-- What a scripted transport answers to one call. -/
structure Outcome where
  result : Except Fault Response := .ok ⟨200, []⟩
  pauses : Option Nat := none

/-- Answers its calls from a list, and with an empty success after the end of the list. -/
def transport (outcomes : List Outcome) (pauses : Nat) (counter : Nat) : Transport Stage :=
  fun _ q s =>
    let (call, s) := s.count counter
    let outcome := outcomes[call - 1]?.getD {}
    (⟨outcome.result, outcome.pauses.getD pauses⟩, s.log (.transport call q))

end RequestTrail.Script
