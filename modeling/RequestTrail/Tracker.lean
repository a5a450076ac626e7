import RequestTrail.Hook

/-!
# Trackers

A tracker is an initializer that installs a recording interceptor after whatever interceptor is
there already. Its delegate runs before it does, so a record shows the request as the transport
gets it. A hook that fails before the recording leaves no record. What was recorded can be asked for
in several forms at any time.
-/
namespace RequestTrail

open Http

structure Tracker (σ : Type) where
  key : Nat
  delegate : Option (Initializer σ) := none

namespace Tracker

variable {σ : Type}

/-- Appends the request to the history under the key and changes nothing else. -/
def recording (key : Nat) : Interceptor σ := fun q w =>
  ⟨.ok (), q, w.record key (.ofRequest q)⟩

def after (previous : Option (Interceptor σ)) (key : Nat) : Interceptor σ :=
  match previous with
  | none => recording key
  | some p => p.andThen (recording key)

def install (key : Nat) : Initializer σ := fun p w =>
  ⟨.ok (), { p with interceptor := some (after p.interceptor key) }, w⟩

def toInitializer (t : Tracker σ) : Initializer σ :=
  match t.delegate with
  | none => install t.key
  | some d => d.andThen (install t.key)

def history (t : Tracker σ) (w : World σ) : History := w.histories t.key

def lines (t : Tracker σ) (w : World σ) : List String := (t.history w).lines

def reset (t : Tracker σ) (w : World σ) : World σ := w.setHistory t.key .empty

def describe (t : Tracker σ) (w : World σ) : String :=
  "TrackingInitializer \x7b has_delegate: " ++ (if t.delegate.isSome then "true" else "false") ++
    ", recorded: " ++ toString (t.history w).size ++ " \x7d"

/-- What a tracker can be asked for. -/
inductive Query where
  | records
  | lines
  | json
  | description

inductive Reading where
  | records (taken : List Record)
  | lines (texts : List String)
  | text (s : String)
deriving DecidableEq

/-- Answers a query, and gives back the world as it is afterwards. -/
def ask (t : Tracker σ) (w : World σ) : Query → Reading × World σ
  | .records => (.records (t.history w).records, w)
  | .lines => (.lines (t.lines w), w)
  | .json => (.text (t.history w).toJson, w)
  | .description => (.text (t.describe w), w)

end Tracker

end RequestTrail
