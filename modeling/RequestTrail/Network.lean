import RequestTrail.Client

/-!
# The network before a connection

What the network transport refuses without opening a connection. Exchanges over a connection are
not modelled, so a request that is refused for nothing else is answered as one that cannot connect.
-/
namespace RequestTrail

open Http

inductive Unsendable where
  | unsupportedMethod
  | noAbsoluteUri
  | noConnection
deriving DecidableEq, Repr

namespace Unsendable

def name : Unsendable → String
  | .unsupportedMethod => "UserUnsupportedRequestMethod"
  | .noAbsoluteUri => "UserAbsoluteUriRequired"
  | .noConnection => "Connect"

def fault (u : Unsendable) : Fault := ⟨.transport, "client error (" ++ u.name ++ ")"⟩

/-- A tunnel needs HTTP/1.1 and an authority, and any other request a scheme and an authority. -/
def ofRequest (q : Request) : Unsendable :=
  let tunnel := q.method = "CONNECT"
  if tunnel ∧ q.version = .http10 then .unsupportedMethod
  else match q.uri with
    | .absolute .. => .noConnection
    | .authorityOnly _ => if tunnel then .noConnection else .noAbsoluteUri
    | .pathOnly _ => .noAbsoluteUri

end Unsendable

def network {σ : Type} : Transport σ := fun _ q s =>
  (⟨.error (Unsendable.ofRequest q).fault, 0⟩, s)

end RequestTrail
