import GatewayPlane.Cache.Basic
import GatewayPlane.Stream.Context
import GatewayPlane.Stream.Subscriptions

/-!
# Sessions

One stream between a gateway node and its control plane. The first request says which node
it is; from then on the session answers requests from the newest snapshot of that node that
it knows of, and sends each newer one as it comes.
-/
namespace GatewayPlane

/-- Why a session ends. -/
inductive SessionEnd where
  /-- The client has no more requests. -/
  | finished
  /-- The client cannot be reached, or sent something that is no request. -/
  | lost
  | unnamed
  | nodeRemoved
  | shuttingDown
  deriving DecidableEq, Repr

/-- What the client is told of the end. -/
def SessionEnd.status? : SessionEnd → Option Status
  | finished | lost => none
  | unnamed => some ⟨.invalidArgument, "first request must carry node.id"⟩
  | nodeRemoved => some ⟨.unavailable, "node removed from control plane"⟩
  | shuttingDown => some Fault.shutdown.status

structure Session where
  context : StreamContext := {}
  subscriptions : Subscriptions := {}
  /-- The watch of the node, once it is known. -/
  watch : Option Nat := none
  current : Option Snapshot := none
  deriving Inhabited

namespace Session

/-- A session whose responses are told apart from those of others by its number. -/
def numbered (n : Nat) : Session := { subscriptions := { nonces := { stream := n } } }

/-- Answers a request of the node from the current snapshot. -/
def answer (s : Session) (r : DiscoveryRequest) : Option DiscoveryResponse × Session :=
  let context := s.context.countRequest
  match s.subscriptions.receive? r s.current with
  | none => (none, { s with context := context })
  | some (response, subscriptions) =>
    (response, { s with context := context.advance .subscribed, subscriptions := subscriptions })

/-- Begins to watch the node that a first request names. -/
def identify (s : Session) (c : Cache) (node : NodeId) : Session × Cache :=
  let (id, c) := c.watch node
  let (current, watches) := c.watches.latest id
  ({ s with context := s.context.identify node, watch := some id, current := current },
    { c with watches := watches })

/-- Whether a request names another node than the one that the session is for. -/
def isForeign (s : Session) (r : DiscoveryRequest) : Bool :=
  !r.node.isEmpty && s.context.node != some r.node

/-- Takes a request. One that names another node changes nothing. -/
def receive (s : Session) (c : Cache) (r : DiscoveryRequest) :
    Except SessionEnd (Option DiscoveryResponse × Session) × Cache :=
  match s.watch with
  | none =>
    if r.node.isEmpty then (.error .unnamed, c)
    else
      let (s, c) := s.identify c r.node
      (.ok (s.answer r), c)
  | some _ => if s.isForeign r then (.ok (none, s), c) else (.ok (s.answer r), c)

/-- Sends a newer snapshot. -/
def push (s : Session) (snapshot : Snapshot) : List DiscoveryResponse × Session :=
  let (responses, subscriptions) := s.subscriptions.push snapshot
  (responses, { s with subscriptions := subscriptions, current := some snapshot })

/-- Looks for a newer snapshot of the node, and sends it; nothing when there is none. -/
def wake (s : Session) (c : Cache) :
    Option (Except SessionEnd (List DiscoveryResponse × Session) × Cache) := do
  let (poll, watches) := c.watches.poll (← s.watch)
  let c := { c with watches := watches }
  match poll with
  | .snapshot snapshot => some (.ok (s.push snapshot), c)
  | .closed => some (.error .nodeRemoved, c)
  | .pending => none

/-- Stops watching. -/
def leave (s : Session) (c : Cache) : Cache :=
  match s.watch with
  | none => c
  | some id => { c with watches := c.watches.drop id }

def countResponse (s : Session) : Session := { s with context := s.context.countResponse }

def close (s : Session) : Session := { s with context := s.context.advance .closed }

end Session

end GatewayPlane
