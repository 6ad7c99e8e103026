import GatewayPlane.NodeId

/-!
# The life of a stream

How far a stream has come, which node is at its other end, and how much has passed over
it. A stream never goes back to an earlier phase.
-/
namespace GatewayPlane

inductive StreamPhase where
  | opened | hello | subscribed | pushing | closed
  deriving DecidableEq, Repr, Inhabited

namespace StreamPhase

def all : List StreamPhase := [opened, hello, subscribed, pushing, closed]

def rank : StreamPhase → Nat
  | opened => 0
  | hello => 1
  | subscribed => 2
  | pushing => 3
  | closed => 4

def name : StreamPhase → String
  | opened => "open"
  | hello => "hello"
  | subscribed => "subscribed"
  | pushing => "pushing"
  | closed => "closed"

/-- The later of two phases. -/
def later (a b : StreamPhase) : StreamPhase := if a.rank < b.rank then b else a

end StreamPhase

structure StreamContext where
  node : Option NodeId := none
  phase : StreamPhase := .opened
  requests : Nat := 0
  responses : Nat := 0
  deriving DecidableEq, Repr, Inhabited

namespace StreamContext

def advance (c : StreamContext) (p : StreamPhase) : StreamContext :=
  { c with phase := c.phase.later p }

def identify (c : StreamContext) (node : NodeId) : StreamContext :=
  { c with node := some node }.advance .hello

def countRequest (c : StreamContext) : StreamContext := { c with requests := c.requests + 1 }

def countResponse (c : StreamContext) : StreamContext :=
  { c with responses := c.responses + 1 }.advance .pushing

end StreamContext

end GatewayPlane
