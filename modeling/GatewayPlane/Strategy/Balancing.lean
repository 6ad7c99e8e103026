import GatewayPlane.Resource.Cluster
import GatewayPlane.Resource.Route

/-!
# Load balancing

How a cluster chooses among its hosts. Consistent hashing also needs to know what part of
a request is hashed, which its routes say.
-/
namespace GatewayPlane

/-- The policies that look at nothing but the hosts. -/
inductive HostChoice where
  | roundRobin
  | leastRequest (choiceCount : UInt32)
  | random
  deriving DecidableEq, Repr

inductive Balancing where
  | plain (choice : HostChoice)
  | consistentHash (key : HashPolicy)
  | localityAware (base : HostChoice)
  deriving DecidableEq, Repr

def defaultChoiceCount : UInt32 := 2

def minimumRingSize : UInt64 := 1024

namespace HostChoice

def name : HostChoice → String
  | roundRobin => "round-robin"
  | leastRequest _ => "least-request"
  | random => "random"

def policy : HostChoice → LbPolicy
  | roundRobin => .roundRobin
  | leastRequest _ => .leastRequest
  | random => .random

def config : HostChoice → Option LbConfig
  | leastRequest choiceCount => some (.leastRequest choiceCount)
  | _ => none

/-- Sets the policy and its settings, and drops those of another policy. -/
def apply (h : HostChoice) (c : Cluster) : Cluster :=
  { c with lbPolicy := h.policy, lbConfig := h.config }

end HostChoice

namespace Balancing

def name : Balancing → String
  | plain choice => choice.name
  | consistentHash _ => "consistent-hash"
  | localityAware _ => "locality-aware"

def apply (b : Balancing) (c : Cluster) : Cluster :=
  match b with
  | plain choice => choice.apply c
  | consistentHash _ =>
    { c with lbPolicy := .ringHash, lbConfig := some (.ringHash minimumRingSize) }
  | localityAware base => { base.apply c with localityWeighted := true }

def hashPolicies : Balancing → List HashPolicy
  | consistentHash key => [key]
  | _ => []

end Balancing

end GatewayPlane
