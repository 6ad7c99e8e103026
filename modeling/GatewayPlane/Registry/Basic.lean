import GatewayPlane.Cache.Basic
import GatewayPlane.Registry.Composition

/-!
# The registry of nodes

Which nodes there are, what is deployed on each, and the snapshots published for them. An
operation that fails changes nothing that a node can see.
-/
namespace GatewayPlane

/-- What is known of one node. -/
structure NodeEntry where
  listenerPort : Option UInt16 := none
  base : Bundle := {}
  contributions : List Contribution := []
  deriving DecidableEq, Repr, Inhabited

/-- The snapshots that are published, and the highest version ever published for each
node, which outlives the node. -/
structure Publications where
  cache : Cache := {}
  versions : NameMap Version := ∅
  deriving Inhabited

namespace Publications

def highest : Option Version → Option Version → Option Version
  | some a, some b => some (if a < b then b else a)
  | some a, none => some a
  | none, b => b

/-- A version above every one published for the node and above the one that is held. -/
def nextVersion (p : Publications) (node : NodeId) : Version × Publications :=
  let (held, cache) := p.cache.get node
  let last := highest (p.versions.get? node) (held.map (·.version))
  ((last.map Version.next).getD .initial, { p with cache := cache })

/-- Publishes what a base and contributions amount to, if it is consistent. -/
def publish (p : Publications) (node : NodeId) (base : Bundle)
    (contributions : List Contribution) : Except Fault Version × Publications :=
  match composeChecked node base contributions with
  | .error f => (.error f, { p with cache := p.cache.recordRejection })
  | .ok resources =>
    let (v, p) := p.nextVersion node
    match p.cache.set node (.ofBundle v resources) with
    | (.error f, cache) => (.error f, { p with cache := cache })
    | (.ok _, cache) => (.ok v, { cache := cache, versions := p.versions.insert node v })

end Publications

/-- The base of a node with a shared listener: the listener, and its route configuration,
still empty. -/
def sharedBase (port : UInt16) : Bundle where
  listeners := [.routed sharedListenerName sharedRoutesName port]
  routes := [⟨sharedRoutesName, []⟩]

namespace NodeEntry

/-- Whether nothing is known of the node. -/
def isBare (e : NodeEntry) : Bool := e.base.isEmpty && e.contributions.isEmpty

/-- The result of an operation on a node, with what is known and published after it. -/
abbrev Outcome (α : Type) := Except Fault α × NodeEntry × Publications

/-- Gives the node a shared listener; nothing is published when it has it already. -/
def listen (e : NodeEntry) (p : Publications) (node : NodeId) (port : UInt16) :
    Outcome Version :=
  let (held, p) :=
    if e.listenerPort = some port then
      let (held, cache) := p.cache.get node
      (held, { p with cache := cache })
    else (none, p)
  match held with
  | some s => (.ok s.version, e, p)
  | none =>
    match p.publish node (sharedBase port) e.contributions with
    | (.error f, p) => (.error f, e, p)
    | (.ok v, p) => (.ok v, { e with base := sharedBase port, listenerPort := some port }, p)

/-- Puts a contribution in place of the one of its deployment, or after all others. -/
def replace (c : Contribution) : List Contribution → List Contribution
  | [] => [c]
  | d :: rest => if d.deploymentId = c.deploymentId then c :: rest else d :: replace c rest

/-- Another deployment of the same version of the same API. -/
def clash? (e : NodeEntry) (c : Contribution) : Option Contribution :=
  e.contributions.find? fun d =>
    d.deploymentId != c.deploymentId && d.apiName == c.apiName && d.apiVersion == c.apiVersion

def deploy (e : NodeEntry) (p : Publications) (node : NodeId) (c : Contribution) :
    Outcome Version :=
  match e.clash? c with
  | some d =>
    (.error (.validation "deployment"
      s!"{c.apiName} {c.apiVersion} is already deployed on node {node} as {d.deploymentId}"), e, p)
  | none =>
    let contributions := replace c e.contributions
    match p.publish node e.base contributions with
    | (.error f, p) => (.error f, e, p)
    | (.ok v, p) => (.ok v, { e with contributions := contributions }, p)

end NodeEntry

structure DeploymentSummary where
  deploymentId : String
  apiName : String
  apiVersion : String
  resourceCount : Nat
  deriving DecidableEq, Repr

def NodeEntry.summaries (e : NodeEntry) : List DeploymentSummary :=
  e.contributions.map fun c => ⟨c.deploymentId, c.apiName, c.apiVersion, c.resources.size⟩

structure Registry where
  nodes : NameMap NodeEntry := ∅
  published : Publications := {}
  deriving Inhabited

namespace Registry

def cache (r : Registry) : Cache := r.published.cache

/-- Works on what is known of a node. A node of which nothing is known after a failure is
forgotten. -/
def onNode {α : Type} (r : Registry) (node : NodeId)
    (work : NodeEntry → Publications → NodeEntry.Outcome α) : Except Fault α × Registry :=
  let (result, e, p) := work ((r.nodes.get? node).getD {}) r.published
  match result with
  | .ok a => (.ok a, { nodes := r.nodes.insert node e, published := p })
  | .error f =>
    let nodes := if e.isBare then r.nodes.erase node else r.nodes.insert node e
    (.error f, { nodes := nodes, published := p })

def initializeNode (r : Registry) (node : NodeId) (port : UInt16) :
    Except Fault Version × Registry :=
  if port = 0 then (.error (.validation "listener_port" "must be non-zero"), r)
  else r.onNode node fun e p => e.listen p node port

def deploy (r : Registry) (node : NodeId) (c : Contribution) : Except Fault Version × Registry :=
  if c.deploymentId.isEmpty then (.error (.validation "deployment_id" "must not be empty"), r)
  else r.onNode node fun e p => e.deploy p node c

/-- Takes a deployment off a node. The last one of a node without a listener takes the
node with it, and then there is no version. -/
def undeploy (r : Registry) (node : NodeId) (deploymentId : String) :
    Except Fault (Option Version) × Registry :=
  match r.nodes.get? node with
  | none => (.error (.nodeNotFound node), r)
  | some e =>
    if e.contributions.any (·.deploymentId == deploymentId) then
      let rest := e.contributions.eraseP (·.deploymentId == deploymentId)
      if rest.isEmpty && e.base.isEmpty then
        let (_, cache) := r.cache.clear node
        (.ok none, {
          nodes := r.nodes.erase node
          published := { r.published with cache := cache } })
      else
        match r.published.publish node e.base rest with
        | (.error f, p) => (.error f, { r with published := p })
        | (.ok v, p) =>
          (.ok (some v), {
            nodes := r.nodes.insert node { e with contributions := rest }
            published := p })
    else (.error (.deploymentNotFound node deploymentId), r)

def removeNode (r : Registry) (node : NodeId) : Except Fault Unit × Registry :=
  if r.nodes.contains node then
    let (_, cache) := r.cache.removeNode node
    (.ok (), {
      nodes := r.nodes.erase node
      published := { r.published with cache := cache } })
  else (.error (.nodeNotFound node), r)

def listNodes (r : Registry) : List NodeId := r.nodes.keys

def listDeployments (r : Registry) (node : NodeId) : Except Fault (List DeploymentSummary) :=
  match r.nodes.get? node with
  | none => .error (.nodeNotFound node)
  | some e => .ok e.summaries

/-- The snapshot of a node; looking for it is counted. -/
def snapshot (r : Registry) (node : NodeId) : Option Snapshot × Registry :=
  let (s, cache) := r.cache.get node
  (s, { r with published := { r.published with cache := cache } })

/-- Works on the cache alone. -/
def onCache {α : Type} (r : Registry) (work : Cache → α × Cache) : α × Registry :=
  let (a, cache) := work r.cache
  (a, { r with published := { r.published with cache := cache } })

end Registry

end GatewayPlane
