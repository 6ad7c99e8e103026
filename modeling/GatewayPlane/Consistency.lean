import GatewayPlane.Fault
import GatewayPlane.NodeId
import GatewayPlane.Snapshot
import GatewayPlane.Text.Order

/-!
# Consistency

Resources may only refer to resources that come with them, and may not stand in each
other's way: a domain belongs to one virtual host of a configuration, and an address to
one listener.
-/
namespace GatewayPlane

/-- Why resources do not fit together. -/
inductive Conflict where
  | sharedDomain (domain first second routes : String)
  | missingCluster (route routes cluster : String)
  | sharedAddress (first second : String) (address : HostPort)
  | undecodable (listener typeUrl : String)
  | missingRoutes (listener routes : String)
  deriving DecidableEq, Repr

namespace Conflict

def fault (node : NodeId) : Conflict → Fault
  | sharedDomain domain first second routes =>
    .consistency node s!"domain {domain} claimed by virtual hosts {first} and {second} in {routes}"
  | missingCluster route routes cluster =>
    .consistency node s!"route {route} in {routes} targets missing cluster {cluster}"
  | sharedAddress first second address =>
    .consistency node
      s!"listeners {first} and {second} both bind {address.host}:{address.port.toNat}"
  | undecodable listener typeUrl =>
    .encoding typeUrl s!"listener {listener} on node {node}: <decode error>"
  | missingRoutes listener routes =>
    .consistency node s!"listener {listener} references missing route configuration {routes}"

end Conflict

namespace RouteConfiguration

/-- Checks virtual hosts against the domains that earlier ones claimed, and their routes
against the clusters that there are. -/
def checkHosts (clusters : List String) (routes : String) (claimed : List (String × String)) :
    List VirtualHost → Except Conflict Unit
  | [] => return ()
  | v :: rest => do
    let domains := Text.sortedDistinct v.domains
    for domain in domains do
      if let some other := claimed.lookup domain then
        throw (.sharedDomain domain other v.name routes)
    for route in v.routes do
      let targets := (route.target?.map RouteTarget.clusterNames).getD []
      if let some missing := targets.find? fun c => !clusters.contains c then
        throw (.missingCluster route.name routes missing)
    checkHosts clusters routes (domains.map (fun domain => (domain, v.name)) ++ claimed) rest

def check (clusters : List String) (c : RouteConfiguration) : Except Conflict Unit :=
  checkHosts clusters c.name [] c.virtualHosts

end RouteConfiguration

namespace Listener

def address? (l : Listener) : Option HostPort := l.address.bind Address.hostPort?

/-- The configurations of its filters whose type is that of a connection manager. -/
def managerConfigs (l : Listener) : List TypedConfig :=
  (l.filterChains.flatMap fun chain => chain.filters.filterMap Extension.config).filter fun c =>
    c.typeUrl == TypeUrl.connectionManager

def connectionManagers (l : Listener) : Except Conflict (List ConnectionManager) :=
  l.managerConfigs.mapM fun c =>
    match ConnectionManager.decode? c.value with
    | some m => .ok m
    | none => .error (.undecodable l.name c.typeUrl)

/-- Checks where the requests of a listener are routed. -/
def checkRoutes (clusters routes : List String) (l : Listener) : Except Conflict Unit := do
  let managers ← l.connectionManagers
  for m in managers do
    match m.routes with
    | some (.discovered name _) =>
      if !routes.contains name then throw (.missingRoutes l.name name)
    | some (.inline c) => c.check clusters
    | none => pure ()

end Listener

namespace Bundle

/-- Checks listeners against the addresses that earlier ones bound. -/
def checkListeners (clusters routes : List String) (bound : List (HostPort × String)) :
    List Listener → Except Conflict Unit
  | [] => return ()
  | l :: rest => do
    let bound ← match l.address? with
      | none => pure bound
      | some address =>
        match bound.lookup address with
        | some other => throw (.sharedAddress other l.name address)
        | none => pure ((address, l.name) :: bound)
    l.checkRoutes clusters routes
    checkListeners clusters routes bound rest

/-- The first conflict among the resources, route configurations before listeners. -/
def checkConflicts (b : Bundle) : Except Conflict Unit := do
  for c in b.routes do c.check b.clusterNames
  checkListeners b.clusterNames (b.routes.map (·.name)) [] b.listeners

/-- Whether the resources fit together on a node. -/
def check (node : NodeId) (b : Bundle) : Except Fault Unit :=
  b.checkConflicts.mapError (Conflict.fault node)

end Bundle

def Snapshot.check (node : NodeId) (s : Snapshot) : Except Fault Unit := s.toBundle.check node

end GatewayPlane
