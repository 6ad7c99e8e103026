import GatewayPlane.Resource.Parts

/-!
# Route configurations

Which requests a gateway takes, by the host they name, their path and their headers, and
where it sends them.
-/
namespace GatewayPlane

inductive PathMatch where
  | startsWith (path : String)
  | exact (path : String)
  | regex (pattern : String)
  deriving DecidableEq, Repr

namespace PathMatch

def fields : PathMatch → List Wire.Field
  | startsWith path => Wire.text 1 path
  | exact path => Wire.text 2 path
  | regex pattern => Wire.message 10 (Wire.textOrDefault 2 pattern)

/-- Matches of other kinds are not told apart from none. -/
def ofFields? (fields : List Wire.Field) : Option PathMatch :=
  match Wire.chosen? [1, 2, 10, 12, 14, 15] fields with
  | some (1, run) => some (startsWith (Wire.lastText 1 run))
  | some (2, run) => some (exact (Wire.lastText 2 run))
  | some (10, run) => Wire.message? (fun f => regex (Wire.lastText 2 f)) 10 run
  | _ => none

end PathMatch

/-- A header that a request must carry, with this value if there is one. -/
structure HeaderMatch where
  name : String
  exact : Option String
  deriving DecidableEq, Repr, Inhabited

namespace HeaderMatch

def fields (h : HeaderMatch) : List Wire.Field :=
  Wire.textOrDefault 1 h.name
    ++ Wire.optional (fun s => Wire.message 13 (Wire.text 1 s)) h.exact

def exactOfFields? (fields : List Wire.Field) : Option String :=
  match Wire.chosen? [1, 2, 3, 5, 7, 8] fields with
  | some (1, run) => some (Wire.lastText 1 run)
  | _ => none

def ofFields (fields : List Wire.Field) : HeaderMatch where
  name := Wire.lastText 1 fields
  exact :=
    match Wire.chosen? [4, 6, 7, 9, 10, 11, 12, 13] fields with
    | some (13, run) => (Wire.message? exactOfFields? 13 run).join
    | _ => none

end HeaderMatch

structure RouteMatch where
  path : Option PathMatch := none
  caseSensitive : Option Bool := none
  headers : List HeaderMatch := []
  deriving DecidableEq, Repr, Inhabited

namespace RouteMatch

def fields (m : RouteMatch) : List Wire.Field :=
  Wire.optional PathMatch.fields m.path ++ Wire.optional (Wire.boxedFlag 4) m.caseSensitive
    ++ Wire.messages 6 HeaderMatch.fields m.headers

def ofFields (fields : List Wire.Field) : RouteMatch where
  path := PathMatch.ofFields? fields
  caseSensitive := Wire.boxedFlag? 4 fields
  headers := Wire.allMessages HeaderMatch.ofFields 6 fields

end RouteMatch

/-- One of the clusters that share the requests of a route, and its share. -/
structure ClusterShare where
  name : String
  weight : Option UInt32
  deriving DecidableEq, Repr, Inhabited

namespace ClusterShare

def fields (c : ClusterShare) : List Wire.Field :=
  Wire.textOrDefault 1 c.name ++ Wire.optional (fun w => Wire.boxedNumber 2 w.toNat) c.weight

def ofFields (fields : List Wire.Field) : ClusterShare :=
  ⟨Wire.lastText 1 fields, (Wire.boxedNumber? 2 fields).map Nat.toUInt32⟩

end ClusterShare

inductive ClusterSpecifier where
  | cluster (name : String)
  | header (name : String)
  | weighted (shares : List ClusterShare)
  deriving DecidableEq, Repr

namespace ClusterSpecifier

def fields : ClusterSpecifier → List Wire.Field
  | cluster name => Wire.text 1 name
  | header name => Wire.text 2 name
  | weighted shares => Wire.message 3 (Wire.messages 1 ClusterShare.fields shares)

def weightedOfFields (fields : List Wire.Field) : ClusterSpecifier :=
  weighted (Wire.allMessages ClusterShare.ofFields 1 fields)

/-- Clusters that are found in other ways are not known beforehand. -/
def ofFields? (fields : List Wire.Field) : Option ClusterSpecifier :=
  match Wire.chosen? [1, 2, 3, 37, 39] fields with
  | some (1, run) => some (cluster (Wire.lastText 1 run))
  | some (2, run) => some (header (Wire.lastText 2 run))
  | some (3, run) => Wire.message? weightedOfFields 3 run
  | _ => none

end ClusterSpecifier

/-- What a consistent hash of a request is computed from. -/
inductive HashPolicy where
  | header (name : String)
  | cookie (name : String)
  | sourceIp (isHashed : Bool)
  /-- Something else, or nothing. -/
  | other
  deriving DecidableEq, Repr

namespace HashPolicy

def fields : HashPolicy → List Wire.Field
  | header name => Wire.message 1 (Wire.textOrDefault 1 name)
  | cookie name => Wire.message 2 (Wire.textOrDefault 1 name)
  | sourceIp isHashed => Wire.boxedFlag 3 isHashed
  | other => []

def ofFields (fields : List Wire.Field) : HashPolicy :=
  let known := match Wire.chosen? [1, 2, 3, 5, 6] fields with
    | some (1, run) => Wire.message? (fun f => header (Wire.lastText 1 f)) 1 run
    | some (2, run) => Wire.message? (fun f => cookie (Wire.lastText 1 f)) 2 run
    | some (3, run) => (Wire.boxedFlag? 3 run).map sourceIp
    | _ => none
  known.getD other

end HashPolicy

/-- The pauses between the attempts of a request. -/
structure BackOff where
  base : Option WireDuration
  max : Option WireDuration
  deriving DecidableEq, Repr, Inhabited

namespace BackOff

def fields (b : BackOff) : List Wire.Field :=
  Wire.optional (fun d => Wire.message 1 (WireDuration.fields d)) b.base
    ++ Wire.optional (fun d => Wire.message 2 (WireDuration.fields d)) b.max

def ofFields (fields : List Wire.Field) : BackOff :=
  ⟨Wire.message? WireDuration.ofFields 1 fields, Wire.message? WireDuration.ofFields 2 fields⟩

end BackOff

structure RetryPolicy where
  retryOn : String
  numRetries : Option UInt32 := none
  perTryTimeout : Option WireDuration := none
  hostPredicates : List Extension := []
  statusCodes : List UInt32 := []
  backOff : Option BackOff := none
  deriving DecidableEq, Repr, Inhabited

namespace RetryPolicy

def fields (r : RetryPolicy) : List Wire.Field :=
  Wire.textOrDefault 1 r.retryOn
    ++ Wire.optional (fun n => Wire.boxedNumber 2 n.toNat) r.numRetries
    ++ Wire.optional (fun d => Wire.message 3 (WireDuration.fields d)) r.perTryTimeout
    ++ Wire.messages 5 (Extension.fields 3) r.hostPredicates
    ++ Wire.packedNumbers 7 (r.statusCodes.map UInt32.toNat)
    ++ Wire.optional (fun b => Wire.message 8 (BackOff.fields b)) r.backOff

def ofFields (fields : List Wire.Field) : RetryPolicy where
  retryOn := Wire.lastText 1 fields
  numRetries := (Wire.boxedNumber? 2 fields).map Nat.toUInt32
  perTryTimeout := Wire.message? WireDuration.ofFields 3 fields
  hostPredicates := Wire.allMessages (Extension.ofFields 3 []) 5 fields
  statusCodes := (Wire.allNumbers 7 fields).map Nat.toUInt32
  backOff := Wire.message? BackOff.ofFields 8 fields

end RetryPolicy

/-- How requests are sent on to a cluster. -/
structure Forwarding where
  specifier : Option ClusterSpecifier := none
  timeout : Option WireDuration := none
  retry : Option RetryPolicy := none
  hashPolicies : List HashPolicy := []
  upgrades : List Upgrade := []
  deriving DecidableEq, Repr, Inhabited

namespace Forwarding

def fields (a : Forwarding) : List Wire.Field :=
  Wire.optional ClusterSpecifier.fields a.specifier
    ++ Wire.optional (fun d => Wire.message 8 (WireDuration.fields d)) a.timeout
    ++ Wire.optional (fun r => Wire.message 9 (RetryPolicy.fields r)) a.retry
    ++ Wire.messages 15 HashPolicy.fields a.hashPolicies
    ++ Wire.messages 25 (Upgrade.fields 2) a.upgrades

def ofFields (fields : List Wire.Field) : Forwarding where
  specifier := ClusterSpecifier.ofFields? fields
  timeout := Wire.message? WireDuration.ofFields 8 fields
  retry := Wire.message? RetryPolicy.ofFields 9 fields
  hashPolicies := Wire.allMessages HashPolicy.ofFields 15 fields
  upgrades := Wire.allMessages (Upgrade.ofFields 2) 25 fields

end Forwarding

inductive RouteAction where
  | forward (forwarding : Forwarding)
  | redirect
  /-- Anything else, of which no more is known. -/
  | other
  deriving DecidableEq, Repr

namespace RouteAction

def fields : RouteAction → List Wire.Field
  | forward a => Wire.message 2 a.fields
  | redirect => Wire.message 3 []
  | other => []

def ofFields? (fields : List Wire.Field) : Option RouteAction :=
  match Wire.chosen? [2, 3, 7, 17, 18] fields with
  | some (2, run) => (Wire.message? Forwarding.ofFields 2 run).map forward
  | some (3, _) => some redirect
  | some _ => some other
  | none => none

end RouteAction

structure Route where
  name : String
  criteria : Option RouteMatch := none
  action : Option RouteAction := none
  deriving DecidableEq, Repr, Inhabited

namespace Route

def fields (r : Route) : List Wire.Field :=
  Wire.optional (fun m => Wire.message 1 (RouteMatch.fields m)) r.criteria
    ++ Wire.optional RouteAction.fields r.action
    ++ Wire.textOrDefault 14 r.name

def ofFields (fields : List Wire.Field) : Route where
  name := Wire.lastText 14 fields
  criteria := Wire.message? RouteMatch.ofFields 1 fields
  action := RouteAction.ofFields? fields

end Route

structure VirtualHost where
  name : String
  domains : List String
  routes : List Route
  deriving DecidableEq, Repr, Inhabited

namespace VirtualHost

def fields (v : VirtualHost) : List Wire.Field :=
  Wire.textOrDefault 1 v.name ++ Wire.texts 2 v.domains ++ Wire.messages 3 Route.fields v.routes

def ofFields (fields : List Wire.Field) : VirtualHost where
  name := Wire.lastText 1 fields
  domains := Wire.allTexts 2 fields
  routes := Wire.allMessages Route.ofFields 3 fields

end VirtualHost

structure RouteConfiguration where
  name : String
  virtualHosts : List VirtualHost := []
  deriving DecidableEq, Repr, Inhabited

namespace RouteConfiguration

def fields (c : RouteConfiguration) : List Wire.Field :=
  Wire.textOrDefault 1 c.name ++ Wire.messages 2 VirtualHost.fields c.virtualHosts

def ofFields (fields : List Wire.Field) : RouteConfiguration where
  name := Wire.lastText 1 fields
  virtualHosts := Wire.allMessages VirtualHost.ofFields 2 fields

end RouteConfiguration

/-- Where a route sends its requests, when that is known beforehand. -/
inductive RouteTarget where
  | cluster (name : String)
  | weighted (shares : List (String × UInt32))
  deriving DecidableEq, Repr, Inhabited

namespace RouteTarget

def clusterNames : RouteTarget → List String
  | cluster name => [name]
  | weighted shares => shares.map (·.1)

def specifier : RouteTarget → ClusterSpecifier
  | cluster name => .cluster name
  | weighted shares => .weighted (shares.map fun s => ⟨s.1, some s.2⟩)

/-- A share without a weight weighs nothing. -/
def ofSpecifier? : ClusterSpecifier → Option RouteTarget
  | .cluster name => some (cluster name)
  | .weighted shares => some (weighted (shares.map fun s => (s.name, s.weight.getD 0)))
  | .header _ => none

end RouteTarget

/-- The target of a route that forwards to clusters it names. -/
def Route.target? (r : Route) : Option RouteTarget :=
  match r.action with
  | some (.forward a) => a.specifier.bind RouteTarget.ofSpecifier?
  | _ => none

/-- A route that forwards to a target and does nothing else. -/
def Route.to (name : String) (criteria : RouteMatch) (target : RouteTarget) : Route where
  name := name
  criteria := some criteria
  action := some (.forward { specifier := some target.specifier })

end GatewayPlane
