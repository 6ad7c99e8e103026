/-!
# Kinds of resources

The four kinds of resources that a gateway discovers, and the type URLs by which messages
name themselves.
-/
namespace GatewayPlane

namespace TypeUrl

def host : String := "type.googleapis.com/"

def cluster : String := "type.googleapis.com/envoy.config.cluster.v3.Cluster"
def loadAssignment : String :=
  "type.googleapis.com/envoy.config.endpoint.v3.ClusterLoadAssignment"
def listener : String := "type.googleapis.com/envoy.config.listener.v3.Listener"
def routeConfiguration : String :=
  "type.googleapis.com/envoy.config.route.v3.RouteConfiguration"
def connectionManager : String :=
  "type.googleapis.com/envoy.extensions.filters.network.http_connection_manager.v3.HttpConnectionManager"
def router : String := "type.googleapis.com/envoy.extensions.filters.http.router.v3.Router"
def tlsInspector : String :=
  "type.googleapis.com/envoy.extensions.filters.listener.tls_inspector.v3.TlsInspector"
def backendTls : String :=
  "type.googleapis.com/envoy.extensions.transport_sockets.tls.v3.UpstreamTlsContext"
def previousHosts : String :=
  "type.googleapis.com/envoy.extensions.retry.host.previous_hosts.v3.PreviousHostsPredicate"
def httpProtocolOptions : String :=
  "type.googleapis.com/envoy.extensions.upstreams.http.v3.HttpProtocolOptions"

/-- What follows the host in a type URL. -/
def messageName (url : String) : String :=
  if host.toList.isPrefixOf url.toList then String.ofList (url.toList.drop host.length) else url

end TypeUrl

/-! The names under which extensions are registered. -/

namespace ExtensionName

def connectionManager : String := "envoy.filters.network.http_connection_manager"
def router : String := "envoy.filters.http.router"
def tlsInspector : String := "envoy.filters.listener.tls_inspector"
def tlsTransportSocket : String := "envoy.transport_sockets.tls"
def previousHosts : String := "envoy.retry_host_predicates.previous_hosts"
def httpProtocolOptions : String := "envoy.extensions.upstreams.http.v3.HttpProtocolOptions"

end ExtensionName

inductive Kind where
  | cluster | endpoint | route | listener
  deriving DecidableEq, Repr, Inhabited

namespace Kind

/-- Each kind after those that it refers to. -/
def pushOrder : List Kind := [cluster, endpoint, route, listener]

def typeUrl : Kind → String
  | cluster => TypeUrl.cluster
  | endpoint => TypeUrl.loadAssignment
  | route => TypeUrl.routeConfiguration
  | listener => TypeUrl.listener

def ofTypeUrl? (url : String) : Option Kind := pushOrder.find? fun k => k.typeUrl == url

/-- The abbreviation of the discovery service that serves the kind. -/
def shortName : Kind → String
  | cluster => "CDS"
  | endpoint => "EDS"
  | route => "RDS"
  | listener => "LDS"

theorem mem_pushOrder (k : Kind) : k ∈ pushOrder := by cases k <;> decide

theorem typeUrl_injective {a b : Kind} (h : a.typeUrl = b.typeUrl) : a = b := by
  revert h
  cases a <;> cases b <;> decide

end Kind

/-- Something for each kind. -/
structure PerKind (α : Type) where
  cluster : α
  endpoint : α
  route : α
  listener : α
  deriving DecidableEq, Repr, Inhabited

namespace PerKind
variable {α : Type}

/-- The same for every kind. -/
def same (a : α) : PerKind α := ⟨a, a, a, a⟩

def get (p : PerKind α) : Kind → α
  | .cluster => p.cluster
  | .endpoint => p.endpoint
  | .route => p.route
  | .listener => p.listener

def set (p : PerKind α) (k : Kind) (a : α) : PerKind α :=
  match k with
  | .cluster => { p with cluster := a }
  | .endpoint => { p with endpoint := a }
  | .route => { p with route := a }
  | .listener => { p with listener := a }

@[simp] theorem get_same (a : α) (k : Kind) : (same a).get k = a := by cases k <;> rfl

@[simp] theorem get_set (p : PerKind α) (k : Kind) (a : α) : (p.set k a).get k = a := by
  cases k <;> rfl

theorem get_set_of_ne (p : PerKind α) {j k : Kind} (a : α) (h : j ≠ k) :
    (p.set k a).get j = p.get j := by
  cases j <;> cases k <;> first | rfl | contradiction

end PerKind

end GatewayPlane
