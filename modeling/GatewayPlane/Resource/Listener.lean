import GatewayPlane.Resource.Kind
import GatewayPlane.Resource.Route
import GatewayPlane.Resource.Schema

/-!
# Listeners

Where a gateway accepts connections, and the filters that requests pass on them. The
configuration of a filter is kept as bytes, and read as a connection manager where its
type URL says so.
-/
namespace GatewayPlane

/-- The version of the form in which resources come. -/
inductive ApiVersion where
  | auto | v2 | v3
  deriving DecidableEq, Repr, Inhabited

namespace ApiVersion

def code : ApiVersion → Nat
  | auto => 0
  | v2 => 1
  | v3 => 2

def name : ApiVersion → String
  | auto => "AUTO"
  | v2 => "V2"
  | v3 => "V3"

/-- The version of a code; an unknown one counts as the first. -/
def ofCode (code : UInt32) : ApiVersion :=
  if code = 1 then v2 else if code = 2 then v3 else auto

end ApiVersion

/-- Where resources come from. -/
structure ConfigSource where
  /-- Whether they come over the stream that they are configured on. -/
  isAggregated : Bool
  apiVersion : ApiVersion
  deriving DecidableEq, Repr, Inhabited

namespace ConfigSource

def aggregated : ConfigSource := ⟨true, .v3⟩

def fields (s : ConfigSource) : List Wire.Field :=
  (if s.isAggregated then Wire.message 3 [] else [])
    ++ Wire.numberOrDefault 6 s.apiVersion.code

def ofFields (fields : List Wire.Field) : ConfigSource where
  isAggregated := (Wire.chosen? [1, 2, 3, 5, 8] fields).any fun c => c.1 = 3
  apiVersion := .ofCode (Wire.lastNumber 6 fields).toUInt32

end ConfigSource

/-- Where a connection manager takes its routes from. -/
inductive RouteSource where
  | discovered (name : String) (source : Option ConfigSource)
  | inline (routes : RouteConfiguration)
  deriving DecidableEq, Repr

namespace RouteSource

def fields : RouteSource → List Wire.Field
  | discovered name source =>
    Wire.message 3 (Wire.optional (fun s => Wire.message 1 (ConfigSource.fields s)) source
      ++ Wire.textOrDefault 2 name)
  | inline routes => Wire.message 4 routes.fields

def discoveredOfFields (fields : List Wire.Field) : RouteSource :=
  discovered (Wire.lastText 2 fields) (Wire.message? ConfigSource.ofFields 1 fields)

/-- Sources of other kinds are not told apart from none. -/
def ofFields? (fields : List Wire.Field) : Option RouteSource :=
  match Wire.chosen? [3, 4, 31] fields with
  | some (3, run) => Wire.message? discoveredOfFields 3 run
  | some (4, run) => (Wire.message? RouteConfiguration.ofFields 4 run).map inline
  | _ => none

end RouteSource

/-- What a connection is expected to speak. -/
inductive Codec where
  | auto | http1 | http2 | http3
  deriving DecidableEq, Repr, Inhabited

namespace Codec

def code : Codec → Nat
  | auto => 0
  | http1 => 1
  | http2 => 2
  | http3 => 3

def name : Codec → String
  | auto => "AUTO"
  | http1 => "HTTP1"
  | http2 => "HTTP2"
  | http3 => "HTTP3"

/-- The codec of a code; an unknown one counts as the first. -/
def ofCode (code : UInt32) : Codec :=
  if code = 1 then http1 else if code = 2 then http2 else if code = 3 then http3 else auto

end Codec

/-- The filter that turns a connection into requests and routes them. -/
structure ConnectionManager where
  codec : Codec := .auto
  statPrefix : String := ""
  routes : Option RouteSource := none
  httpFilters : List Extension := []
  upgrades : List Upgrade := []
  deriving DecidableEq, Repr, Inhabited

namespace ConnectionManager

def fields (m : ConnectionManager) : List Wire.Field :=
  Wire.numberOrDefault 1 m.codec.code ++ Wire.textOrDefault 2 m.statPrefix
    ++ Wire.optional RouteSource.fields m.routes
    ++ Wire.messages 5 (Extension.fields 4) m.httpFilters
    ++ Wire.messages 23 (Upgrade.fields 3) m.upgrades

def ofFields (fields : List Wire.Field) : ConnectionManager where
  codec := .ofCode (Wire.lastNumber 1 fields).toUInt32
  statPrefix := Wire.lastText 2 fields
  routes := RouteSource.ofFields? fields
  httpFilters := Wire.allMessages (Extension.ofFields 4 [5]) 5 fields
  upgrades := Wire.allMessages (Upgrade.ofFields 3) 23 fields

def decode? (bytes : Wire.Bytes) : Option ConnectionManager :=
  (Wire.decode MessageType.shape .connectionManager bytes).map ofFields

/-- The connection manager as a filter. -/
def filter (m : ConnectionManager) : Extension :=
  ⟨ExtensionName.connectionManager, some (.pack TypeUrl.connectionManager m.fields)⟩

/-- A connection manager whose routes are discovered, and whose only filter is the router.
WebSocket upgrades are off until a route turns them on. -/
def discovering (statPrefix routes : String) : ConnectionManager where
  statPrefix := statPrefix
  routes := some (.discovered routes (some .aggregated))
  httpFilters := [⟨ExtensionName.router, some ⟨TypeUrl.router, []⟩⟩]
  upgrades := [.websocket false]

end ConnectionManager

structure FilterChain where
  name : String := ""
  serverNames : Option (List String) := none
  filters : List Extension := []
  deriving DecidableEq, Repr, Inhabited

def FilterChain.fields (c : FilterChain) : List Wire.Field :=
  Wire.optional (fun l => Wire.message 1 (Wire.texts 11 l)) c.serverNames
    ++ Wire.messages 3 (Extension.fields 4) c.filters ++ Wire.textOrDefault 7 c.name

structure Listener where
  name : String
  address : Option Address := none
  filterChains : List FilterChain := []
  listenerFilters : List Extension := []
  deriving DecidableEq, Repr, Inhabited

namespace Listener

def fields (l : Listener) : List Wire.Field :=
  Wire.textOrDefault 1 l.name
    ++ Wire.optional (fun a => Wire.message 2 (Address.fields a)) l.address
    ++ Wire.messages 3 FilterChain.fields l.filterChains
    ++ Wire.messages 9 (Extension.fields 3) l.listenerFilters

/-- Every network interface of the gateway. -/
def anyInterface (port : UInt16) : Address := .ofHostPort ⟨"0.0.0.0", port.toUInt32⟩

/-- A listener that takes its routes from one route configuration. -/
def routed (name routes : String) (port : UInt16) : Listener where
  name := name
  address := some (anyInterface port)
  filterChains := [{ filters := [(ConnectionManager.discovering name routes).filter] }]

/-- The requests for one host name, and the routes that they take. -/
structure HostChain where
  environment : String
  hostname : String
  routes : String
  deriving DecidableEq, Repr, Inhabited

/-- The chain of a host name; a star stands for every name. -/
def HostChain.filterChain (listener : String) (c : HostChain) : FilterChain where
  name := c.environment ++ "-" ++ c.hostname
  serverNames := if c.hostname = "*" then none else some [c.hostname]
  filters := [(ConnectionManager.discovering (listener ++ "_" ++ c.environment) c.routes).filter]

/-- A listener that tells the names of hosts apart before it answers. -/
def byHostName (name : String) (port : UInt16) (chains : List HostChain) : Listener where
  name := name
  address := some (anyInterface port)
  filterChains := chains.map (HostChain.filterChain name)
  listenerFilters := [⟨ExtensionName.tlsInspector, some ⟨TypeUrl.tlsInspector, []⟩⟩]

end Listener

end GatewayPlane
