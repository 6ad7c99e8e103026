import GatewayPlane.Resource.Kind
import GatewayPlane.Resource.Parts
import GatewayPlane.Resource.Schema

/-!
# Clusters

The hosts that take requests for one name, how they are found, secured and chosen from.
-/
namespace GatewayPlane

/-- The hosts of a cluster, locality by locality. -/
structure LoadAssignment where
  clusterName : String
  localities : List (List HostPort) := []
  deriving DecidableEq, Repr, Inhabited

namespace LoadAssignment

def endpointFields (a : HostPort) : List Wire.Field :=
  Wire.message 1 (Wire.message 1 (Address.fields (.ofHostPort a)))

def fields (l : LoadAssignment) : List Wire.Field :=
  Wire.textOrDefault 1 l.clusterName
    ++ Wire.messages 2 (Wire.messages 2 endpointFields) l.localities

/-- The assignment of a cluster to a single host. -/
def single (clusterName host : String) (port : UInt16) : LoadAssignment :=
  ⟨clusterName, [[⟨host, port.toUInt32⟩]]⟩

end LoadAssignment

inductive LbPolicy where
  | roundRobin | leastRequest | ringHash | random
  deriving DecidableEq, Repr, Inhabited

namespace LbPolicy

def code : LbPolicy → Nat
  | roundRobin => 0
  | leastRequest => 1
  | ringHash => 2
  | random => 3

def name : LbPolicy → String
  | roundRobin => "ROUND_ROBIN"
  | leastRequest => "LEAST_REQUEST"
  | ringHash => "RING_HASH"
  | random => "RANDOM"

end LbPolicy

/-- The settings that belong to a policy. -/
inductive LbConfig where
  | leastRequest (choiceCount : UInt32)
  | ringHash (minimumSize : UInt64)
  deriving DecidableEq, Repr

def LbConfig.fields : LbConfig → List Wire.Field
  | leastRequest n => Wire.message 37 (Wire.boxedNumber 1 n.toNat)
  | ringHash n => Wire.message 23 (Wire.boxedNumber 1 n.toNat)

/-- How hosts are found: by looking their names up as connections need them. -/
inductive Discovery where
  | logicalDns
  deriving DecidableEq, Repr

inductive DnsFamily where
  | auto | v4Only
  deriving DecidableEq, Repr, Inhabited

def DnsFamily.code : DnsFamily → Nat
  | auto => 0
  | v4Only => 1

/-- How connections to the hosts are secured. -/
structure BackendTls where
  sni : String
  trustedCa : String
  deriving DecidableEq, Repr, Inhabited

namespace BackendTls

def contextFields (t : BackendTls) : List Wire.Field :=
  Wire.message 1 (Wire.message 3 (Wire.message 1 (Wire.text 1 t.trustedCa)))
    ++ Wire.textOrDefault 2 t.sni

def transportSocket (t : BackendTls) : Extension :=
  ⟨ExtensionName.tlsTransportSocket, some (.pack TypeUrl.backendTls t.contextFields)⟩

end BackendTls

structure Cluster where
  name : String
  discovery : Option Discovery := none
  connectTimeout : Option WireDuration := none
  lbPolicy : LbPolicy := .roundRobin
  dnsFamily : DnsFamily := .auto
  lbConfig : Option LbConfig := none
  tls : Option BackendTls := none
  localityWeighted : Bool := false
  loadAssignment : Option LoadAssignment := none
  http2 : Bool := false
  deriving DecidableEq, Repr, Inhabited

namespace Cluster

/-- The options of connections that speak HTTP/2 from the start. -/
def http2Options : TypedConfig :=
  .pack TypeUrl.httpProtocolOptions (Wire.message 3 (Wire.message 2 []))

def fields (c : Cluster) : List Wire.Field :=
  Wire.textOrDefault 1 c.name
    ++ Wire.optional (fun _ : Discovery => Wire.number 2 2) c.discovery
    ++ Wire.optional (fun d => Wire.message 4 (WireDuration.fields d)) c.connectTimeout
    ++ Wire.numberOrDefault 6 c.lbPolicy.code
    ++ Wire.numberOrDefault 17 c.dnsFamily.code
    ++ Wire.optional LbConfig.fields c.lbConfig
    ++ Wire.optional (fun t => Wire.message 24 (Extension.fields 3 (BackendTls.transportSocket t)))
      c.tls
    ++ (if c.localityWeighted then Wire.message 27 (Wire.message 3 []) else [])
    ++ Wire.optional (fun l => Wire.message 33 (LoadAssignment.fields l)) c.loadAssignment
    ++ (if c.http2 then
        Wire.message 36 (Wire.textOrDefault 1 ExtensionName.httpProtocolOptions
          ++ Wire.message 2 http2Options.fields)
      else [])

/-- Reads a cluster of which nothing but the name is known. -/
def named? (bytes : Wire.Bytes) : Option Cluster := do
  let fields ← Wire.decode MessageType.shape .cluster bytes
  return { name := Wire.lastText 1 fields }

end Cluster

end GatewayPlane
