import GatewayPlane.NodeId
import GatewayPlane.Resource.Bundle
import GatewayPlane.Version

/-!
# Discovery messages

What passes over a stream: a request for resources of one type, which may also accept or
reject an earlier response, and a response with resources of one kind.
-/
namespace GatewayPlane

structure DiscoveryRequest where
  /-- Empty when the request does not say which node it is from. -/
  node : NodeId := ""
  typeUrl : String
  names : List String := []
  /-- The response that the request answers; empty when it answers none. -/
  nonce : String := ""
  /-- Why that response was rejected, if it was. -/
  error : Option String := none
  deriving DecidableEq, Repr, Inhabited

namespace DiscoveryRequest

def ofFields (fields : List Wire.Field) : DiscoveryRequest where
  node := (Wire.message? (Wire.lastText 1) 2 fields).getD ""
  names := Wire.allTexts 3 fields
  typeUrl := Wire.lastText 4 fields
  nonce := Wire.lastText 5 fields
  error := Wire.message? (Wire.lastText 2) 6 fields

def decode? (bytes : Wire.Bytes) : Option DiscoveryRequest :=
  (Wire.decode MessageType.shape .discoveryRequest bytes).map ofFields

end DiscoveryRequest

structure DiscoveryResponse where
  kind : Kind
  version : Version
  nonce : String
  resources : List Resource
  deriving DecidableEq, Repr

namespace DiscoveryResponse

/-- The name by which the sender of all responses calls itself. -/
def controlPlane : String := "flowc"

def typeUrl (r : DiscoveryResponse) : String := r.kind.typeUrl

/-- The resources as they are sent. -/
def payloads (r : DiscoveryResponse) : List TypedConfig := r.resources.map Resource.encode

end DiscoveryResponse

end GatewayPlane
