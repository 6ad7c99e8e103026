import GatewayPlane.Json.Reader
import GatewayPlane.Registry.Basic
import GatewayPlane.Stream.Subscriptions
import GatewayPlane.Stream.Context

/-!
# Streams and faults as JSON documents

What people are shown of faults, of what passes over a stream, and of what is deployed.
-/
namespace GatewayPlane
open Json

def Fault.toJson (f : Fault) : Json :=
  .object [("error", .string f.kindName), ("message", .string f.message)]

def Status.toJson (s : Status) : Json :=
  .object [("status", .string s.code.name), ("message", .string s.message)]

def Version.toJson (v : Version) : Json := .string v.text

def StreamContext.toJson (c : StreamContext) : Json :=
  .object [("phase", .string c.phase.name), ("node", orNull Json.string c.node),
    ("requests", ofNat c.requests), ("responses", ofNat c.responses)]

/-- For each kind a version, or null. -/
def Subscriptions.versionsJson (version? : Kind → Option Version) : Json :=
  .object (Kind.pushOrder.map fun k => (k.shortName, orNull Version.toJson (version? k)))

/-- A response, shown with a nonce of its own. -/
def DiscoveryResponse.toJson (r : DiscoveryResponse) (nonce : String) : Json :=
  .object [("type_url", .string r.typeUrl), ("version", r.version.toJson),
    ("nonce", .string nonce), ("nonce_well_formed", .bool (Nonces.isText r.nonce)),
    ("resources", ofList (fun e : Resource =>
      .array [.string e.name, .bool (e.encode.typeUrl == r.typeUrl)]) r.resources),
    ("control_plane", .string DiscoveryResponse.controlPlane)]

def DeploymentSummary.toJson (d : DeploymentSummary) : Json :=
  .array [.string d.deploymentId, .string d.apiName, .string d.apiVersion, ofNat d.resourceCount]

end GatewayPlane
