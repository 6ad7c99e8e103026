import GatewayPlane.Api.Document
import GatewayPlane.NodeId
import GatewayPlane.Strategy.Config

/-!
# Deployments

An API of some name and version, put behind a gateway: where its requests go, which
gateway takes them, by which strategies, and how far the deployment has come. Also the
JSON they are read from and written as.
-/
namespace GatewayPlane
open Json

inductive Scheme where
  | http | https | http2
  deriving DecidableEq, Repr, Inhabited

structure Backend where
  host : String
  port : UInt16
  scheme : Scheme := .http
  timeout : Option Span := none
  deriving DecidableEq, Repr, Inhabited

def defaultListenerPort : UInt16 := 10000

/-- Which gateway serves the deployment, and how it listens. -/
structure GatewayTarget where
  nodeId : NodeId
  port : UInt16 := defaultListenerPort
  environment : Option String := none
  domains : List String := []
  virtualHostName : Option String := none
  dedicatedListener : Bool := false
  deriving DecidableEq, Repr, Inhabited

structure DeploymentInfo where
  name : String
  version : String
  context : String := ""
  backend : Backend
  gateway : GatewayTarget
  strategy : Option StrategySettings := none
  deriving Inhabited

inductive DeploymentStatus where
  | pending | deployed | failed | undeployed
  deriving DecidableEq, Repr, Inhabited

structure Deployment where
  id : String
  name : String
  version : String
  context : String
  nodeId : NodeId
  status : DeploymentStatus
  createdAt : Instant
  updatedAt : Instant
  info : DeploymentInfo
  deriving Inhabited

namespace Deployment

/-- A new deployment, not yet on any gateway. -/
def ofInfo (id : String) (now : Instant) (info : DeploymentInfo) : Deployment where
  id := id
  name := info.name
  version := info.version
  context := info.context
  nodeId := info.gateway.nodeId
  status := .pending
  createdAt := now
  updatedAt := now
  info := info

def setStatus (status : DeploymentStatus) (now : Instant) (d : Deployment) : Deployment :=
  { d with status := status, updatedAt := now }

def backend (d : Deployment) : Backend := d.info.backend

def gateway (d : Deployment) : GatewayTarget := d.info.gateway

end Deployment

namespace Scheme

def all : List Scheme := [http, https, http2]

def name : Scheme → String
  | http => "http"
  | https => "https"
  | http2 => "http2"

def ofJson? : Reader Scheme := choice? all name

def toJson (s : Scheme) : Json := .string s.name

end Scheme

namespace DeploymentStatus

def all : List DeploymentStatus := [pending, deployed, failed, undeployed]

def name : DeploymentStatus → String
  | pending => "pending"
  | deployed => "deployed"
  | failed => "failed"
  | undeployed => "undeployed"

def ofJson? : Reader DeploymentStatus := choice? all name

def toJson (s : DeploymentStatus) : Json := .string s.name

end DeploymentStatus

namespace Backend

def memberNames : List String := ["host", "port", "scheme", "timeout"]

def ofJson? (value : Json) : Option Backend := do
  let m ← members? memberNames value
  return {
    host := ← field string? m "host"
    port := ← field uint16? m "port"
    scheme := ← fieldOr Scheme.ofJson? .http m "scheme"
    timeout := ← fieldMaybe Span.ofJson? m "timeout" }

def toJson (u : Backend) : Json :=
  .object ([("host", .string u.host), ("port", ofNat u.port.toNat), ("scheme", u.scheme.toJson)]
    ++ memberOf Span.toJson "timeout" u.timeout)

end Backend

namespace GatewayTarget

def memberNames : List String :=
  ["node_id", "port", "environment", "domains", "virtual_host_name", "dedicated_listener"]

def ofJson? (value : Json) : Option GatewayTarget := do
  let m ← members? memberNames value
  return {
    nodeId := ← field string? m "node_id"
    port := ← fieldOr uint16? defaultListenerPort m "port"
    environment := ← fieldMaybe string? m "environment"
    domains := ← fieldOr (list? string?) [] m "domains"
    virtualHostName := ← fieldMaybe string? m "virtual_host_name"
    dedicatedListener := ← fieldOr bool? false m "dedicated_listener" }

def toJson (g : GatewayTarget) : Json :=
  .object ([("node_id", .string g.nodeId), ("port", ofNat g.port.toNat)]
    ++ memberOf .string "environment" g.environment
    ++ [("domains", ofStrings g.domains)]
    ++ memberOf .string "virtual_host_name" g.virtualHostName
    ++ [("dedicated_listener", .bool g.dedicatedListener)])

end GatewayTarget

namespace DeploymentInfo

def memberNames : List String :=
  ["name", "version", "context", "upstream", "gateway", "strategy"]

def ofJson? (value : Json) : Option DeploymentInfo := do
  let m ← members? memberNames value
  return {
    name := ← field string? m "name"
    version := ← field string? m "version"
    context := ← fieldOr string? "" m "context"
    backend := ← field Backend.ofJson? m "upstream"
    gateway := ← fieldOr GatewayTarget.ofJson? { nodeId := "" } m "gateway"
    strategy := ← fieldMaybe StrategySettings.ofJson? m "strategy" }

def toJson (i : DeploymentInfo) : Json :=
  .object ([("name", .string i.name), ("version", .string i.version),
      ("context", .string i.context), ("upstream", i.backend.toJson),
      ("gateway", i.gateway.toJson)]
    ++ memberOf StrategySettings.toJson "strategy" i.strategy)

end DeploymentInfo

namespace Deployment

def memberNames : List String :=
  ["id", "name", "version", "context", "node_id", "status", "created_at", "updated_at",
    "flowc_metadata"]

def ofJson? (value : Json) : Option Deployment := do
  let m ← members? memberNames value
  return {
    id := ← field string? m "id"
    name := ← field string? m "name"
    version := ← field string? m "version"
    context := ← field string? m "context"
    nodeId := ← field string? m "node_id"
    status := ← field DeploymentStatus.ofJson? m "status"
    createdAt := ← field Instant.ofJson? m "created_at"
    updatedAt := ← field Instant.ofJson? m "updated_at"
    info := ← field DeploymentInfo.ofJson? m "flowc_metadata" }

def toJson (d : Deployment) : Json :=
  .object [("id", .string d.id), ("name", .string d.name), ("version", .string d.version),
    ("context", .string d.context), ("node_id", .string d.nodeId), ("status", d.status.toJson),
    ("created_at", d.createdAt.toJson), ("updated_at", d.updatedAt.toJson),
    ("flowc_metadata", d.info.toJson)]

end Deployment

end GatewayPlane
