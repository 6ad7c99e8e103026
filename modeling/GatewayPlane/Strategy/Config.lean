import GatewayPlane.Json.Reader
import GatewayPlane.Time.Document

/-!
# Strategy settings

The settings by which a deployment chooses how its traffic is split, matched, balanced,
retried, limited and observed, each slot on its own, and the JSON they are read from and
written as.
-/
namespace GatewayPlane
open Json

structure CanarySettings where
  baselineVersion : String
  canaryVersion : String
  canaryWeight : UInt32
  deriving DecidableEq, Repr, Inhabited

structure BlueGreenSettings where
  activeVersion : String
  standbyVersion : String
  autoPromote : Bool := false
  deriving DecidableEq, Repr, Inhabited

structure DeploymentSettings where
  type : String
  canary : Option CanarySettings := none
  blueGreen : Option BlueGreenSettings := none
  deriving DecidableEq, Repr, Inhabited

structure RouteMatchSettings where
  type : String
  caseSensitive : Bool := true
  versionHeader : Option String := none
  deriving DecidableEq, Repr, Inhabited

structure LoadBalancingSettings where
  type : String
  hashOn : Option String := none
  headerName : Option String := none
  cookieName : Option String := none
  choiceCount : Option UInt32 := none
  basePolicy : Option String := none
  deriving DecidableEq, Repr, Inhabited

structure RetrySettings where
  type : String
  maxRetries : Option UInt32 := none
  retryOn : Option String := none
  perTryTimeout : Option Span := none
  statusCodes : List UInt32 := []
  budgetPercent : Option Float := none
  deriving Inhabited

structure RateLimitSettings where
  type : String
  requestsPerUnit : Option UInt32 := none
  unit : Option String := none
  deriving DecidableEq, Repr, Inhabited

structure TracingSettings where
  enabled : Bool := false
  samplingRate : Float := 0.01
  deriving Inhabited

structure ObservabilitySettings where
  tracing : TracingSettings := {}
  metrics : Bool := false
  accessLogs : Bool := false
  deriving Inhabited

/-- One optional choice for each slot. -/
structure StrategySettings where
  deployment : Option DeploymentSettings := none
  routeMatching : Option RouteMatchSettings := none
  loadBalancing : Option LoadBalancingSettings := none
  retry : Option RetrySettings := none
  rateLimiting : Option RateLimitSettings := none
  observability : Option ObservabilitySettings := none
  deriving Inhabited

namespace CanarySettings

def memberNames : List String := ["baseline_version", "canary_version", "canary_weight"]

def ofJson? (value : Json) : Option CanarySettings := do
  let m ← members? memberNames value
  return {
    baselineVersion := ← field string? m "baseline_version"
    canaryVersion := ← field string? m "canary_version"
    canaryWeight := ← field uint32? m "canary_weight" }

def toJson (c : CanarySettings) : Json :=
  .object [("baseline_version", .string c.baselineVersion),
    ("canary_version", .string c.canaryVersion), ("canary_weight", ofNat c.canaryWeight.toNat)]

end CanarySettings

namespace BlueGreenSettings

def memberNames : List String := ["active_version", "standby_version", "auto_promote"]

def ofJson? (value : Json) : Option BlueGreenSettings := do
  let m ← members? memberNames value
  return {
    activeVersion := ← field string? m "active_version"
    standbyVersion := ← field string? m "standby_version"
    autoPromote := ← fieldOr bool? false m "auto_promote" }

def toJson (b : BlueGreenSettings) : Json :=
  .object [("active_version", .string b.activeVersion),
    ("standby_version", .string b.standbyVersion), ("auto_promote", .bool b.autoPromote)]

end BlueGreenSettings

namespace DeploymentSettings

def memberNames : List String := ["type", "canary", "blue_green"]

def ofJson? (value : Json) : Option DeploymentSettings := do
  let m ← members? memberNames value
  return {
    type := ← field string? m "type"
    canary := ← fieldMaybe CanarySettings.ofJson? m "canary"
    blueGreen := ← fieldMaybe BlueGreenSettings.ofJson? m "blue_green" }

def toJson (d : DeploymentSettings) : Json :=
  .object ([("type", .string d.type)] ++ memberOf CanarySettings.toJson "canary" d.canary
    ++ memberOf BlueGreenSettings.toJson "blue_green" d.blueGreen)

end DeploymentSettings

namespace RouteMatchSettings

def memberNames : List String := ["type", "case_sensitive", "version_header"]

def ofJson? (value : Json) : Option RouteMatchSettings := do
  let m ← members? memberNames value
  return {
    type := ← field string? m "type"
    caseSensitive := ← fieldOr bool? true m "case_sensitive"
    versionHeader := ← fieldMaybe string? m "version_header" }

def toJson (r : RouteMatchSettings) : Json :=
  .object ([("type", .string r.type), ("case_sensitive", .bool r.caseSensitive)]
    ++ memberOf .string "version_header" r.versionHeader)

end RouteMatchSettings

namespace LoadBalancingSettings

def memberNames : List String :=
  ["type", "hash_on", "header_name", "cookie_name", "choice_count", "base_policy"]

def ofJson? (value : Json) : Option LoadBalancingSettings := do
  let m ← members? memberNames value
  return {
    type := ← field string? m "type"
    hashOn := ← fieldMaybe string? m "hash_on"
    headerName := ← fieldMaybe string? m "header_name"
    cookieName := ← fieldMaybe string? m "cookie_name"
    choiceCount := ← fieldMaybe uint32? m "choice_count"
    basePolicy := ← fieldMaybe string? m "base_policy" }

def toJson (l : LoadBalancingSettings) : Json :=
  .object ([("type", .string l.type)] ++ memberOf .string "hash_on" l.hashOn
    ++ memberOf .string "header_name" l.headerName ++ memberOf .string "cookie_name" l.cookieName
    ++ memberOf (fun n => ofNat n.toNat) "choice_count" l.choiceCount
    ++ memberOf .string "base_policy" l.basePolicy)

end LoadBalancingSettings

namespace RetrySettings

def memberNames : List String :=
  ["type", "max_retries", "retry_on", "per_try_timeout", "retriable_status_codes",
    "budget_percent"]

def ofJson? (value : Json) : Option RetrySettings := do
  let m ← members? memberNames value
  return {
    type := ← field string? m "type"
    maxRetries := ← fieldMaybe uint32? m "max_retries"
    retryOn := ← fieldMaybe string? m "retry_on"
    perTryTimeout := ← fieldMaybe Span.ofJson? m "per_try_timeout"
    statusCodes := ← fieldOr (list? uint32?) [] m "retriable_status_codes"
    budgetPercent := ← fieldMaybe float? m "budget_percent" }

def toJson (r : RetrySettings) : Json :=
  .object ([("type", .string r.type)]
    ++ memberOf (fun n => ofNat n.toNat) "max_retries" r.maxRetries
    ++ memberOf .string "retry_on" r.retryOn
    ++ memberOf Span.toJson "per_try_timeout" r.perTryTimeout
    ++ (if r.statusCodes.isEmpty then []
      else [("retriable_status_codes", .array (r.statusCodes.map fun n => ofNat n.toNat))])
    ++ memberOf .float "budget_percent" r.budgetPercent)

end RetrySettings

namespace RateLimitSettings

def memberNames : List String := ["type", "requests_per_unit", "unit"]

def ofJson? (value : Json) : Option RateLimitSettings := do
  let m ← members? memberNames value
  return {
    type := ← field string? m "type"
    requestsPerUnit := ← fieldMaybe uint32? m "requests_per_unit"
    unit := ← fieldMaybe string? m "unit" }

def toJson (r : RateLimitSettings) : Json :=
  .object ([("type", .string r.type)]
    ++ memberOf (fun n => ofNat n.toNat) "requests_per_unit" r.requestsPerUnit
    ++ memberOf .string "unit" r.unit)

end RateLimitSettings

namespace TracingSettings

def memberNames : List String := ["enabled", "sampling_rate"]

def ofJson? (value : Json) : Option TracingSettings := do
  let m ← members? memberNames value
  return {
    enabled := ← fieldOr bool? false m "enabled"
    samplingRate := ← fieldOr float? 0.01 m "sampling_rate" }

def toJson (t : TracingSettings) : Json :=
  .object [("enabled", .bool t.enabled), ("sampling_rate", .float t.samplingRate)]

end TracingSettings

namespace ObservabilitySettings

def memberNames : List String := ["tracing", "metrics", "access_logs"]

/-- A switch is a structure of its own with one member. -/
def switch? (value : Json) : Option Bool := do
  let m ← members? ["enabled"] value
  fieldOr bool? false m "enabled"

def ofSwitch (on : Bool) : Json := .object [("enabled", .bool on)]

def ofJson? (value : Json) : Option ObservabilitySettings := do
  let m ← members? memberNames value
  return {
    tracing := ← fieldOr TracingSettings.ofJson? {} m "tracing"
    metrics := ← fieldOr switch? false m "metrics"
    accessLogs := ← fieldOr switch? false m "access_logs" }

def toJson (o : ObservabilitySettings) : Json :=
  .object [("tracing", o.tracing.toJson), ("metrics", ofSwitch o.metrics),
    ("access_logs", ofSwitch o.accessLogs)]

end ObservabilitySettings

namespace StrategySettings

def memberNames : List String :=
  ["deployment", "route_matching", "load_balancing", "retry", "rate_limiting", "observability"]

/-- Unlike the settings of a slot, the slots admit no other member. -/
def ofJson? (value : Json) : Option StrategySettings := do
  let m ← onlyMembers? memberNames value
  return {
    deployment := ← fieldMaybe DeploymentSettings.ofJson? m "deployment"
    routeMatching := ← fieldMaybe RouteMatchSettings.ofJson? m "route_matching"
    loadBalancing := ← fieldMaybe LoadBalancingSettings.ofJson? m "load_balancing"
    retry := ← fieldMaybe RetrySettings.ofJson? m "retry"
    rateLimiting := ← fieldMaybe RateLimitSettings.ofJson? m "rate_limiting"
    observability := ← fieldMaybe ObservabilitySettings.ofJson? m "observability" }

def toJson (s : StrategySettings) : Json :=
  .object (memberOf DeploymentSettings.toJson "deployment" s.deployment
    ++ memberOf RouteMatchSettings.toJson "route_matching" s.routeMatching
    ++ memberOf LoadBalancingSettings.toJson "load_balancing" s.loadBalancing
    ++ memberOf RetrySettings.toJson "retry" s.retry
    ++ memberOf RateLimitSettings.toJson "rate_limiting" s.rateLimiting
    ++ memberOf ObservabilitySettings.toJson "observability" s.observability)

end StrategySettings

end GatewayPlane
