import GatewayPlane.Strategy.Balancing
import GatewayPlane.Strategy.Matching
import GatewayPlane.Strategy.Retrying
import GatewayPlane.Strategy.Rollout
import GatewayPlane.Text.Quoted

/-!
# Choosing strategies

From settings to strategies. A slot is taken from the API's own settings, else from those
of the gateway, else from the built-in ones; its type is read without regard to case,
surrounding white space, or the difference between `_` and `-`.
-/
namespace GatewayPlane

/-- Settings for every slot. -/
structure ResolvedSettings where
  deployment : DeploymentSettings
  routeMatching : RouteMatchSettings
  loadBalancing : LoadBalancingSettings
  retry : RetrySettings
  rateLimiting : RateLimitSettings
  observability : ObservabilitySettings
  deriving Inhabited

namespace ResolvedSettings

def builtin : ResolvedSettings where
  deployment := { type := "basic" }
  routeMatching := { type := "prefix" }
  loadBalancing := { type := "round-robin", choiceCount := some defaultChoiceCount }
  retry := {
    type := "conservative"
    maxRetries := some 1
    retryOn := some "5xx,reset"
    perTryTimeout := some (.ofSeconds 5) }
  rateLimiting := { type := "none" }
  observability := {}

def resolve (gateway api : StrategySettings) : ResolvedSettings where
  deployment := (api.deployment <|> gateway.deployment).getD builtin.deployment
  routeMatching := (api.routeMatching <|> gateway.routeMatching).getD builtin.routeMatching
  loadBalancing := (api.loadBalancing <|> gateway.loadBalancing).getD builtin.loadBalancing
  retry := (api.retry <|> gateway.retry).getD builtin.retry
  rateLimiting := (api.rateLimiting <|> gateway.rateLimiting).getD builtin.rateLimiting
  observability := (api.observability <|> gateway.observability).getD builtin.observability

def toJson (s : ResolvedSettings) : Json :=
  .object [("deployment", s.deployment.toJson), ("route_matching", s.routeMatching.toJson),
    ("load_balancing", s.loadBalancing.toJson), ("retry", s.retry.toJson),
    ("rate_limiting", s.rateLimiting.toJson), ("observability", s.observability.toJson)]

end ResolvedSettings

namespace Choice

/-- A type in its usual spelling. -/
def spelling (type : String) : String :=
  String.ofList ((Text.strip Text.isBlank type.toList).map fun c =>
    if c = '_' then '-' else c.toLower)

def unknown (slot type : String) : Fault :=
  .configuration s!"unknown {slot} strategy type {Text.quoted type}"

def missing (block strategy : String) : Fault :=
  .configuration s!"{strategy} strategy requires the {block} block"

def need {α : Type} (block strategy : String) : Option α → Except Fault α
  | some a => .ok a
  | none => .error (missing block strategy)

/-- A rollout that makes sense. -/
def checked (r : Rollout) : Except Fault Rollout := do
  r.checkSettings
  return r

end Choice

open Choice

namespace Rollout

def ofSettings (s : DeploymentSettings) : Except Fault Rollout := do
  match spelling s.type with
  | "basic" => return basic
  | "canary" =>
    let c ← need "deployment.canary" "canary" s.canary
    checked (canary c.baselineVersion c.canaryVersion c.canaryWeight)
  | "blue-green" =>
    let b ← need "deployment.blue_green" "blue-green" s.blueGreen
    checked (blueGreen b.activeVersion b.standbyVersion b.autoPromote)
  | _ => throw (unknown "deployment" s.type)

end Rollout

namespace Matching

def defaultVersionHeader : String := "x-api-version"

/-- The version is that of the deployment. -/
def ofSettings (s : RouteMatchSettings) (version : String) : Except Fault Matching :=
  match spelling s.type with
  | "prefix" => .ok (startsWith s.caseSensitive)
  | "exact" => .ok exact
  | "regex" => .ok regex
  | "header-versioned" =>
    let header := (s.versionHeader.filter fun h => !Text.isBlankText h).getD defaultVersionHeader
    .ok (headerVersioned header version s.caseSensitive)
  | _ => .error (unknown "route_matching" s.type)

end Matching

namespace HostChoice

def ofSettings (type : String) (choiceCount : Option UInt32) : Except Fault HostChoice :=
  match spelling type with
  | "round-robin" => .ok roundRobin
  | "least-request" =>
    let n := choiceCount.getD defaultChoiceCount
    if n < 2 then
      .error (.validation "load_balancing.choice_count" s!"must be at least 2, got {n.toNat}")
    else .ok (leastRequest n)
  | "random" => .ok random
  | _ => .error (unknown "load_balancing" type)

end HostChoice

namespace HashPolicy

def ofSettings (s : LoadBalancingSettings) : Except Fault HashPolicy := do
  match s.hashOn.map spelling with
  | none | some "source-ip" => return sourceIp true
  | some "header" =>
    let name ← need "load_balancing.header_name" "consistent-hash on header" s.headerName
    requireText "load_balancing.header_name" name
    return header name
  | some "cookie" =>
    let name ← need "load_balancing.cookie_name" "consistent-hash on cookie" s.cookieName
    requireText "load_balancing.cookie_name" name
    return cookie name
  | some key => throw (.configuration s!"unknown load_balancing.hash_on {Text.quoted key}")

end HashPolicy

namespace Balancing

def ofSettings (s : LoadBalancingSettings) : Except Fault Balancing :=
  match spelling s.type with
  | "consistent-hash" => (HashPolicy.ofSettings s).map consistentHash
  | "locality-aware" =>
    let base := s.basePolicy.getD "round-robin"
    if spelling base = "locality-aware" ∨ spelling base = "consistent-hash" then
      .error (.configuration
        s!"{Text.quoted base} cannot be the base policy of locality-aware")
    else (HostChoice.ofSettings base s.choiceCount).map localityAware
  | _ => (HostChoice.ofSettings s.type s.choiceCount).map plain

end Balancing

namespace Retrying

def ofSettings (s : RetrySettings) : Except Fault Retrying := do
  match spelling s.type with
  | "none" => return none
  | "conservative" => return conservative
  | "aggressive" => return aggressive
  | "custom" =>
    let retries ← need "retry.max_retries" "custom retry" s.maxRetries
    return custom (← CustomRetry.make retries (s.retryOn.getD "5xx") s.perTryTimeout
      s.statusCodes s.budgetPercent)
  | _ => throw (unknown "retry" s.type)

end Retrying

/-- Requests are not limited. -/
inductive RateLimiting where
  | off
  deriving DecidableEq, Repr

namespace RateLimiting

def name : RateLimiting → String
  | off => "none"

def ofSettings (s : RateLimitSettings) : Except Fault RateLimiting :=
  match spelling s.type with
  | "none" | "" => .ok off
  | _ => .error (unknown "rate_limiting" s.type)

end RateLimiting

/-- Requests are not observed. -/
inductive Observing where
  | off
  deriving DecidableEq, Repr

def Observing.name : Observing → String
  | off => "disabled"

/-- A strategy for each slot that has one. -/
structure StrategySet where
  deployment : Option DeploymentStrategy := none
  matching : Option Matching := none
  balancing : Option Balancing := none
  retrying : Option Retrying := none
  rateLimiting : Option RateLimiting := none
  observing : Option Observing := none

/-- The strategies that settings ask for; of several faults, that of the first slot. -/
def StrategySet.ofSettings (s : ResolvedSettings) (d : Deployment) : Except Fault StrategySet := do
  let rollout ← Rollout.ofSettings s.deployment
  return {
    deployment := some rollout.strategy
    matching := some (← Matching.ofSettings s.routeMatching d.version)
    balancing := some (← Balancing.ofSettings s.loadBalancing)
    retrying := some (← Retrying.ofSettings s.retry)
    rateLimiting := some (← RateLimiting.ofSettings s.rateLimiting)
    observing := some .off }

end GatewayPlane
