import GatewayPlane.ControlPlane
import GatewayPlane.Proofs.Consistency.Integrity

/-!
# Where a deployment's routes lead

Every cluster that the routes of a provisioned deployment name comes with it, and reaches
the backend of the deployment in the way that its scheme asks for.
-/
namespace GatewayPlane
open Checks

/-- Whether a cluster reaches a backend, and nothing else. -/
structure Cluster.Reaches (k : Cluster) (target : Backend) : Prop where
  loadAssignment : k.loadAssignment = some ⟨k.name, [[⟨target.host, target.port.toUInt32⟩]]⟩
  tls : k.tls = if target.scheme = .https
    then some ⟨target.host, "/etc/ssl/certs/ca-certificates.crt"⟩ else none
  http2 : k.http2 = decide (target.scheme = .http2)

/-- The clusters that the routes of a bundle name. -/
def Bundle.targetNames (b : Bundle) : List String :=
  b.routes.flatMap fun c => c.virtualHosts.flatMap fun v => v.routes.flatMap fun r =>
    (r.target?.map RouteTarget.clusterNames).getD []

theorem Bundle.mem_targetNames {b : Bundle} {name : String} :
    name ∈ b.targetNames ↔ ∃ c ∈ b.routes, c.Targets name := by
  simp only [targetNames, RouteConfiguration.Targets, List.mem_flatMap,
    Route.mem_clusterNames_target?]

namespace Balancing

theorem apply_name (b : Balancing) (k : Cluster) : (b.apply k).name = k.name := by
  cases b <;> rfl

theorem apply_reaches (b : Balancing) {k : Cluster} {target : Backend} (h : k.Reaches target) :
    (b.apply k).Reaches target := by
  cases b <;> exact ⟨h.loadAssignment, h.tls, h.http2⟩

end Balancing

theorem Cluster.ofBackend_reaches (name : String) (target : Backend) :
    (Cluster.ofBackend name target.host target.port target.scheme).Reaches target :=
  ⟨rfl, rfl, rfl⟩

/-- Retries change nothing else of a route that forwards its requests. -/
theorem Retrying.apply_of_forward (retrying : Retrying) {r : Route} {a : Forwarding}
    (h : r.action = some (.forward a)) : retrying.apply r =
      { r with action := some (.forward { a with retry := retrying.policy?.or a.retry }) } := by
  obtain ⟨name, criteria, action⟩ := r
  subst h
  unfold apply
  cases retrying.policy? <;> rfl

theorem RouteTarget.ofSpecifier?_specifier (t : RouteTarget) :
    ofSpecifier? t.specifier = some t := by
  cases t with
  | cluster name => rfl
  | weighted shares => simp [specifier, ofSpecifier?, Function.comp_def]

namespace Rollout

theorem clusters_eq_ok {r : Rollout} {d : Deployment} {clusters : List Cluster}
    (h : r.clusters d = .ok clusters) :
    clusters = (r.clusterNames d).map fun name =>
      .ofBackend name d.backend.host d.backend.port d.backend.scheme := by
  obtain ⟨-, h⟩ := seq_eq_ok.1 h
  cases h
  rfl

/-- A rollout leads nowhere but to its own clusters. -/
theorem mem_clusterNames_of_target {r : Rollout} {d : Deployment} {name : String}
    (h : name ∈ (r.target d).clusterNames) : name ∈ r.clusterNames d := by
  cases r with
  | basic => exact h
  | canary baselineVersion canaryVersion weight =>
    simp only [target, clusterNames] at h ⊢
    split at h
    · simp_all [RouteTarget.clusterNames]
    · split at h <;> simp_all [RouteTarget.clusterNames]
  | blueGreen active standby autoPromote => exact List.mem_cons.2 (.inl (List.mem_singleton.1 h))

end Rollout

namespace Provisioner
variable {p : Provisioner} {r : Rollout} {d : Deployment} {api : Api} {b : Bundle} {name : String}

theorem route_forwards {base : String} {o : Operation} :
    (p.route d base o).Forwards name ↔ name ∈ (p.deployment.target d).clusterNames := by
  have htarget : (p.route d base o).target? = some (p.deployment.target d) :=
    RouteTarget.ofSpecifier?_specifier _
  rw [← Route.mem_clusterNames_target?, htarget, Option.map_some, Option.getD_some]

/-- Every operation has its route, in their order. -/
theorem routes_eq_map {base : String} {seen : List RouteMatch} {ops : List Operation}
    {routes : List Route} (h : p.routes d base seen ops = .ok routes) :
    routes = ops.map (p.route d base) := by
  induction ops generalizing seen routes with
  | nil =>
    rw [Provisioner.routes, pure_eq_ok] at h
    exact h.symm
  | cons o rest ih =>
    rw [Provisioner.routes] at h
    dsimp only at h
    by_cases hseen : seen.contains (p.criteria base o).folded = true
    · rw [if_pos hseen] at h
      cases h
    · rw [if_neg hseen] at h
      obtain ⟨later, hlater, h⟩ := bind_eq_ok.1 h
      cases h
      rw [ih hlater, List.map_cons]

/-- The route of an operation with the retries that it gets. -/
theorem apply_route (base : String) (o : Operation) :
    p.retrying.apply (p.route d base o) = {
      name := s!"{d.name}-{d.version}-{o.id}"
      criteria := some (p.criteria base o)
      action := some (.forward { p.forwarding d o with retry := p.retrying.policy? }) } := by
  rw [p.retrying.apply_of_forward rfl, forwarding, Option.or_none]
  rfl

/-- Retries do not change where a route leads. -/
theorem apply_route_forwards {base : String} {o : Operation} :
    (p.retrying.apply (p.route d base o)).Forwards name ↔
      name ∈ (p.deployment.target d).clusterNames := by
  have hroute : (p.route d base o).Forwards name ↔ name ∈ (p.deployment.target d).clusterNames :=
    route_forwards
  rw [← hroute, apply_route]
  simp [Route.Forwards, route]

theorem clusters_eq_ok {clusters : List Cluster} (h : p.clusters d = .ok clusters) :
    ∃ plain, p.deployment.clusters d = .ok plain ∧ clusters = plain.map p.balancing.apply := by
  obtain ⟨plain, hplain, h⟩ := bind_eq_ok.1 h
  refine ⟨plain, hplain, ?_⟩
  by_cases hempty : plain.isEmpty = true
  · rw [if_pos hempty] at h
    cases h
  · rw [if_neg hempty] at h
    cases h
    rfl

/-- The parts of what is provisioned. -/
theorem provision_eq_ok (h : p.provision d api = .ok b) :
    ∃ plain routes, p.deployment.clusters d = .ok plain ∧
      p.routes d (basePath d api) [] api.operations = .ok routes ∧
      b.clusters = plain.map p.balancing.apply ∧
      b.routes = [⟨routesName d,
        [⟨virtualHostName d, domains d, routes.map p.retrying.apply⟩]⟩] := by
  obtain ⟨-, h⟩ := seq_eq_ok.1 h
  obtain ⟨clusters, hclusters, h⟩ := bind_eq_ok.1 h
  obtain ⟨configuration, hconfiguration, h⟩ := bind_eq_ok.1 h
  obtain ⟨plain, hplain, rfl⟩ := clusters_eq_ok hclusters
  obtain ⟨routes, hroutes, hmade⟩ := bind_eq_ok.1 hconfiguration
  cases hmade
  cases h
  exact ⟨plain, routes, hplain, hroutes, rfl, rfl⟩

/-- Every cluster is made for the backend, and then balanced. -/
theorem clusters_of_provision (hp : p.deployment = r.strategy) (h : p.provision d api = .ok b) :
    b.clusters = (r.clusterNames d).map fun name => p.balancing.apply
      (.ofBackend name d.backend.host d.backend.port d.backend.scheme) := by
  obtain ⟨plain, -, hplain, -, hclusters, -⟩ := provision_eq_ok h
  rw [hp] at hplain
  rw [hclusters, Rollout.clusters_eq_ok hplain, List.map_map]
  rfl

/-- A cluster that a provisioned route names comes with it, and reaches the backend. -/
theorem exists_cluster_of_targets (hr : p.deployment = r.strategy)
    (h : p.provision d api = .ok b) (hname : name ∈ b.targetNames) :
    ∃ k ∈ b.clusters, k.name = name ∧ k.Reaches d.backend ∧
      ∀ k' ∈ b.clusters, k'.name = name → k' = k := by
  obtain ⟨-, routes, -, hroutes, -, hconfigurations⟩ := provision_eq_ok h
  have hclusters := clusters_of_provision hr h
  have hname : name ∈ r.clusterNames d := by
    obtain ⟨c, hc, htargets⟩ := Bundle.mem_targetNames.1 hname
    rw [hconfigurations, List.mem_singleton] at hc
    subst hc
    obtain ⟨v, hv, route, hroute, hforwards⟩ := htargets
    rw [List.mem_singleton] at hv
    subst hv
    rw [routes_eq_map hroutes, List.map_map] at hroute
    obtain ⟨o, -, rfl⟩ := List.mem_map.1 hroute
    have htarget := apply_route_forwards.1 hforwards
    rw [hr] at htarget
    exact Rollout.mem_clusterNames_of_target htarget
  refine ⟨_, hclusters ▸ List.mem_map.2 ⟨name, hname, rfl⟩, Balancing.apply_name _ _,
    Balancing.apply_reaches _ (Cluster.ofBackend_reaches name d.backend), ?_⟩
  intro k' hk' hk'name
  rw [hclusters, List.mem_map] at hk'
  obtain ⟨name', -, rfl⟩ := hk'
  have hsame : name' = name := (Balancing.apply_name _ _).symm.trans hk'name
  rw [hsame]

/-- Whether a provisioner works by the strategies that settings ask for. -/
structure ChosenBy (p : Provisioner) (r : Rollout) (s : ResolvedSettings) (d : Deployment) :
    Prop where
  rollout : Rollout.ofSettings s.deployment = .ok r
  deployment : p.deployment = r.strategy
  matching : Matching.ofSettings s.routeMatching d.version = .ok p.matching
  balancing : Balancing.ofSettings s.loadBalancing = .ok p.balancing
  retrying : Retrying.ofSettings s.retry = .ok p.retrying

end Provisioner

/-- Strategies chosen by settings make a provisioner. -/
theorem StrategySet.exists_chosen {s : ResolvedSettings} {d : Deployment}
    {strategies : StrategySet} (h : StrategySet.ofSettings s d = .ok strategies) :
    ∃ p r, Provisioner.ofStrategies strategies = .ok p ∧ p.ChosenBy r s d := by
  obtain ⟨rollout, hrollout, h⟩ := bind_eq_ok.1 h
  obtain ⟨matching, hmatching, h⟩ := bind_eq_ok.1 h
  obtain ⟨balancing, hbalancing, h⟩ := bind_eq_ok.1 h
  obtain ⟨retrying, hretrying, h⟩ := bind_eq_ok.1 h
  obtain ⟨rateLimiting, -, h⟩ := bind_eq_ok.1 h
  cases h
  exact ⟨_, rollout, rfl, hrollout, rfl, hmatching, hbalancing, hretrying⟩

namespace ControlPlane

theorem provisioner_eq_ok {gateway : StrategySettings} {d : Deployment} {p : Provisioner}
    (h : provisioner gateway d = .ok p) : ∃ r : Rollout, p.deployment = r.strategy := by
  obtain ⟨strategies, hstrategies, h⟩ := bind_eq_ok.1 h
  obtain ⟨p', r, hmade, hchosen⟩ := StrategySet.exists_chosen hstrategies
  obtain rfl : p' = p := Except.ok.inj (hmade.symm.trans h)
  exact ⟨r, hchosen.deployment⟩

/-- What a deployment is provisioned with reaches its own backend. -/
theorem exists_cluster_of_provision {c : ControlPlane} {d : Deployment} {api : Api} {b : Bundle}
    {name : String} (h : c.provision d api = .ok b) (hname : name ∈ b.targetNames) :
    ∃ k ∈ b.clusters, k.name = name ∧ k.Reaches d.backend ∧
      ∀ k' ∈ b.clusters, k'.name = name → k' = k := by
  obtain ⟨node, -, h⟩ := bind_eq_ok.1 h
  obtain ⟨p, hp, h⟩ := bind_eq_ok.1 h
  obtain ⟨r, hr⟩ := provisioner_eq_ok hp
  exact Provisioner.exists_cluster_of_targets hr h hname

end ControlPlane

end GatewayPlane
