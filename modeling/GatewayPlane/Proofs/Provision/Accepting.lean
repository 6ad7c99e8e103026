import GatewayPlane.Proofs.Provision.Backends
import GatewayPlane.Proofs.Resource.Managing

/-!
# What can be provisioned

A deployment is provisioned exactly when it says what it has to say about itself, its API
is well-formed, and no two operations take the same requests; whatever strategies were
chosen. What it is provisioned with is consistent by itself.
-/
namespace GatewayPlane
open Checks

/-! ## Well-formed input -/

/-- What every deployment has to say about itself and its backend. -/
structure Deployment.Complete (d : Deployment) : Prop where
  name : Text.isBlankText d.name = false
  version : Text.isBlankText d.version = false
  host : Text.isBlankText d.backend.host = false
  port : d.backend.port ≠ 0

theorem requireText_eq_ok {field value : String} :
    requireText field value = .ok () ↔ Text.isBlankText value = false := by
  unfold requireText
  cases Text.isBlankText value <;> simp

theorem Deployment.checkBackend_eq_ok_iff {d : Deployment} :
    d.checkBackend = .ok () ↔ d.Complete := by
  rw [checkBackend, seq_eq_ok, seq_eq_ok, seq_eq_ok, requireText_eq_ok, requireText_eq_ok,
    requireText_eq_ok]
  by_cases hport : d.backend.port = 0
  · rw [if_pos hport]
    exact iff_of_false (by simp) fun h => h.port hport
  · rw [if_neg hport]
    exact ⟨fun ⟨hname, hversion, hhost, _⟩ => ⟨hname, hversion, hhost, hport⟩,
      fun h => ⟨h.name, h.version, h.host, rfl⟩⟩

namespace Operation

/-- Whether an operation can be told from none, and its path is absolute and declared. -/
structure WellFormed (o : Operation) : Prop where
  id : o.id ≠ ""
  method : Text.isBlankText o.method = false
  path : o.pathPattern.toList.head? = some '/'
  declared : ∀ name ∈ Path.parameters o.pathPattern,
    ∃ p ∈ o.parameters, p.name = name ∧ p.place = .path

theorem check_eq_ok_iff {seen : List String} {o : Operation} :
    o.check seen = .ok () ↔ o.WellFormed ∧ o.id ∉ seen := by
  have hdeclared : ((Path.parameters o.pathPattern).find? fun p => !o.declares p) = none ↔
      ∀ name ∈ Path.parameters o.pathPattern,
        ∃ p ∈ o.parameters, p.name = name ∧ p.place = .path := by
    simp [declares]
  unfold check
  dsimp only
  rw [ite_throw_eq_ok, ite_throw_eq_ok, ite_throw_eq_ok, ite_throw_eq_ok, String.isEmpty_iff,
    List.contains_iff_mem, Bool.not_eq_true, Decidable.not_not]
  cases hfound : (Path.parameters o.pathPattern).find? fun p => !o.declares p with
  | some name =>
    refine iff_of_false (fun h => throw_ne_ok h.2.2.2.2) fun h => ?_
    rw [hdeclared.2 h.1.declared] at hfound
    cases hfound
  | none =>
    constructor
    · rintro ⟨hid, hnew, hmethod, hpath, -⟩
      exact ⟨⟨hid, hmethod, hpath, hdeclared.1 hfound⟩, hnew⟩
    · rintro ⟨h, hnew⟩
      exact ⟨h.id, hnew, h.method, h.path, rfl⟩

end Operation

namespace Api

structure WellFormed (a : Api) : Prop where
  operations : ∀ o ∈ a.operations, o.WellFormed
  distinct : (a.operations.map (·.id)).Nodup

theorem checkOperations_eq_ok_iff {seen : List String} {ops : List Operation} :
    checkOperations seen ops = .ok () ↔
      (∀ o ∈ ops, o.WellFormed) ∧ (ops.map (·.id)).Nodup ∧ ∀ o ∈ ops, o.id ∉ seen := by
  induction ops generalizing seen with
  | nil => simp [checkOperations]
  | cons o rest ih =>
    rw [checkOperations, seq_eq_ok, Operation.check_eq_ok_iff, ih]
    simp only [List.map_cons, List.nodup_cons, List.mem_map, List.mem_cons, not_or]
    grind

theorem check_eq_ok_iff {a : Api} : a.check = .ok () ↔ a.WellFormed := by
  rw [check, checkOperations_eq_ok_iff]
  exact ⟨fun ⟨hoperations, hdistinct, _⟩ => ⟨hoperations, hdistinct⟩,
    fun h => ⟨h.operations, h.distinct, fun _ _ => List.not_mem_nil⟩⟩

end Api

/-! ## Rollouts -/

namespace Rollout

theorem check_eq_ok_iff {r : Rollout} (hr : r.checkSettings = .ok ()) {d : Deployment} :
    r.check d = .ok () ↔ d.Complete := by
  rw [check, seq_eq_ok, Deployment.checkBackend_eq_ok_iff]
  exact and_iff_right hr

/-- No cluster of a rollout stands in for another. -/
theorem nodup_clusterNames {r : Rollout} (hr : r.checkSettings = .ok ()) (d : Deployment) :
    (r.clusterNames d).Nodup := by
  cases r with
  | basic => simp [clusterNames]
  | canary baselineVersion canaryVersion weight =>
    have hne : baselineVersion ≠ canaryVersion := by
      rintro rfl
      unfold checkSettings at hr
      dsimp only at hr
      rw [ite_throw_eq_ok, seq_eq_ok, seq_eq_ok, if_pos rfl] at hr
      exact throw_ne_ok hr.2.2.2
    rw [clusterNames, List.nodup_cons, List.mem_singleton]
    refine ⟨fun h => hne ?_, by simp⟩
    simpa [toString] using h
  | blueGreen active standby autoPromote =>
    rw [clusterNames, List.nodup_cons, List.mem_singleton]
    refine ⟨fun h => ?_, by simp⟩
    -- the names end in different words
    have hends := congrArg (fun name => name.toList.reverse.drop 8) h
    simp [toString] at hends

end Rollout

/-! ## Provisioners -/

namespace Provisioner
variable {p : Provisioner} {r : Rollout} {d : Deployment} {api : Api} {b : Bundle}

theorem exists_clusters (hp : p.deployment = r.strategy) (hr : r.checkSettings = .ok ())
    (hd : d.Complete) : ∃ clusters, p.clusters d = .ok clusters := by
  have hplain : p.deployment.clusters d = .ok ((r.clusterNames d).map fun name =>
      .ofBackend name d.backend.host d.backend.port d.backend.scheme) := by
    rw [hp]
    exact seq_eq_ok.2 ⟨(Rollout.check_eq_ok_iff hr).2 hd, rfl⟩
  have hsome : (r.clusterNames d).isEmpty = false := by cases r <;> rfl
  refine exists_bind_eq_ok.2 ⟨_, hplain, ?_⟩
  rw [if_neg (by simpa using hsome)]
  exact ⟨_, rfl⟩

/-- Routes are made when no two operations take the same requests. -/
theorem exists_routes_iff {base : String} {seen : List RouteMatch} {ops : List Operation} :
    (∃ routes, p.routes d base seen ops = .ok routes) ↔
      (ops.map fun o => (p.criteria base o).folded).Nodup ∧
      ∀ o ∈ ops, (p.criteria base o).folded ∉ seen := by
  induction ops generalizing seen with
  | nil => simp [Provisioner.routes]
  | cons o rest ih =>
    have hstep : (∃ routes, p.routes d base seen (o :: rest) = .ok routes) ↔
        (p.criteria base o).folded ∉ seen ∧
          ∃ later, p.routes d base ((p.criteria base o).folded :: seen) rest = .ok later := by
      rw [Provisioner.routes]
      simp only [ite_throw_eq_ok, List.contains_iff_mem, exists_and_left, exists_bind_eq_ok,
        pure_eq_ok, exists_eq', and_true]
    rw [hstep, ih]
    simp only [List.map_cons, List.nodup_cons, List.mem_map, List.mem_cons, not_or]
    grind

/-- What is provisioned, whatever strategies were chosen. -/
theorem exists_provision_iff (hp : p.deployment = r.strategy) (hr : r.checkSettings = .ok ()) :
    (∃ b, p.provision d api = .ok b) ↔ d.Complete ∧ api.WellFormed ∧
      (api.operations.map fun o => (p.criteria (basePath d api) o).folded).Nodup := by
  have hcheck : p.check d api = .ok () ↔ d.Complete ∧ api.WellFormed := by
    rw [check, hp, seq_eq_ok, Api.check_eq_ok_iff]
    exact and_congr_left fun _ => Rollout.check_eq_ok_iff hr
  have hroutes : (∃ c, p.routeConfiguration d api = .ok c) ↔
      (api.operations.map fun o => (p.criteria (basePath d api) o).folded).Nodup := by
    rw [routeConfiguration, exists_bind_eq_ok]
    simp only [pure_eq_ok, exists_eq', and_true, exists_routes_iff]
    simp
  rw [provision, exists_bind_eq_ok]
  constructor
  · rintro ⟨⟨⟩, hchecked, h⟩
    obtain ⟨clusters, -, h⟩ := exists_bind_eq_ok.1 h
    obtain ⟨c, hc, -⟩ := exists_bind_eq_ok.1 h
    obtain ⟨hd, hapi⟩ := hcheck.1 hchecked
    exact ⟨hd, hapi, hroutes.1 ⟨c, hc⟩⟩
  · rintro ⟨hd, hapi, hdistinct⟩
    obtain ⟨clusters, hclusters⟩ := exists_clusters hp hr hd
    obtain ⟨c, hc⟩ := hroutes.2 hdistinct
    refine ⟨(), hcheck.2 ⟨hd, hapi⟩, exists_bind_eq_ok.2 ⟨clusters, hclusters, ?_⟩⟩
    exact exists_bind_eq_ok.2 ⟨c, hc, _, rfl⟩

/-! ## What is provisioned -/

theorem listeners_of_provision (h : p.provision d api = .ok b) : b.listeners = listeners d := by
  obtain ⟨-, h⟩ := seq_eq_ok.1 h
  obtain ⟨clusters, -, h⟩ := bind_eq_ok.1 h
  obtain ⟨configuration, -, h⟩ := bind_eq_ok.1 h
  cases h
  rfl

theorem clusterNames_of_provision (hp : p.deployment = r.strategy)
    (h : p.provision d api = .ok b) : b.clusters.map (·.name) = r.clusterNames d := by
  rw [clusters_of_provision hp h, List.map_map]
  refine List.map_id'' (fun name => ?_) _
  exact Balancing.apply_name _ _

/-- The managers of its listeners take their routes from the configuration that comes with
them. -/
theorem manages_of_mem_listeners {l : Listener} (hl : l ∈ listeners d)
    (hlength : ∀ c ∈ l.managerConfigs, c.value.length < UInt64.size) :
    l.Readable ∧ (∃ m, l.Manages m) ∧
      ∀ m, l.Manages m → m.routes = some (.discovered (routesName d) (some .aggregated)) := by
  unfold listeners at hl
  split at hl
  · cases List.mem_singleton.1 hl
    obtain ⟨hreadable, hmanages⟩ := Listener.manages_routed hlength
    refine ⟨hreadable, ⟨_, (hmanages _).2 rfl⟩, fun m hm => ?_⟩
    rw [(hmanages m).1 hm]
    rfl
  · cases hl

theorem consistent_of_provision (hp : p.deployment = r.strategy) (h : p.provision d api = .ok b)
    (hlength : ∀ l ∈ b.listeners, ∀ c ∈ l.managerConfigs, c.value.length < UInt64.size) :
    b.Consistent := by
  obtain ⟨plain, routes, -, -, -, hroutes⟩ := provision_eq_ok h
  have hlisteners := listeners_of_provision h
  have hmanages {l : Listener} (hl : l ∈ b.listeners) :=
    manages_of_mem_listeners (hlisteners ▸ hl) (hlength l hl)
  have hserves (c : RouteConfiguration) (hc : b.Serves c) : c ∈ b.routes := by
    rcases hc with hc | ⟨l, hl, m, hm, hinline⟩
    · exact hc
    · rw [(hmanages hl).2.2 m hm] at hinline
      cases hinline
  constructor
  case clusters =>
    intro c hc name htargets
    obtain ⟨k, hk, hname, -⟩ :=
      exists_cluster_of_targets hp h (Bundle.mem_targetNames.2 ⟨c, hserves c hc, htargets⟩)
    exact ⟨k, hk, hname⟩
  case routes =>
    intro l hl m hm name source hdiscovered
    rw [(hmanages hl).2.2 m hm] at hdiscovered
    cases hdiscovered
    exact ⟨_, hroutes ▸ List.mem_singleton_self _, rfl⟩
  case domains =>
    intro c hc
    have hmem := hserves c hc
    rw [hroutes, List.mem_singleton] at hmem
    subst hmem
    exact List.pairwise_singleton _ _
  case addresses =>
    rw [hlisteners]
    unfold listeners
    split
    · exact List.pairwise_singleton _ _
    · exact .nil
  case readable => exact fun l hl => (hmanages hl).1

end Provisioner

/-! ## Chosen strategies -/

theorem Rollout.ofSettings_checked {s : DeploymentSettings} {r : Rollout}
    (h : Rollout.ofSettings s = .ok r) : r.checkSettings = .ok () := by
  have hchecked {r' : Rollout} (h : Choice.checked r' = .ok r) : r.checkSettings = .ok () := by
    obtain ⟨hr, h⟩ := seq_eq_ok.1 h
    cases h
    exact hr
  unfold ofSettings at h
  split at h
  · cases h
    rfl
  · obtain ⟨c, -, h⟩ := bind_eq_ok.1 h
    exact hchecked h
  · obtain ⟨c, -, h⟩ := bind_eq_ok.1 h
    exact hchecked h
  · cases h

/-- Chosen strategies make a provisioner, whose rollout makes sense. -/
theorem StrategySet.exists_provisioner {s : ResolvedSettings} {d : Deployment}
    {strategies : StrategySet} (h : StrategySet.ofSettings s d = .ok strategies) :
    ∃ (p : Provisioner) (r : Rollout), Provisioner.ofStrategies strategies = .ok p ∧
      p.deployment = r.strategy ∧ r.checkSettings = .ok () := by
  obtain ⟨p, r, hmade, hchosen⟩ := exists_chosen h
  exact ⟨p, r, hmade, hchosen.deployment, Rollout.ofSettings_checked hchosen.rollout⟩

/-- Strategies chosen by settings make a provisioner. It provisions exactly the deployments
that say what they must, with well-formed APIs whose operations take different requests; and
what it provisions has the clusters of its strategy and one route configuration, is
consistent on every node, and listens only for that configuration. The bytes of a filter can
always be counted in 64 bits. -/
theorem StrategySet.provisions {s : ResolvedSettings} {d₀ : Deployment} {strategies : StrategySet}
    (h : StrategySet.ofSettings s d₀ = .ok strategies) :
    ∃ p, Provisioner.ofStrategies strategies = .ok p ∧ ∀ d api,
      ((∃ b, p.provision d api = .ok b) ↔ d.Complete ∧ api.WellFormed ∧
        (api.operations.map fun o => (p.criteria (Provisioner.basePath d api) o).folded).Nodup) ∧
      ∀ b, p.provision d api = .ok b →
        b.clusters.map (·.name) = p.deployment.clusterNames d ∧
        (b.clusters.map (·.name)).Nodup ∧
        ∃ routes, b.routes = [routes] ∧
          ((∀ l ∈ b.listeners, ∀ c ∈ l.managerConfigs, c.value.length < UInt64.size) →
            (∀ node, b.check node = .ok ()) ∧
            ∀ l ∈ b.listeners, (∃ m, l.Manages m) ∧ ∀ m, l.Manages m →
              ∃ source, m.routes = some (.discovered routes.name source)) := by
  obtain ⟨p, r, hmade, hp, hr⟩ := exists_provisioner h
  refine ⟨p, hmade, fun d api => ⟨Provisioner.exists_provision_iff hp hr, fun b hb => ?_⟩⟩
  have hnames := Provisioner.clusterNames_of_provision hp hb
  obtain ⟨plain, routes, -, -, -, hroutes⟩ := Provisioner.provision_eq_ok hb
  refine ⟨?_, hnames ▸ Rollout.nodup_clusterNames hr d, _, hroutes, fun hlength => ⟨?_, ?_⟩⟩
  · rw [hnames, hp]
    rfl
  · have hconsistent := Provisioner.consistent_of_provision hp hb hlength
    exact fun node => Bundle.check_eq_ok_iff.2 hconsistent
  · intro l hl
    have hmem := Provisioner.listeners_of_provision hb ▸ hl
    obtain ⟨-, hsome, hall⟩ := Provisioner.manages_of_mem_listeners hmem (hlength l hl)
    exact ⟨hsome, fun m hm => ⟨_, hall m hm⟩⟩

def booksApi : Api where
  info := { name := "books", version := "v1", basePath := some "/books" }
  operations := [.ofPattern "read" "get" "/\x7bisbn\x7d"]

/-- A deployment with a listener of its own. -/
def booksDeployment : Deployment := .ofInfo "books" default {
  name := "books"
  version := "v1"
  backend := { host := "books.internal", port := 8080 }
  gateway := { nodeId := "edge", dedicatedListener := true } }

theorem booksDeployment_complete : booksDeployment.Complete := by
  constructor <;> decide +kernel

theorem StrategySet.provisions_books : ∃ strategies p b,
    StrategySet.ofSettings .builtin booksDeployment = .ok strategies ∧
    Provisioner.ofStrategies strategies = .ok p ∧
    p.provision booksDeployment booksApi = .ok b ∧ b.check "edge" = .ok () ∧
    ∃ l ∈ b.listeners, ∃ m, l.Manages m := by
  obtain ⟨strategies, h⟩ : ∃ s, StrategySet.ofSettings .builtin booksDeployment = .ok s := ⟨_, rfl⟩
  obtain ⟨p, hmade, hprovisions⟩ := StrategySet.provisions h
  obtain ⟨haccepts, hresult⟩ := hprovisions booksDeployment booksApi
  have hcomplete : booksDeployment.Complete := by constructor <;> decide +kernel
  have hapi : booksApi.WellFormed := Api.check_eq_ok_iff.1 (by decide +kernel)
  obtain ⟨b, hb⟩ := haccepts.2 ⟨hcomplete, hapi, List.pairwise_singleton _ _⟩
  obtain ⟨-, -, routes, -, hconsistent⟩ := hresult b hb
  have hlisteners := Provisioner.listeners_of_provision hb
  obtain ⟨hcheck, hmanages⟩ := hconsistent (by rw [hlisteners]; decide +kernel)
  have hl : .routed "books-v1-listener" "books-v1-route" 10000 ∈ b.listeners := by
    rw [hlisteners]
    decide +kernel
  exact ⟨strategies, p, b, h, hmade, hb, hcheck "edge", _, hl, (hmanages _ hl).1⟩

end GatewayPlane
