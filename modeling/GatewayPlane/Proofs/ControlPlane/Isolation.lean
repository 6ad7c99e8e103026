import GatewayPlane.Proofs.ControlPlane.Listing
import GatewayPlane.Proofs.Provision.Backends

/-!
# Who reaches whose backend

A deployment brings the clusters that its routes name, and they reach its own backend.
Clusters are put together by name alone, so one deployment can take the place of a cluster
of another: a canary does so with the version that is its baseline.
-/
namespace GatewayPlane

/-- The last cluster of a name that contributions bring. -/
def lastCluster (name : String) (contributions : List Contribution) : Option Cluster :=
  ((contributions.flatMap (·.resources.clusters)).filter (·.name == name)).getLast?

theorem lastCluster_append_cons {name : String} {earlier later : List Contribution}
    {k : Contribution} {own : Cluster} (hmem : own ∈ k.resources.clusters)
    (hname : own.name = name) (hown : ∀ x ∈ k.resources.clusters, x.name = name → x = own) :
    lastCluster name (earlier ++ k :: later) = (lastCluster name later).or (some own) := by
  have hlast : (k.resources.clusters.filter (·.name == name)).getLast? = some own := by
    cases hlast : (k.resources.clusters.filter (·.name == name)).getLast? with
    | none =>
      rw [List.getLast?_eq_none_iff, List.filter_eq_nil_iff] at hlast
      exact absurd (beq_iff_eq.2 hname) (hlast own hmem)
    | some x =>
      have hx := List.mem_filter.1 (List.mem_of_getLast? hlast)
      rw [hown x hx.1 (beq_iff_eq.1 hx.2)]
  rw [lastCluster, List.flatMap_append, List.flatMap_cons, List.filter_append,
    List.filter_append, List.getLast?_append, List.getLast?_append, hlast, lastCluster]
  cases ((later.flatMap (·.resources.clusters)).filter (·.name == name)).getLast? <;> rfl

/-- Under each name a node publishes the last cluster that its deployments bring. -/
theorem Registry.Represents.clusters_get? {r : Registry} {node : NodeId} (h : r.Represents)
    (hnode : (r.entry node).contributions ≠ []) :
    ∃ s, r.cache.held? node = some s ∧ ∀ name,
      s.clusters.bind (·.get? name) = lastCluster name (r.entry node).contributions := by
  rcases h.held?_cases node with ⟨hbare, -⟩ | ⟨-, b, v, hcompose, hheld⟩
  · rw [NodeEntry.isBare, Bool.and_eq_true, List.isEmpty_iff] at hbare
    exact absurd hbare.2 hnode
  · refine ⟨_, hheld, fun name => ?_⟩
    have hbase : (r.entry node).base.clusters = [] := by
      rcases (h.entry_sound node).base with ⟨hbase, -⟩ | ⟨port, -, hbase, -⟩
      · rw [hbase]
      · rw [hbase]
        rfl
    rw [clusters_ofBundle_compose v hcompose, Option.bind_some, hbase, List.nil_append,
      Composition.get?_insertAll, NameMap.get?_empty, Option.or_none, lastCluster]

namespace ControlPlane
open Checks

theorem Translations.exists_append_cons {c : ControlPlane} {node : NodeId} {l l' : List Listed}
    {x : Listed} {contributions : List Contribution}
    (h : c.Translations node (l ++ x :: l') contributions) :
    ∃ earlier k later, contributions = earlier ++ k :: later ∧ c.Translates node x k ∧
      c.Translations node l' later := by
  induction l generalizing contributions with
  | nil =>
    cases h with
    | cons hx hrest => exact ⟨[], _, _, rfl, hx, hrest⟩
  | cons y rest ih =>
    cases h with
    | @cons _ first _ others _ hrest =>
      obtain ⟨earlier, k, later, rfl, hx, hlater⟩ := ih hrest
      exact ⟨first :: earlier, k, later, rfl, hx, hlater⟩

/-- Every cluster that the routes of a listed deployment name was built for its own backend,
and the node publishes it as it was built, unless the deployments after it bring a cluster of
that name: then the last of these counts. -/
theorem run_isolated (gateway : StrategySettings) (commands : List Command) (node : NodeId)
    {earlier later : List Listed} {d : Deployment} {api : Api}
    (h : listed node { gateway := gateway } commands [] = earlier ++ (d, api) :: later) :
    let c := run { gateway := gateway } commands
    (c.registry.listDeployments node).map
        (·.map fun s => (s.deploymentId, s.apiName, s.apiVersion)) =
      .ok ((earlier ++ (d, api) :: later).map fun x => (x.1.id, x.1.name, x.1.version)) ∧
    ∃ b s contributions, c.provision d api = .ok b ∧ c.registry.cache.held? node = some s ∧
      c.Translations node later contributions ∧
      ∀ name ∈ b.targetNames, ∃ k ∈ b.clusters, k.name = name ∧ k.Reaches d.backend ∧
        s.clusters.bind (·.get? name) = (lastCluster name contributions).or (some k) := by
  intro c
  have htracks : c.Tracks node (listed node { gateway := gateway } commands []) :=
    run_tracks gateway node commands
  rw [h] at htracks
  refine ⟨htracks.listDeployments (by simp), ?_⟩
  obtain ⟨before, k, contributions, hentry, hk, hlater⟩ :=
    htracks.translates.exists_append_cons
  have hsome : (c.registry.entry node).contributions ≠ [] := by simp [hentry]
  obtain ⟨s, hheld, hclusters⟩ := htracks.represents.clusters_get? hsome
  refine ⟨k.resources, s, contributions, hk.provision, hheld, hlater, fun name hname => ?_⟩
  obtain ⟨own, hmem, hown, hreaches, hunique⟩ := exists_cluster_of_provision hk.provision hname
  refine ⟨own, hmem, hown, hreaches, ?_⟩
  rw [hclusters, hentry, lastCluster_append_cons hmem hown hunique]

/-! ## A canary of another deployment -/

def petsApi : Api where
  info := { name := "pets", version := "v1", basePath := some "/pets" }
  operations := [{ id := "list", method := "GET", pathPattern := "/items" }]

def petsStable : Deployment := .ofInfo "stable" default {
  name := "pets"
  version := "v1"
  backend := { host := "stable.internal", port := 8080 }
  gateway := { nodeId := "edge" } }

/-- The next version, all of whose requests go to the canary. Its baseline is the version
that is deployed already. -/
def petsNext : Deployment := .ofInfo "next" default {
  name := "pets"
  version := "v2"
  backend := { host := "next.internal", port := 8080 }
  gateway := { nodeId := "edge" }
  strategy := some {
    deployment := some { type := "canary", canary := some ⟨"v1", "v2", 100⟩ } } }

def petsCommands : List Command := [.deploy petsStable petsApi, .deploy petsNext petsApi]

theorem listed_pets :
    listed "edge" {} petsCommands [] = [] ++ (petsStable, petsApi) :: [(petsNext, petsApi)] := by
  rw [petsCommands, listed_cons_of_isOk (by decide +kernel),
    listed_cons_of_isOk (by decide +kernel), listed]
  rfl

theorem run_isolated_pets :
    let c := run {} petsCommands
    (c.registry.listDeployments "edge").map
        (·.map fun s => (s.deploymentId, s.apiName, s.apiVersion)) =
      .ok [("stable", "pets", "v1"), ("next", "pets", "v2")] ∧
    ∃ b s contributions, c.provision petsStable petsApi = .ok b ∧
      c.registry.cache.held? "edge" = some s ∧
      c.Translations "edge" [(petsNext, petsApi)] contributions ∧
      ∀ name ∈ b.targetNames, ∃ k ∈ b.clusters, k.name = name ∧ k.Reaches petsStable.backend ∧
        s.clusters.bind (·.get? name) = (lastCluster name contributions).or (some k) :=
  run_isolated {} petsCommands "edge" listed_pets

/-- The canary brings a cluster for its baseline too, and so takes the requests of the version
that is deployed already to its own backend. -/
theorem not_always_own_cluster :
    ¬∀ (gateway : StrategySettings) (commands : List Command) (node : NodeId) (x : Listed)
      (b : Bundle), x ∈ listed node { gateway := gateway } commands [] →
      (run { gateway := gateway } commands).provision x.1 x.2 = .ok b →
      ∀ name ∈ b.targetNames, ∃ k ∈ b.clusters, k.name = name ∧
        ((run { gateway := gateway } commands).registry.cache.held? node).bind
          (fun s => s.clusters.bind (·.get? name)) = some k := by
  intro h
  have htargets : ((run {} petsCommands).provision petsStable petsApi).toOption.map
      (·.targetNames) = some ["pets-v1-cluster"] := by decide +kernel
  have htaken : (((run {} petsCommands).registry.cache.held? "edge").bind
      fun s => s.clusters.bind (·.get? "pets-v1-cluster")).bind (·.loadAssignment) =
      some ⟨"pets-v1-cluster", [[⟨"next.internal", 8080⟩]]⟩ := by decide +kernel
  obtain ⟨b, hb, hnames⟩ := Option.map_eq_some_iff.1 htargets
  have hprovision := toOption_eq_some.1 hb
  have hlisted : (petsStable, petsApi) ∈ listed "edge" {} petsCommands [] := by
    simp [listed_pets]
  have hname : "pets-v1-cluster" ∈ b.targetNames := by simp [hnames]
  obtain ⟨k, hk, hkname, hheld⟩ := h {} petsCommands "edge" _ b hlisted hprovision _ hname
  obtain ⟨own, -, -, hreaches, hown⟩ := exists_cluster_of_provision hprovision hname
  rw [hheld, Option.bind_some, hown k hk hkname, hreaches.loadAssignment] at htaken
  have hhosts := congrArg LoadAssignment.localities (Option.some.inj htaken)
  simp [petsStable, Deployment.backend, Deployment.ofInfo] at hhosts

end ControlPlane

end GatewayPlane
