import GatewayPlane.Proofs.Registry.Merging
import GatewayPlane.Proofs.Registry.Redeploying

/-!
# What a deployment changes

A contribution that is deployed takes effect: what it brings is published, and its virtual hosts
are found in the shared route configuration. But one that replaces another stands in its place,
and what later deployments bring under the same names still comes after it.
-/
namespace GatewayPlane
open Checks

section Compose
variable {base b part : Bundle} {contributions : List Contribution} {c : RouteConfiguration}

/-- The virtual hosts that are brought to the shared route configuration are found in it. -/
theorem exists_sharedRoutes_compose (v : Version) (h : compose base contributions = .ok b)
    (hpart : part ∈ partsOf base contributions) (hc : c ∈ part.routes)
    (hname : c.name = sharedRoutesName) :
    ∃ g ∈ b.routes, (Snapshot.ofBundle v b).routes.bind (·.get? sharedRoutesName) = some g ∧
      ∀ host ∈ c.virtualHosts, ∃ w ∈ g.virtualHosts, host.PartOf w := by
  obtain ⟨m, hm, rfl, hparts⟩ := compose_eq_ok h
  have hroutes := (Composition.foldlM_add_eq_ok.1 hparts).2.2.2
  have hmem : c ∈ (partsOf base contributions).flatMap (·.routes) :=
    List.mem_flatMap.2 ⟨part, hpart, hc⟩
  obtain ⟨g, hg⟩ := (Composition.exists_get?_foldlM_addRoutes hroutes _).2 ⟨c, hmem, hname⟩
  refine ⟨g, NameMap.mem_values_iff.2 ⟨_, hg⟩, ?_, fun host hhost => ?_⟩
  · rw [hm.ofBundle_toBundle]
    exact hg
  · have hhosts : Composition.sharedHosts m.routes = g.virtualHosts := by
      rw [Composition.sharedHosts, hg]
      rfl
    rw [← hhosts]
    refine (Composition.gathers_foldlM_addRoutes hroutes).covers host ?_
    refine List.mem_flatMap.2 ⟨c, hmem, ?_⟩
    rwa [RouteConfiguration.sharedHosts, if_pos hname]

/-- In a consistent configuration no other virtual host answers for the same domains. -/
theorem RouteConfiguration.DomainsApart.eq_of_alike {v w : VirtualHost} (h : c.DomainsApart)
    (hv : v ∈ c.virtualHosts) (hw : w ∈ c.virtualHosts) (halike : v.Alike w) {d : String}
    (hd : d ∈ v.domains) : v = w := by
  have hpairwise : c.virtualHosts.Pairwise VirtualHost.Apart := h
  by_contra hne
  exact hpairwise.forall hv hw hne d hd ((halike d).1 hd)

end Compose

namespace NodeEntry

/-- A contribution takes the place of the one of its deployment, or comes after all others. -/
theorem replace_cases (c : Contribution) (l : List Contribution) :
    ∃ earlier later, replace c l = earlier ++ c :: later ∧
      (l = earlier ∧ later = [] ∨
        ∃ old, l = earlier ++ old :: later ∧ old.deploymentId = c.deploymentId) := by
  induction l with
  | nil => exact ⟨[], [], rfl, .inl ⟨rfl, rfl⟩⟩
  | cons d rest ih =>
    rw [replace]
    by_cases hsame : d.deploymentId = c.deploymentId
    · rw [if_pos hsame]
      exact ⟨[], rest, rfl, .inr ⟨d, rfl, hsame⟩⟩
    · rw [if_neg hsame]
      obtain ⟨earlier, later, hreplace, hbefore⟩ := ih
      refine ⟨d :: earlier, later, by rw [hreplace, List.cons_append], ?_⟩
      rcases hbefore with ⟨rfl, hlater⟩ | ⟨old, rfl, hold⟩
      · exact .inl ⟨rfl, hlater⟩
      · exact .inr ⟨old, rfl, hold⟩

end NodeEntry

namespace Registry
variable {r : Registry} {node : NodeId} {d : Contribution} {v : Version}

/-- After a deployment the node holds what it amounts to, at the version of the reply. -/
theorem Command.Published.held {c : Command} {r' : Registry} (h : c.Published r v r')
    (hr' : r'.Represents) : ∃ b, composeChecked c.node (c.edit (r.entry c.node)).base
        (c.edit (r.entry c.node)).contributions = .ok b ∧
      r'.cache.held? c.node = some (.ofBundle v b) := by
  have hnode := hr' c.node
  rw [(entry_of_insert h.nodes).1] at hnode
  obtain ⟨-, -, b, w, hfit, hheld, hlast⟩ := hnode.of_some
  have hversion : w = v := by
    refine Version.ext_toNat ?_
    rw [← h.last, Publications.lastNumber, hlast]
    rfl
  exact ⟨b, hfit, hversion ▸ hheld⟩

/-- The resources of a contribution count, unless later ones bring others of their names. -/
theorem lastNamed_partsOf {base : Bundle} {earlier later : List Contribution} {k : Kind}
    {name : String} (hsome : ∃ x ∈ d.resources.ofKind k, x.name = name) :
    Resource.lastNamed (Bundle.ofKindAll k (partsOf base (earlier ++ d :: later))) name =
      (Resource.lastNamed (Bundle.ofKindAll k (later.map (·.resources))) name).or
        (Resource.lastNamed (d.resources.ofKind k) name) := by
  have hparts : Bundle.ofKindAll k (partsOf base (earlier ++ d :: later)) =
      Bundle.ofKindAll k (partsOf base earlier) ++ d.resources.ofKind k ++
        Bundle.ofKindAll k (later.map (·.resources)) := by
    simp [Bundle.ofKindAll, partsOf]
  rw [hparts, Resource.lastNamed_append, Resource.lastNamed_append]
  cases hown : Resource.lastNamed (d.resources.ofKind k) name with
  | some x => rfl
  | none =>
    obtain ⟨x, hx, hname⟩ := hsome
    exact absurd hname (Resource.lastNamed_eq_none_iff.1 hown x hx)

/-- A deployment that succeeds takes effect. Its contribution stands after all others, or in
the place of the one that it replaces. Under each name that it brings the last resource that it
has of this name is published, unless the contributions after it bring one: then the last of
these is. Its virtual hosts are found in the shared route configuration, each of them in the
one that answers for the same domains. -/
theorem run_deploy_effective (commands : List Command) (node : NodeId) (d : Contribution)
    {v : Version} (hdeploy : ((run {} commands).deploy node d).1 = .ok v) :
    let r := run {} commands
    let deployed := (r.deploy node d).2
    ∃ s earlier later, deployed.cache.held? node = some s ∧ s.version = v ∧
      (deployed.entry node).contributions = earlier ++ d :: later ∧
      ((r.entry node).contributions = earlier ∧ later = [] ∨
        ∃ old, (r.entry node).contributions = earlier ++ old :: later ∧
          old.deploymentId = d.deploymentId) ∧
      (∀ k name, (k, name) ≠ (.route, sharedRoutesName) →
        (∃ x ∈ d.resources.ofKind k, x.name = name) →
        (s.ofKind k).get? name =
          (Resource.lastNamed (Bundle.ofKindAll k (later.map (·.resources))) name).or
            (Resource.lastNamed (d.resources.ofKind k) name)) ∧
      ∀ c ∈ d.resources.routes, c.name = sharedRoutesName →
        ∃ g, s.routes.bind (·.get? sharedRoutesName) = some g ∧
          ∀ host ∈ c.virtualHosts, ∃ w ∈ g.virtualHosts, host.PartOf w ∧
            (host.domains ≠ [] → ∀ w' ∈ g.virtualHosts, w'.Alike host → w' = w) := by
  intro r deployed
  have hr : r.Represents := run_represents commands
  have hr' : deployed.Represents := hr.perform (.deploy node d)
  have hpublished := hr.published_of_deploy hdeploy
  obtain ⟨b, hfit, hheld⟩ := hpublished.held hr'
  obtain ⟨earlier, later, hreplace, hbefore⟩ :=
    NodeEntry.replace_cases d (r.entry node).contributions
  dsimp only [Command.edit, Command.node] at hfit
  rw [hreplace] at hfit
  obtain ⟨hcompose, hcheck⟩ := composeChecked_eq_ok_iff.1 hfit
  refine ⟨_, earlier, later, hheld, rfl, ?_, hbefore, fun k name hshared hsome => ?_,
    fun c hc hname => ?_⟩
  · exact (congrArg NodeEntry.contributions (entry_of_insert hpublished.nodes).2).trans hreplace
  · rw [get?_ofKind_compose v hshared hcompose]
    exact lastNamed_partsOf hsome
  · have hpart : d.resources ∈ partsOf (r.entry node).base (earlier ++ d :: later) := by
      simp [partsOf]
    obtain ⟨g, hg, hfound, hcovers⟩ := exists_sharedRoutes_compose v hcompose hpart hc hname
    have hapart := (Bundle.check_eq_ok_iff.1 hcheck).domains g (.inl hg)
    refine ⟨g, hfound, fun host hhost => ?_⟩
    obtain ⟨w, hw, hpartOf⟩ := hcovers host hhost
    refine ⟨w, hw, hpartOf, fun hsome w' hw' halike => ?_⟩
    obtain ⟨x, hx⟩ := List.exists_mem_of_ne_nil _ hsome
    exact hapart.eq_of_alike hw' hw (halike.trans hpartOf.alike) ((halike x).2 hx)

theorem run_deploy_effective_pets :
    let deployed := ((run {} [.listen "edge" 8080]).deploy "edge" petsContribution).2
    ∃ s, deployed.cache.held? "edge" = some s ∧
      (s.ofKind .cluster).get? "pets-v1-cluster" =
        some (.cluster (.ofBackend "pets-v1-cluster" "pets.internal" 8080 .http)) ∧
      ∀ c ∈ petsContribution.resources.routes,
        ∃ g, s.routes.bind (·.get? sharedRoutesName) = some g ∧
          ∀ host ∈ c.virtualHosts, ∃ w ∈ g.virtualHosts, host.PartOf w := by
  have hdeploy : ((run {} [.listen "edge" 8080]).deploy "edge" petsContribution).1 = .ok ⟨2⟩ := by
    decide +kernel
  have hnone : ((run {} [.listen "edge" 8080]).entry "edge").contributions = [] := by decide +kernel
  obtain ⟨s, earlier, later, hheld, -, -, hbefore, hvalues, hshared⟩ :=
    run_deploy_effective [.listen "edge" 8080] "edge" petsContribution hdeploy
  rw [hnone] at hbefore
  have hlater : later = [] := by
    rcases hbefore with ⟨-, hlater⟩ | ⟨old, hold, -⟩
    · exact hlater
    · simp at hold
  subst hlater
  refine ⟨s, hheld, ?_, fun c hc => ?_⟩
  · exact hvalues .cluster "pets-v1-cluster" (by decide) ⟨_, List.mem_singleton_self _, rfl⟩
  · obtain ⟨g, hg, hhosts⟩ := hshared c hc (by rw [List.mem_singleton.1 hc])
    refine ⟨g, hg, fun host hhost => ?_⟩
    obtain ⟨w, hw, hpartOf, -⟩ := hhosts host hhost
    exact ⟨w, hw, hpartOf⟩

/-- A contribution of one cluster. -/
def clusterContribution (deploymentId host : String) : Contribution where
  deploymentId := deploymentId
  apiName := deploymentId
  apiVersion := "v1"
  resources := { clusters := [.ofBackend "backend" host 8080 .http] }

/-- What a later deployment brings under the same name stays when an earlier one is replaced. -/
theorem not_always_effective : ¬∀ (commands : List Command) (node : NodeId) (d : Contribution)
    (v : Version), ((run {} commands).deploy node d).1 = .ok v →
    ∀ s, ((run {} commands).deploy node d).2.cache.held? node = some s →
    ∀ k name, (k, name) ≠ (.route, sharedRoutesName) →
      (∃ x ∈ d.resources.ofKind k, x.name = name) →
      (s.ofKind k).get? name = Resource.lastNamed (d.resources.ofKind k) name := by
  intro h
  let commands : List Command := [.deploy "edge" (clusterContribution "first" "a.internal"),
    .deploy "edge" (clusterContribution "second" "b.internal")]
  let again := clusterContribution "first" "c.internal"
  have hdeploy : ((run {} commands).deploy "edge" again).1 = .ok ⟨3⟩ := by decide +kernel
  have hheld : (((run {} commands).deploy "edge" again).2.cache.held? "edge").isSome = true := by
    decide +kernel
  have hstays : (((run {} commands).deploy "edge" again).2.cache.held? "edge").bind
      (fun s => (s.ofKind .cluster).get? "backend") =
      some (.cluster (.ofBackend "backend" "b.internal" 8080 .http)) := by decide +kernel
  obtain ⟨s, hs⟩ := Option.isSome_iff_exists.1 hheld
  rw [hs, Option.bind_some, h commands "edge" again ⟨3⟩ hdeploy s hs .cluster "backend" (by decide)
    ⟨_, List.mem_singleton_self _, rfl⟩] at hstays
  revert hstays
  decide +kernel

end Registry

end GatewayPlane
