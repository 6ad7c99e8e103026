import GatewayPlane.Proofs.Provision.Accepting

/-!
# Balancing on both sides

Clusters say how they choose among their hosts, and routes say what part of a request is
hashed for that. Both are set by one strategy, at different times: what is provisioned hashes
on both sides or on neither, whatever settings the strategy was chosen by.
-/
namespace GatewayPlane
open Checks Choice

/-! ## What settings ask for -/

/-- What settings ask to be hashed: a header or a cookie that they name, or else the address
that a request comes from. -/
inductive LoadBalancingSettings.HashesBy (s : LoadBalancingSettings) : HashPolicy → Prop
  | header {name : String} (choice : s.hashOn.map spelling = some "header")
      (named : s.headerName = some name) : s.HashesBy (.header name)
  | cookie {name : String} (choice : s.hashOn.map spelling = some "cookie")
      (named : s.cookieName = some name) : s.HashesBy (.cookie name)
  | sourceIp (choice : s.hashOn.map spelling = some "source-ip") : s.HashesBy (.sourceIp true)
  | unchosen (choice : s.hashOn = none) : s.HashesBy (.sourceIp true)

theorem Choice.need_eq_ok {α : Type} {block strategy : String} {o : Option α} {a : α} :
    need block strategy o = .ok a ↔ o = some a := by
  cases o <;> simp [need]

theorem HashPolicy.hashesBy_of_ofSettings {s : LoadBalancingSettings} {key : HashPolicy}
    (h : HashPolicy.ofSettings s = .ok key) : s.HashesBy key := by
  unfold ofSettings at h
  split at h
  case h_1 hchoice =>
    cases h
    exact .unchosen (Option.map_eq_none_iff.1 hchoice)
  case h_2 hchoice =>
    cases h
    exact .sourceIp hchoice
  case h_3 hchoice =>
    obtain ⟨name, hname, h⟩ := bind_eq_ok.1 h
    obtain ⟨-, h⟩ := seq_eq_ok.1 h
    cases h
    exact .header hchoice (need_eq_ok.1 hname)
  case h_4 hchoice =>
    obtain ⟨name, hname, h⟩ := bind_eq_ok.1 h
    obtain ⟨-, h⟩ := seq_eq_ok.1 h
    cases h
    exact .cookie hchoice (need_eq_ok.1 hname)
  case h_5 => cases h

/-- What can be chosen by settings: hashing cannot be made aware of localities. -/
theorem Balancing.ofSettings_cases {s : LoadBalancingSettings} {balancing : Balancing}
    (h : Balancing.ofSettings s = .ok balancing) :
    (spelling s.type = "consistent-hash" ∧
      ∃ key, s.HashesBy key ∧ balancing = consistentHash key) ∨
    (spelling s.type = "locality-aware" ∧ ∃ base, balancing = localityAware base) ∨
    (spelling s.type ≠ "consistent-hash" ∧ spelling s.type ≠ "locality-aware" ∧
      ∃ choice, balancing = plain choice) := by
  unfold ofSettings at h
  split at h
  case h_1 htype =>
    obtain ⟨key, hkey, rfl⟩ := map_eq_ok.1 h
    exact .inl ⟨htype, key, HashPolicy.hashesBy_of_ofSettings hkey, rfl⟩
  case h_2 htype =>
    dsimp only at h
    split at h
    · cases h
    · obtain ⟨base, -, rfl⟩ := map_eq_ok.1 h
      exact .inr (.inl ⟨htype, base, rfl⟩)
  case h_3 hhash hlocality =>
    obtain ⟨choice, -, rfl⟩ := map_eq_ok.1 h
    exact .inr (.inr ⟨hhash, hlocality, choice, rfl⟩)

theorem Balancing.localityAware_iff_of_ofSettings {s : LoadBalancingSettings}
    {balancing : Balancing} (h : Balancing.ofSettings s = .ok balancing) :
    (∃ base, balancing = localityAware base) ↔ spelling s.type = "locality-aware" := by
  rcases ofSettings_cases h with ⟨htype, _, -, rfl⟩ | ⟨htype, base, rfl⟩ | ⟨-, hne, _, rfl⟩
  · simp [htype]
  · simp [htype]
  · simp [hne]

/-! ## Clusters -/

namespace Cluster

/-- Whether a cluster has settings that belong to its policy, for the policies that take
settings. -/
structure Balanced (k : Cluster) : Prop where
  leastRequest : (∃ n, k.lbConfig = some (.leastRequest n)) ↔ k.lbPolicy = .leastRequest
  ringHash : (∃ n, k.lbConfig = some (.ringHash n)) ↔ k.lbPolicy = .ringHash

/-- The cluster before a policy was chosen for it. -/
def unbalanced (k : Cluster) : Cluster :=
  { k with lbPolicy := .roundRobin, lbConfig := none, localityWeighted := false }

theorem ofBackend_unbalanced (name host : String) (port : UInt16) (scheme : Scheme) :
    (ofBackend name host port scheme).unbalanced = ofBackend name host port scheme := rfl

end Cluster

theorem HostChoice.apply_balanced (choice : HostChoice) (k : Cluster) :
    (choice.apply k).Balanced := by
  cases choice <;> constructor <;> simp [apply, policy, config]

theorem HostChoice.policy_ne_ringHash (choice : HostChoice) : choice.policy ≠ .ringHash := by
  cases choice <;> nofun

namespace Balancing

theorem apply_balanced (b : Balancing) (k : Cluster) : (b.apply k).Balanced := by
  cases b with
  | plain choice => exact choice.apply_balanced k
  | consistentHash key => constructor <;> simp [apply]
  | localityAware base =>
    obtain ⟨hleast, hring⟩ := base.apply_balanced k
    exact ⟨hleast, hring⟩

theorem apply_localityWeighted {b : Balancing} {k : Cluster} (hk : k.localityWeighted = false) :
    (b.apply k).localityWeighted = true ↔ ∃ base, b = localityAware base := by
  cases b <;> simp [apply, HostChoice.apply, hk]

/-- Balancing changes nothing of a cluster but how it is balanced. -/
theorem unbalanced_apply (b : Balancing) (k : Cluster) :
    (b.apply k).unbalanced = k.unbalanced := by
  cases b <;> rfl

end Balancing

/-! ## Bundles -/

/-- What is hashed of the requests that a route forwards. -/
def Route.hashPolicies (r : Route) : List HashPolicy :=
  match r.action with
  | some (.forward a) => a.hashPolicies
  | _ => []

def Bundle.HasRoute (b : Bundle) (r : Route) : Prop :=
  ∃ c ∈ b.routes, ∃ v ∈ c.virtualHosts, r ∈ v.routes

/-- Whether the clusters and the routes of a bundle are balanced as settings ask. -/
structure Bundle.BalancedBy (b : Bundle) (s : LoadBalancingSettings) : Prop where
  clusters : ∀ k ∈ b.clusters, k.Balanced
  hashing :
    (spelling s.type = "consistent-hash" ∧ (∀ k ∈ b.clusters, k.lbPolicy = .ringHash) ∧
      ∃ key, s.HashesBy key ∧ ∀ r, b.HasRoute r → r.hashPolicies = [key]) ∨
    (spelling s.type ≠ "consistent-hash" ∧ (∀ k ∈ b.clusters, k.lbPolicy ≠ .ringHash) ∧
      ∀ r, b.HasRoute r → r.hashPolicies = [])
  locality : ∀ k ∈ b.clusters, k.localityWeighted = true ↔ spelling s.type = "locality-aware"

namespace Provisioner
variable {p : Provisioner} {r : Rollout} {d : Deployment} {api : Api} {b : Bundle}

theorem hashPolicies_of_hasRoute (h : p.provision d api = .ok b) {route : Route}
    (hroute : b.HasRoute route) : route.hashPolicies = p.balancing.hashPolicies := by
  obtain ⟨-, routes, -, hroutes, -, hconfigurations⟩ := provision_eq_ok h
  obtain ⟨c, hc, v, hv, hr⟩ := hroute
  rw [hconfigurations, List.mem_singleton] at hc
  subst hc
  rw [List.mem_singleton] at hv
  subst hv
  rw [routes_eq_map hroutes, List.map_map] at hr
  obtain ⟨o, -, rfl⟩ := List.mem_map.1 hr
  rw [Function.comp_apply, apply_route]
  rfl

theorem balancedBy_of_provision {s : LoadBalancingSettings} (hp : p.deployment = r.strategy)
    (hbalancing : Balancing.ofSettings s = .ok p.balancing) (h : p.provision d api = .ok b) :
    b.BalancedBy s := by
  have hroutes (route : Route) (hroute : b.HasRoute route) := hashPolicies_of_hasRoute h hroute
  constructor <;> rw [clusters_of_provision hp h]
  case clusters => exact List.forall_mem_map.2 fun name _ => p.balancing.apply_balanced _
  case hashing =>
    rcases Balancing.ofSettings_cases hbalancing with
      ⟨htype, key, hkey, hb⟩ | ⟨htype, base, hb⟩ | ⟨htype, -, choice, hb⟩ <;> rw [hb] at hroutes ⊢
    · exact .inl ⟨htype, List.forall_mem_map.2 fun _ _ => rfl, key, hkey, hroutes⟩
    -- what is made aware of localities is a choice among hosts, which hashes nothing
    · exact .inr ⟨by simp [htype], List.forall_mem_map.2 fun _ _ => base.policy_ne_ringHash,
        hroutes⟩
    · exact .inr ⟨htype, List.forall_mem_map.2 fun _ _ => choice.policy_ne_ringHash, hroutes⟩
  case locality =>
    refine List.forall_mem_map.2 fun name _ => ?_
    rw [Balancing.apply_localityWeighted rfl]
    exact Balancing.localityAware_iff_of_ofSettings hbalancing

end Provisioner

/-- Strategies chosen by settings make a provisioner that balances the clusters and the routes
of all that it provisions as the settings ask, and leaves everything else of a cluster as it
was made for the backend. -/
theorem StrategySet.balances {s : ResolvedSettings} {d₀ : Deployment} {strategies : StrategySet}
    (h : StrategySet.ofSettings s d₀ = .ok strategies) :
    ∃ p, Provisioner.ofStrategies strategies = .ok p ∧
      ∀ d api b, p.provision d api = .ok b →
        b.clusters ≠ [] ∧ b.BalancedBy s.loadBalancing ∧
        b.clusters.map Cluster.unbalanced = (p.deployment.clusterNames d).map fun name =>
          .ofBackend name d.backend.host d.backend.port d.backend.scheme := by
  obtain ⟨p, r, hmade, hchosen⟩ := exists_chosen h
  refine ⟨p, hmade, fun d api b hb => ⟨?_,
    Provisioner.balancedBy_of_provision hchosen.deployment hchosen.balancing hb, ?_⟩⟩
  · rw [Provisioner.clusters_of_provision hchosen.deployment hb]
    cases r <;> simp [Rollout.clusterNames]
  · rw [Provisioner.clusters_of_provision hchosen.deployment hb, hchosen.deployment, List.map_map]
    refine List.map_congr_left fun name _ => ?_
    exact (Balancing.unbalanced_apply p.balancing _).trans (Cluster.ofBackend_unbalanced ..)

/-- Whoever reads a book is always served by the same host. -/
def readerHashing : ResolvedSettings :=
  { ResolvedSettings.builtin with
    loadBalancing := {
      type := " Consistent_Hash "
      hashOn := some "Header"
      headerName := some "x-reader" } }

theorem StrategySet.balances_readers : ∃ strategies p b,
    StrategySet.ofSettings readerHashing booksDeployment = .ok strategies ∧
    Provisioner.ofStrategies strategies = .ok p ∧
    p.provision booksDeployment booksApi = .ok b ∧
    (∃ k ∈ b.clusters, k.lbPolicy = .ringHash) ∧
    ∀ r, b.HasRoute r → r.hashPolicies = [.header "x-reader"] := by
  obtain ⟨strategies, h⟩ : ∃ s, StrategySet.ofSettings readerHashing booksDeployment = .ok s :=
    ⟨_, rfl⟩
  obtain ⟨p, hmade, hbalances⟩ := StrategySet.balances h
  obtain ⟨p', r, hmade', hp, hr⟩ := exists_provisioner h
  obtain rfl : p = p' := Except.ok.inj (hmade.symm.trans hmade')
  have hapi : booksApi.WellFormed := Api.check_eq_ok_iff.1 (by decide +kernel)
  obtain ⟨b, hb⟩ := (Provisioner.exists_provision_iff hp hr).2
    ⟨booksDeployment_complete, hapi, List.pairwise_singleton _ _⟩
  obtain ⟨hsome, ⟨-, hhashing, -⟩, -⟩ := hbalances booksDeployment booksApi b hb
  have htype : Choice.spelling readerHashing.loadBalancing.type = "consistent-hash" := by
    decide +kernel
  refine ⟨strategies, p, b, h, hmade, hb, ?_⟩
  rcases hhashing with ⟨-, hring, key, hkey, hroutes⟩ | ⟨hne, -⟩
  · obtain ⟨k, hk⟩ := List.exists_mem_of_ne_nil _ hsome
    refine ⟨⟨k, hk, hring k hk⟩, ?_⟩
    have hchoice : readerHashing.loadBalancing.hashOn.map Choice.spelling = some "header" := by
      decide +kernel
    cases hkey with
    | header _ hnamed =>
      cases hnamed
      exact hroutes
    | cookie hcookie => simp [hchoice] at hcookie
    | sourceIp hsource => simp [hchoice] at hsource
    | unchosen hnone => simp [hnone] at hchoice
  · exact absurd htype hne

end GatewayPlane
