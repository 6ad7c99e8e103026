import GatewayPlane.Consistency
import GatewayPlane.Proofs.Checks

/-!
# What consistent resources are

Consistency said without a checker: which clusters a route configuration names, which
connection managers a listener holds, and what must be there for them. The checker finds
no conflict exactly when the resources are consistent.
-/
namespace GatewayPlane
open Checks

/-- Whether a route names a cluster for its requests, alone or with a share of them. -/
def Route.Forwards (r : Route) (cluster : String) : Prop :=
  ∃ a, r.action = some (.forward a) ∧
    (a.specifier = some (.cluster cluster) ∨
      ∃ shares, a.specifier = some (.weighted shares) ∧ ∃ s ∈ shares, s.name = cluster)

namespace RouteConfiguration

/-- Whether some route of a configuration names a cluster. -/
def Targets (c : RouteConfiguration) (cluster : String) : Prop :=
  ∃ v ∈ c.virtualHosts, ∃ r ∈ v.routes, r.Forwards cluster

/-- No domain belongs to two virtual hosts. -/
def DomainsApart (c : RouteConfiguration) : Prop :=
  c.virtualHosts.Pairwise fun v w => ∀ d ∈ v.domains, d ∉ w.domains

end RouteConfiguration

namespace Listener

/-- Whether a filter of a listener is configured, by its type, as a connection manager. -/
def HasManagerConfig (l : Listener) (c : TypedConfig) : Prop :=
  ∃ chain ∈ l.filterChains, ∃ f ∈ chain.filters,
    f.config = some c ∧ c.typeUrl = TypeUrl.connectionManager

def Manages (l : Listener) (m : ConnectionManager) : Prop :=
  ∃ c, l.HasManagerConfig c ∧ ConnectionManager.decode? c.value = some m

/-- Every configuration of a connection manager can be read. -/
def Readable (l : Listener) : Prop :=
  ∀ c, l.HasManagerConfig c → ∃ m, ConnectionManager.decode? c.value = some m

/-- Whether a listener waits at a socket with a numeric port. -/
def Binds (l : Listener) (host : String) (port : UInt32) : Prop :=
  l.address = some (.socket host (some (.number port)))

instance (l : Listener) (host : String) (port : UInt32) : Decidable (l.Binds host port) :=
  inferInstanceAs (Decidable (l.address = some (.socket host (some (.number port)))))

/-- Whether two listeners do not wait at one socket. -/
def AddressApart (l l' : Listener) : Prop := ∀ host port, l.Binds host port → ¬l'.Binds host port

instance : Std.Symm AddressApart := ⟨fun _ _ h host port hl' hl => h host port hl hl'⟩

end Listener

namespace Bundle

/-- The route configurations of a bundle, with those that its listeners hold themselves. -/
def Serves (b : Bundle) (c : RouteConfiguration) : Prop :=
  c ∈ b.routes ∨ ∃ l ∈ b.listeners, ∃ m, l.Manages m ∧ m.routes = some (.inline c)

/-- Resources that refer to nothing that is missing and do not stand in each other's way. -/
structure Consistent (b : Bundle) : Prop where
  clusters : ∀ c, b.Serves c → ∀ name, c.Targets name → ∃ k ∈ b.clusters, k.name = name
  routes : ∀ l ∈ b.listeners, ∀ m, l.Manages m → ∀ name source,
    m.routes = some (.discovered name source) → ∃ c ∈ b.routes, c.name = name
  domains : ∀ c, b.Serves c → c.DomainsApart
  addresses : b.listeners.Pairwise Listener.AddressApart
  readable : ∀ l ∈ b.listeners, l.Readable

end Bundle

/-! ## Route configurations -/

namespace Route

theorem mem_clusterNames_target? {r : Route} {cluster : String} :
    cluster ∈ (r.target?.map RouteTarget.clusterNames).getD [] ↔ r.Forwards cluster := by
  unfold target? Forwards
  split
  · next a haction =>
    rw [haction]
    cases hspec : a.specifier with
    | none => simp [hspec]
    | some specifier =>
      cases specifier with
      | cluster name => simp [hspec, RouteTarget.ofSpecifier?, RouteTarget.clusterNames, eq_comm]
      | header name => simp [hspec, RouteTarget.ofSpecifier?]
      | weighted shares => simp [hspec, RouteTarget.ofSpecifier?, RouteTarget.clusterNames]
  · next hother =>
    simp only [Option.map_none, Option.getD_none, List.not_mem_nil, false_iff]
    rintro ⟨a, haction, -⟩
    exact hother a haction

end Route

namespace RouteConfiguration

/-- The domains that a virtual host adds are claimed from then on. -/
theorem lookup_claimed_eq_none {domain name : String} {v : VirtualHost}
    {claimed : List (String × String)} :
    ((Text.sortedDistinct v.domains).map (fun d => (d, name)) ++ claimed).lookup domain = none ↔
      domain ∉ v.domains ∧ claimed.lookup domain = none := by
  rw [List.lookup_append, Option.or_eq_none_iff]
  refine and_congr ?_ Iff.rfl
  simp only [List.lookup_eq_none_iff, List.mem_map, Text.mem_sortedDistinct, bne_iff_ne]
  constructor
  · intro h hmem
    exact h (domain, name) ⟨domain, hmem, rfl⟩ rfl
  · rintro h p ⟨d, hmem, rfl⟩ rfl
    exact h hmem

theorem checkHosts_eq_ok_iff {clusters : List String} {routes : String}
    {claimed : List (String × String)} {hosts : List VirtualHost} :
    checkHosts clusters routes claimed hosts = .ok () ↔
      (∀ v ∈ hosts, ∀ d ∈ v.domains, claimed.lookup d = none) ∧
      (hosts.Pairwise fun v w => ∀ d ∈ v.domains, d ∉ w.domains) ∧
      ∀ v ∈ hosts, ∀ r ∈ v.routes, ∀ c, r.Forwards c → c ∈ clusters := by
  induction hosts generalizing claimed with
  | nil => simp [checkHosts]
  | cons v rest ih =>
    rw [checkHosts, seq_eq_ok, seq_eq_ok, ih,
      forIn_eq_ok (P := fun d => claimed.lookup d = none),
      forIn_eq_ok (P := fun r => ∀ c, r.Forwards c → c ∈ clusters)]
    · simp only [Text.mem_sortedDistinct, lookup_claimed_eq_none, List.forall_mem_cons,
        List.pairwise_cons]
      grind
    · intro r next
      simp only [← Route.mem_clusterNames_target?]
      cases hfound : ((r.target?.map RouteTarget.clusterNames).getD []).find?
          fun c => !clusters.contains c with
      | none => exact pure_eq_ok.trans (and_iff_right (by simpa using hfound)).symm
      | some c =>
        have hmissing : c ∉ clusters := by simpa using List.find?_some hfound
        have hnamed := List.mem_of_find?_eq_some hfound
        exact iff_of_false (by simp) fun h => hmissing (h.1 c hnamed)
    · intro d next
      cases claimed.lookup d <;> simp

theorem check_eq_ok_iff {clusters : List String} {c : RouteConfiguration} :
    c.check clusters = .ok () ↔ c.DomainsApart ∧ ∀ name, c.Targets name → name ∈ clusters := by
  rw [check, checkHosts_eq_ok_iff]
  constructor
  · rintro ⟨-, hapart, htargets⟩
    refine ⟨hapart, ?_⟩
    rintro name ⟨v, hv, r, hr, hforwards⟩
    exact htargets v hv r hr name hforwards
  · rintro ⟨hapart, htargets⟩
    refine ⟨fun _ _ _ _ => rfl, hapart, ?_⟩
    intro v hv r hr name hforwards
    exact htargets name ⟨v, hv, r, hr, hforwards⟩

end RouteConfiguration

/-! ## Listeners -/

namespace Listener

theorem mem_managerConfigs {l : Listener} {c : TypedConfig} :
    c ∈ l.managerConfigs ↔ l.HasManagerConfig c := by
  simp only [managerConfigs, HasManagerConfig, List.mem_filter, List.mem_flatMap,
    List.mem_filterMap, beq_iff_eq]
  grind

theorem read_eq_ok {l : Listener} {c : TypedConfig} {m : ConnectionManager} :
    (match ConnectionManager.decode? c.value with
      | some m => .ok m
      | none => .error (Conflict.undecodable l.name c.typeUrl) : Except Conflict _) = .ok m ↔
      ConnectionManager.decode? c.value = some m := by
  cases ConnectionManager.decode? c.value <;> simp

/-- What a listener's managers are when all of them can be read. -/
theorem connectionManagers_eq_ok {l : Listener} {managers : List ConnectionManager}
    (h : l.connectionManagers = .ok managers) :
    l.Readable ∧ ∀ m, m ∈ managers ↔ l.Manages m := by
  obtain ⟨hall, hmem⟩ := mapM_eq_ok h
  constructor
  · intro c hc
    obtain ⟨m, hm⟩ := hall c (mem_managerConfigs.2 hc)
    exact ⟨m, read_eq_ok.1 hm⟩
  · intro m
    rw [hmem]
    constructor
    · rintro ⟨c, hc, hm⟩
      exact ⟨c, mem_managerConfigs.1 hc, read_eq_ok.1 hm⟩
    · rintro ⟨c, hc, hm⟩
      exact ⟨c, mem_managerConfigs.2 hc, read_eq_ok.2 hm⟩

theorem exists_connectionManagers {l : Listener} (h : l.Readable) :
    ∃ managers, l.connectionManagers = .ok managers := by
  apply exists_mapM_eq_ok
  intro c hc
  obtain ⟨m, hm⟩ := h c (mem_managerConfigs.1 hc)
  exact ⟨m, read_eq_ok.2 hm⟩

/-- Whether the routes of a connection manager are there, and lead to clusters. -/
def RoutesSound (clusters routes : List String) (m : ConnectionManager) : Prop :=
  (∀ name source, m.routes = some (.discovered name source) → name ∈ routes) ∧
    ∀ c, m.routes = some (.inline c) →
      c.DomainsApart ∧ ∀ name, c.Targets name → name ∈ clusters

theorem checkRoutes_eq_ok_iff {clusters routes : List String} {l : Listener} :
    l.checkRoutes clusters routes = .ok () ↔
      l.Readable ∧ ∀ m, l.Manages m → RoutesSound clusters routes m := by
  -- once the managers are read, the rest is a loop that checks each of them
  have hloop (managers : List ConnectionManager) :
      l.connectionManagers = .ok managers → (l.checkRoutes clusters routes = .ok () ↔
        ∀ m ∈ managers, RoutesSound clusters routes m) := by
    intro hmanagers
    rw [checkRoutes, hmanagers]
    change (forIn managers () _ >>= fun _ => pure ()) = (.ok () : Except Conflict Unit) ↔ _
    rw [seq_eq_ok, forIn_eq_ok (P := RoutesSound clusters routes)]
    · simp
    · intro m next
      cases hroutes : m.routes with
      | none => simp [RoutesSound, hroutes]
      | some specifier =>
        cases specifier with
        | discovered name source =>
          by_cases hmem : name ∈ routes <;> simp [RoutesSound, hroutes, hmem]
        | inline c =>
          have hsound : RoutesSound clusters routes m ↔ c.check clusters = .ok () := by
            simp [RoutesSound, hroutes, RouteConfiguration.check_eq_ok_iff]
          rw [hsound]
          exact seq_eq_ok.trans (and_congr_right fun _ => pure_eq_ok)
  constructor
  · intro h
    obtain ⟨managers, hmanagers, -⟩ := bind_eq_ok.1 h
    obtain ⟨hreadable, hmem⟩ := connectionManagers_eq_ok hmanagers
    refine ⟨hreadable, fun m hm => ?_⟩
    exact (hloop managers hmanagers).1 h m ((hmem m).2 hm)
  · rintro ⟨hreadable, hsound⟩
    obtain ⟨managers, hmanagers⟩ := exists_connectionManagers hreadable
    obtain ⟨-, hmem⟩ := connectionManagers_eq_ok hmanagers
    exact (hloop managers hmanagers).2 fun m hm => hsound m ((hmem m).1 hm)

end Listener

/-! ## Bundles -/

namespace Listener
variable {l l' : Listener}

theorem address?_eq_some_iff {host : String} {port : UInt32} :
    l.address? = some ⟨host, port⟩ ↔ l.Binds host port := by
  unfold address? Binds
  constructor
  · intro h
    obtain ⟨address, haddress, h⟩ := Option.bind_eq_some_iff.1 h
    rw [haddress]
    unfold Address.hostPort? at h
    split at h
    · cases h
      rfl
    · cases h
  · intro h
    rw [h]
    rfl

theorem addressApart_iff :
    l.AddressApart l' ↔ ∀ a, l.address? = some a → l'.address? ≠ some a := by
  simp only [AddressApart, ← address?_eq_some_iff]
  exact ⟨fun h a => h a.host a.port, fun h host port => h ⟨host, port⟩⟩

end Listener

namespace Bundle

theorem checkListeners_eq_ok_iff {clusters routes : List String}
    {bound : List (HostPort × String)} {listeners : List Listener} :
    checkListeners clusters routes bound listeners = .ok () ↔
      (∀ l ∈ listeners, ∀ a, l.address? = some a → bound.lookup a = none) ∧
      listeners.Pairwise Listener.AddressApart ∧
      ∀ l ∈ listeners, l.checkRoutes clusters routes = .ok () := by
  induction listeners generalizing bound with
  | nil => simp [checkListeners]
  | cons l rest ih =>
    rw [checkListeners]
    cases haddress : l.address? with
    | none =>
      simp only [pure_bind, seq_eq_ok, ih, List.forall_mem_cons, List.pairwise_cons,
        Listener.addressApart_iff, haddress]
      grind
    | some a =>
      cases hlookup : bound.lookup a with
      | some other =>
        refine iff_of_false (by simp [hlookup, bind, Except.bind]) ?_
        rintro ⟨hfree, -⟩
        exact absurd (hfree l List.mem_cons_self a haddress) (by simp [hlookup])
      | none =>
        simp only [hlookup, pure_bind, seq_eq_ok, ih, List.forall_mem_cons, List.pairwise_cons,
          Listener.addressApart_iff, haddress, List.lookup_cons]
        grind

/-- The checker finds no conflict exactly when there is none. -/
theorem checkConflicts_eq_ok_iff {b : Bundle} : b.checkConflicts = .ok () ↔ b.Consistent := by
  rw [checkConflicts, seq_eq_ok, checkListeners_eq_ok_iff,
    forIn_eq_ok (P := fun c => c.check b.clusterNames = .ok ())]
  · simp only [Listener.checkRoutes_eq_ok_iff, Listener.RoutesSound,
      RouteConfiguration.check_eq_ok_iff, clusterNames, List.mem_map]
    constructor
    · rintro ⟨hroutes, -, haddresses, hlisteners⟩
      have hserved (c : RouteConfiguration) (hc : b.Serves c) :
          c.DomainsApart ∧ ∀ name, c.Targets name → ∃ k ∈ b.clusters, k.name = name := by
        rcases hc with hc | ⟨l, hl, m, hm, hinline⟩
        · exact hroutes c hc
        · exact ((hlisteners l hl).2 m hm).2 c hinline
      exact {
        clusters := fun c hc => (hserved c hc).2
        routes := fun l hl m hm => ((hlisteners l hl).2 m hm).1
        domains := fun c hc => (hserved c hc).1
        addresses := haddresses
        readable := fun l hl => (hlisteners l hl).1 }
    · intro h
      refine ⟨fun c hc => ⟨h.domains c (.inl hc), h.clusters c (.inl hc)⟩, fun _ _ _ _ => rfl,
        h.addresses, fun l hl => ⟨h.readable l hl, fun m hm => ⟨h.routes l hl m hm, ?_⟩⟩⟩
      intro c hinline
      have hc : b.Serves c := .inr ⟨l, hl, m, hm, hinline⟩
      exact ⟨h.domains c hc, h.clusters c hc⟩
  · intro c next
    exact seq_eq_ok.trans (and_congr_right fun _ => pure_eq_ok)

theorem check_eq_ok_iff {node : NodeId} {b : Bundle} : b.check node = .ok () ↔ b.Consistent := by
  rw [check, mapError_eq_ok, checkConflicts_eq_ok_iff]

end Bundle
end GatewayPlane
