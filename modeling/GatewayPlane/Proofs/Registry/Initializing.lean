import GatewayPlane.Proofs.Consistency.References
import GatewayPlane.Proofs.Registry.Permuting

/-!
# Nodes with and without a base

On a node without a base the first route configuration of the shared name is taken as it is, and
only what comes later is merged into it, virtual host by virtual host. On an initialized node it
is merged as well. That is the same when no two of its own virtual hosts answer for the same
domains. When two do, they are joined on the initialized node, and stand side by side on the
other, where the checker refuses them if they answer for any domain.
-/
namespace GatewayPlane
open Checks

namespace VirtualHost
variable {v : VirtualHost} {l hosts hosts' : List VirtualHost} {routes : String}

/-- Merging keeps the domains of what was there, at the same places. -/
theorem domains_foldlM_mergeInto (h : l.foldlM (mergeInto routes) hosts = .ok hosts') :
    hosts.map domains <+: hosts'.map domains := by
  have hstep (hosts₁ : List VirtualHost) (v : VirtualHost) (hosts₂ : List VirtualHost)
      (hkept : hosts.map domains <+: hosts₁.map domains)
      (hmerge : mergeInto routes hosts₁ v = .ok hosts₂) :
      hosts.map domains <+: hosts₂.map domains := by
    rcases mergeInto_eq_ok hmerge with ⟨before, w, after, rfl, -, rfl⟩ | ⟨-, rfl⟩
    · simpa [join] using hkept
    · rw [List.map_append]
      exact hkept.trans (List.prefix_append _ _)
  exact foldlM_keeps (P := fun hosts' => hosts.map domains <+: hosts'.map domains) hstep
    List.prefix_rfl h

/-- So what holds of any two domain lists after merging held before. -/
theorem pairwise_domains_of_foldlM_mergeInto {R : List String → List String → Prop}
    (h : l.foldlM (mergeInto routes) hosts = .ok hosts')
    (hR : hosts'.Pairwise fun v w => R v.domains w.domains) :
    hosts.Pairwise fun v w => R v.domains w.domains := by
  rw [← List.pairwise_map] at hR ⊢
  exact hR.sublist (domains_foldlM_mergeInto h).sublist

theorem pairwise_apart_foldlM_mergeInto_iff (h : l.foldlM (mergeInto routes) hosts = .ok hosts') :
    hosts'.Pairwise Apart ↔ hosts.Pairwise Apart := by
  constructor
  · exact pairwise_domains_of_foldlM_mergeInto (R := fun a b => ∀ d ∈ a, d ∉ b) h
  · exact fun hapart => foldlM_keeps (fun _ _ _ => pairwise_apart_mergeInto) hapart h

/-- Virtual hosts of which no two answer for the same domains are coalesced already. -/
theorem coalesced_eq_self (h : l.Pairwise fun v w => ¬v.Alike w) : coalesced l = l := by
  induction l using List.reverseRecOn with
  | nil => rfl
  | append_singleton l v ih =>
    obtain ⟨hl, -, hlast⟩ := List.pairwise_append.1 h
    rcases coalesced_append_singleton l v with ⟨⟨w, hw, halike⟩, -⟩ | ⟨-, heq⟩
    · rw [ih hl] at hw
      exact absurd halike (hlast w hw v (List.mem_singleton_self v))
    · rw [heq, ih hl]

/-- Merging into virtual hosts coalesces all when these are coalesced, and only then. -/
theorem eq_coalesced_append_iff (h : l.foldlM (mergeInto routes) hosts = .ok hosts') :
    hosts' = coalesced (hosts ++ l) ↔ hosts.Pairwise fun v w => ¬v.Alike w := by
  constructor
  · rintro rfl
    exact pairwise_domains_of_foldlM_mergeInto (R := fun a b => ¬∀ d, d ∈ a ↔ d ∈ b) h
      (pairwise_coalesced _)
  · intro hother
    have hstep (seen hosts₁ : List VirtualHost) (v : VirtualHost) (hosts₂ : List VirtualHost)
        (hhosts : hosts₁ = coalesced seen) (hmerge : mergeInto routes hosts₁ v = .ok hosts₂) :
        hosts₂ = coalesced (seen ++ [v]) :=
      eq_coalesced_of_mergeInto (hhosts ▸ hmerge)
    have hfold := foldlM_accumulates (I := fun seen hosts => hosts = coalesced seen)
      (g := fun v => [v]) hstep (coalesced_eq_self hother).symm h
    rwa [List.flatMap_singleton'] at hfold

end VirtualHost

/-- The first route configuration of the shared name that contributions bring. -/
def firstShared? (contributions : List Contribution) : Option RouteConfiguration :=
  (contributions.flatMap (·.resources.routes)).find? (·.name = sharedRoutesName)

section Compose
variable {base b b' : Bundle} {contributions : List Contribution} {first : RouteConfiguration}
  {port : UInt16}

theorem name_of_firstShared? (hfirst : firstShared? contributions = some first) :
    first.name = sharedRoutesName := by
  simpa using List.find?_some hfirst

/-- Without a base, all other shared virtual hosts are merged into those that come first. -/
theorem map_sharedHosts_bare (hfirst : firstShared? contributions = some first) :
    ∃ rest, contributedHosts contributions = first.virtualHosts ++ rest ∧
      (((partsOf {} contributions).flatMap (·.routes)).foldlM Composition.addRoutes ∅).map
          Composition.sharedHosts =
        rest.foldlM (VirtualHost.mergeInto sharedRoutesName) first.virtualHosts := by
  obtain ⟨-, before, after, hsplit, hbefore⟩ := List.find?_eq_some_iff_append.1 hfirst
  have hname := name_of_firstShared? hfirst
  have hnone : ∀ c ∈ before, c.sharedHosts = [] := fun c hc => if_neg (by simpa using hbefore c hc)
  have hroutes : (partsOf {} contributions).flatMap (·.routes) = before ++ first :: after := by
    rw [← hsplit, partsOf, List.flatMap_cons, List.flatMap_map]
    rfl
  refine ⟨after.flatMap (·.sharedHosts), ?_, ?_⟩
  · rw [contributedHosts, sharedHostsOf, List.flatMap_map, hsplit, List.flatMap_append,
      List.flatMap_eq_nil_iff.2 hnone, List.nil_append, List.flatMap_cons,
      RouteConfiguration.sharedHosts, if_pos hname]
  · obtain ⟨m, hm, -⟩ := Composition.foldlM_addRoutes_of_nil ∅ hnone
    have hfree : m.get? first.name = none := by
      by_contra hsome
      obtain ⟨c, hc, hother⟩ := (Composition.exists_get?_foldlM_addRoutes hm _).1
        (Option.ne_none_iff_exists'.1 hsome)
      simpa [hother, hname] using hbefore c hc
    have hadded : ((m.insert first.name first).get? sharedRoutesName).isSome = true := by
      rw [← hname, NameMap.get?_insert_self]
      rfl
    have hshared : Composition.sharedHosts (m.insert first.name first) = first.virtualHosts := by
      rw [Composition.sharedHosts_insert, if_pos hname]
    rw [hroutes, List.foldlM_append, hm]
    change (List.foldlM Composition.addRoutes m _).map _ = _
    rw [List.foldlM_cons, Composition.addRoutes_of_none hfree]
    change (List.foldlM Composition.addRoutes (m.insert first.name first) _).map _ = _
    rw [Composition.map_sharedHosts_foldlM_addRoutes hadded, hshared]

theorem exists_compose_iff_map : (∃ b, compose base contributions = .ok b) ↔ ∃ hosts,
    (((partsOf base contributions).flatMap (·.routes)).foldlM Composition.addRoutes ∅).map
      Composition.sharedHosts = .ok hosts := by
  rw [exists_compose_iff_routes]
  simp only [map_eq_ok]
  exact ⟨fun ⟨m, hm⟩ => ⟨_, m, hm, rfl⟩, fun ⟨_, m, hm, _⟩ => ⟨m, hm⟩⟩

/-- The one route configuration of the shared name holds what was gathered. -/
theorem exists_shared_of_compose (h : compose base contributions = .ok b)
    (hpresent : ∃ c ∈ (partsOf base contributions).flatMap (·.routes), c.name = sharedRoutesName) :
    ∃ hosts, (((partsOf base contributions).flatMap (·.routes)).foldlM Composition.addRoutes ∅).map
        Composition.sharedHosts = .ok hosts ∧
      VirtualHost.Gathers (sharedHostsOf (partsOf base contributions)) hosts ∧
      ∀ c, c.name = sharedRoutesName → (c ∈ b.routes ↔ c = ⟨sharedRoutesName, hosts⟩) := by
  obtain ⟨m, hm, rfl, hparts⟩ := compose_eq_ok h
  have hroutes := (Composition.foldlM_add_eq_ok.1 hparts).2.2.2
  obtain ⟨c, hc⟩ := (Composition.exists_get?_foldlM_addRoutes hroutes _).2 hpresent
  have hname : c.name = sharedRoutesName := hm.routes _ c hc
  have hhosts : Composition.sharedHosts m.routes = c.virtualHosts := by
    rw [Composition.sharedHosts, hc]
    rfl
  refine ⟨c.virtualHosts, map_eq_ok.2 ⟨m.routes, hroutes, hhosts⟩,
    hhosts ▸ Composition.gathers_foldlM_addRoutes hroutes, fun c' hname' => ?_⟩
  have hmem : c' ∈ m.toBundle.routes ↔ m.routes.get? c'.name = some c' := hm.routes.mem_values_iff
  rw [hmem, hname', hc, Option.some_inj, ← hname]
  exact eq_comm

end Compose

/-! ## The other resources -/

/-- A bundle without the listeners of a name. -/
def Bundle.withoutListener (b : Bundle) (name : String) : Bundle :=
  { b with listeners := b.listeners.filter (·.name ≠ name) }

theorem Bundle.ofKind_withoutListener (b : Bundle) (name : String) (k : Kind) :
    (b.withoutListener name).ofKind k =
      (b.ofKind k).filter fun x => (k, x.name) ≠ (.listener, name) := by
  cases k with
  | listener =>
    rw [ofKind, ofKind, List.filter_map]
    refine congrArg (List.map Resource.listener) (List.filter_congr fun l _ => ?_)
    simp [Resource.name]
  | cluster | endpoint | route => exact (List.filter_eq_self.2 fun _ _ => rfl).symm

/-- Whether contributions leave the name and the address of the listener of an initialized node
to it. -/
def LeavesShared (port : UInt16) (contributions : List Contribution) : Prop :=
  ∀ d ∈ contributions, ∀ l ∈ d.resources.listeners,
    l.name ≠ sharedListenerName ∧ ¬l.Binds "0.0.0.0" port.toUInt32

section Compose
variable {b b' : Bundle} {contributions : List Contribution} {port : UInt16}

theorem ofKindAll_partsOf (base : Bundle) (contributions : List Contribution) (k : Kind) :
    Bundle.ofKindAll k (partsOf base contributions) =
      base.ofKind k ++ Bundle.ofKindAll k (contributions.map (·.resources)) :=
  List.flatMap_cons ..

theorem LeavesShared.lastNamed_listener (hleaves : LeavesShared port contributions) :
    Resource.lastNamed (Bundle.ofKindAll .listener (contributions.map (·.resources)))
      sharedListenerName = none := by
  rw [Resource.lastNamed_eq_none_iff]
  intro x hx
  obtain ⟨part, hpart, hx⟩ := List.mem_flatMap.1 hx
  obtain ⟨d, hd, rfl⟩ := List.mem_map.1 hpart
  obtain ⟨l, hl, rfl⟩ := List.mem_map.1 hx
  exact (hleaves d hd l hl).1

/-- The base of an initialized node has two resources. -/
theorem name_of_mem_sharedBase {k : Kind} {x : Resource} (hx : x ∈ (sharedBase port).ofKind k) :
    (k, x.name) = (.route, sharedRoutesName) ∨ (k, x.name) = (.listener, sharedListenerName) := by
  cases k with
  | cluster | endpoint => cases hx
  | route =>
    cases List.mem_singleton.1 hx
    exact .inl rfl
  | listener =>
    cases List.mem_singleton.1 hx
    exact .inr rfl

/-- Without its listener an initialized node has the same resources under names of their own. -/
theorem ownOfKind_withoutListener (hleaves : LeavesShared port contributions)
    (h : compose {} contributions = .ok b) (h' : compose (sharedBase port) contributions = .ok b')
    (k : Kind) : (b'.withoutListener sharedListenerName).ownOfKind k = b.ownOfKind k := by
  have hbare : (Bundle.ofKind {} k) = [] := by cases k <;> rfl
  refine Resource.eq_of_mem_iff ?_ ((pairwise_ofKind_compose k h).filter _) fun x => ?_
  · rw [Bundle.ownOfKind, Bundle.ofKind_withoutListener]
    exact ((pairwise_ofKind_compose k h').filter _).filter _
  · rw [Bundle.mem_ownOfKind, Bundle.mem_ownOfKind, Bundle.ofKind_withoutListener, List.mem_filter]
    refine and_congr_left fun hshared => ?_
    rw [mem_ofKind_compose hshared h, mem_ofKind_compose hshared h', decide_eq_true_iff,
      ofKindAll_partsOf, ofKindAll_partsOf, hbare, List.nil_append, Resource.lastNamed_append]
    by_cases hlistener : (k, x.name) = (.listener, sharedListenerName)
    · obtain ⟨rfl, hname⟩ := Prod.mk.inj hlistener
      rw [hname, hleaves.lastNamed_listener]
      exact iff_of_false (fun hx => hx.2 rfl) (by simp)
    · have hbase : Resource.lastNamed ((sharedBase port).ofKind k) x.name = none := by
        rw [Resource.lastNamed_eq_none_iff]
        intro y hy hname
        rcases name_of_mem_sharedBase hy with heq | heq <;> rw [hname] at heq
        · exact hshared heq
        · exact hlistener heq
      rw [hbase, Option.or_none, and_iff_left hlistener]

theorem resources_initialized (hleaves : LeavesShared port contributions)
    (h : compose {} contributions = .ok b) (h' : compose (sharedBase port) contributions = .ok b') :
    b'.clusters = b.clusters ∧ b'.endpoints = b.endpoints ∧
      b'.listeners.filter (·.name ≠ sharedListenerName) = b.listeners ∧
      b'.routes.filter (·.name ≠ sharedRoutesName) = b.routes.filter (·.name ≠ sharedRoutesName) :=
  Bundle.eq_of_ownOfKind_eq (ownOfKind_withoutListener hleaves h h')

end Compose

/-! ## The verdict -/

/-- Whether two bundles have the same clusters and listeners and the same names of route
configurations, each of which is in both or has its domains apart and names no other clusters. -/
structure Bundle.Covers (b b' : Bundle) : Prop where
  clusters : b.clusters = b'.clusters
  listeners : b.listeners = b'.listeners
  names : ∀ c ∈ b.routes, ∃ c' ∈ b'.routes, c'.name = c.name
  routes : ∀ c' ∈ b'.routes, c' ∈ b.routes ∨
    c'.DomainsApart ∧ ∃ c ∈ b.routes, ∀ name, c'.Targets name → c.Targets name

theorem Bundle.Consistent.of_covers {b b' : Bundle} (hb : b.Consistent) (h : b.Covers b') :
    b'.Consistent where
  clusters := by
    rintro c' (hc' | ⟨l, hl, m, hm, hinline⟩) name htargets <;> rw [← h.clusters]
    · rcases h.routes c' hc' with hmem | ⟨-, c, hc, hfewer⟩
      · exact hb.clusters c' (.inl hmem) name htargets
      · exact hb.clusters c (.inl hc) name (hfewer name htargets)
    · exact hb.clusters c' (.inr ⟨l, h.listeners ▸ hl, m, hm, hinline⟩) name htargets
  routes l hl m hm name source hdiscovered := by
    obtain ⟨c, hc, rfl⟩ := hb.routes l (h.listeners ▸ hl) m hm name source hdiscovered
    exact h.names c hc
  domains := by
    rintro c' (hc' | ⟨l, hl, m, hm, hinline⟩)
    · rcases h.routes c' hc' with hmem | ⟨hapart, -⟩
      · exact hb.domains c' (.inl hmem)
      · exact hapart
    · exact hb.domains c' (.inr ⟨l, h.listeners ▸ hl, m, hm, hinline⟩)
  addresses := h.listeners ▸ hb.addresses
  readable l hl := hb.readable l (h.listeners ▸ hl)

/-- Bundles that differ in the virtual hosts of the shared route configuration only. -/
theorem Bundle.covers_of_shared {b b' : Bundle} {hosts hosts' seen : List VirtualHost}
    (hclusters : b.clusters = b'.clusters) (hlisteners : b.listeners = b'.listeners)
    (hroutes : b.routes.filter (·.name ≠ sharedRoutesName) =
      b'.routes.filter (·.name ≠ sharedRoutesName))
    (hshared : ∀ c, c.name = sharedRoutesName → (c ∈ b.routes ↔ c = ⟨sharedRoutesName, hosts⟩))
    (hshared' : ∀ c, c.name = sharedRoutesName → (c ∈ b'.routes ↔ c = ⟨sharedRoutesName, hosts'⟩))
    (hgathers : VirtualHost.Gathers seen hosts) (hgathers' : VirtualHost.Gathers seen hosts')
    (hapart : hosts'.Pairwise VirtualHost.Apart) : b.Covers b' := by
  have hown {c : RouteConfiguration} (hname : c.name ≠ sharedRoutesName) :
      c ∈ b.routes ↔ c ∈ b'.routes := by
    have hmem : c ∈ b.routes.filter (·.name ≠ sharedRoutesName) ↔
        c ∈ b'.routes.filter (·.name ≠ sharedRoutesName) := by rw [hroutes]
    simpa [List.mem_filter, hname] using hmem
  refine ⟨hclusters, hlisteners, fun c hc => ?_, fun c' hc' => ?_⟩
  · by_cases hname : c.name = sharedRoutesName
    · exact ⟨_, (hshared' ⟨sharedRoutesName, hosts'⟩ rfl).2 rfl, hname.symm⟩
    · exact ⟨c, (hown hname).1 hc, rfl⟩
  · by_cases hname : c'.name = sharedRoutesName
    · cases (hshared' c' hname).1 hc'
      refine .inr ⟨hapart, _, (hshared ⟨sharedRoutesName, hosts⟩ rfl).2 rfl, ?_⟩
      rintro name ⟨w, hw, r, hr, hforwards⟩
      obtain ⟨v, hv, hrv⟩ := hgathers'.routes w hw r hr
      obtain ⟨u, hu, hpart⟩ := hgathers.covers v hv
      exact ⟨u, hu, r, hpart.routes.subset hrv, hforwards⟩
    · exact .inl ((hown hname).2 hc')

section Compose
variable {b b' : Bundle} {contributions : List Contribution} {first : RouteConfiguration}
  {port : UInt16}

theorem connectionManagers_shared (port : UInt16) :
    (Listener.routed sharedListenerName sharedRoutesName port).connectionManagers =
      .ok [.discovering sharedListenerName sharedRoutesName] := by
  have hlength : ∀ c ∈ (Listener.routed sharedListenerName sharedRoutesName port).managerConfigs,
      c.value.length < UInt64.size := by
    rw [Listener.managerConfigs_routed]
    decide +kernel
  exact Listener.connectionManagers_of_managedBy
    ((Listener.Built.routed sharedListenerName sharedRoutesName port).managedBy hlength)

/-- The listener of an initialized node is published as it is. -/
theorem sharedListener_mem (hleaves : LeavesShared port contributions)
    (h' : compose (sharedBase port) contributions = .ok b') :
    .routed sharedListenerName sharedRoutesName port ∈ b'.listeners := by
  have hlast : Resource.lastNamed
      (Bundle.ofKindAll .listener (partsOf (sharedBase port) contributions)) sharedListenerName =
        some (.listener (.routed sharedListenerName sharedRoutesName port)) := by
    rw [ofKindAll_partsOf, Resource.lastNamed_append, hleaves.lastNamed_listener]
    rfl
  have hmem : .listener (.routed sharedListenerName sharedRoutesName port) ∈ b'.ofKind .listener :=
    (mem_ofKind_compose (by simp) h').2 hlast
  obtain ⟨l, hl, heq⟩ := List.mem_map.1 hmem
  cases heq
  exact hl

/-- Its other listeners come from contributions. -/
theorem LeavesShared.not_binds (hleaves : LeavesShared port contributions)
    (h' : compose (sharedBase port) contributions = .ok b') {l : Listener} (hl : l ∈ b'.listeners)
    (hname : l.name ≠ sharedListenerName) : ¬l.Binds "0.0.0.0" port.toUInt32 := by
  obtain ⟨part, hpart, hmem⟩ := (compose_assembles h').listeners l hl
  rcases List.mem_cons.1 hpart with rfl | hpart
  · cases List.mem_singleton.1 hmem
    exact absurd rfl hname
  · obtain ⟨d, hd, rfl⟩ := List.mem_map.1 hpart
    exact (hleaves d hd l hmem).2

/-- The listener of an initialized node does not change the verdict. -/
theorem consistent_withoutListener (hleaves : LeavesShared port contributions)
    (h' : compose (sharedBase port) contributions = .ok b') :
    b'.Consistent ↔ (b'.withoutListener sharedListenerName).Consistent := by
  obtain ⟨before, after, hsplit⟩ := List.append_of_mem (sharedListener_mem hleaves h')
  have hnames : b'.listeners.Pairwise fun l l' => l.name ≠ l'.name := by
    have hsorted := pairwise_ofKind_compose .listener h'
    rw [Bundle.ofKind, List.pairwise_map] at hsorted
    refine hsorted.imp fun {l l'} (hlt : l.name < l'.name) heq => ?_
    exact String.lt_irrefl _ (heq ▸ hlt)
  have hothers : ∀ l ∈ before ++ after, l.name ≠ sharedListenerName := by
    rw [hsplit, List.pairwise_middle fun h => Ne.symm h, List.pairwise_cons] at hnames
    exact fun l hl => (hnames.1 l hl).symm
  have hwithout : b'.withoutListener sharedListenerName =
      { b' with listeners := before ++ after } := by
    rw [Bundle.withoutListener, hsplit, List.filter_append,
      List.filter_cons_of_neg (by simp [Listener.routed]), ← List.filter_append,
      List.filter_eq_self.2 fun l hl => decide_eq_true (hothers l hl)]
  have hread : (Listener.routed sharedListenerName sharedRoutesName port).connectionManagers =
      .ok ([(sharedListenerName, sharedRoutesName)].map fun n => .discovering n.1 n.2) :=
    connectionManagers_shared port
  rw [Listener.consistent_middle_iff hread hsplit, hwithout]
  refine and_iff_left ⟨fun l hl host number hbinds hbinds' => ?_, ?_⟩
  · have hmem : l ∈ b'.listeners := by
      rw [hsplit, List.mem_append, List.mem_cons]
      exact (List.mem_append.1 hl).imp id .inr
    cases hbinds
    exact hleaves.not_binds h' hmem (hothers l hl) hbinds'
  · rw [List.forall_mem_singleton]
    exact (compose_assembles h').names _ List.mem_cons_self ⟨sharedRoutesName, []⟩
      (List.mem_singleton_self _)

/-! ## Both ways -/

theorem sharedHostsOf_partsOf {base : Bundle} (hbase : ∀ c ∈ base.routes, c.sharedHosts = []) :
    sharedHostsOf (partsOf base contributions) = contributedHosts contributions := by
  rw [sharedHostsOf, partsOf, List.flatMap_cons, List.flatMap_append,
    List.flatMap_eq_nil_iff.2 hbase, List.nil_append]
  rfl

/-- The shared virtual hosts of a node without a base. -/
theorem exists_hosts_bare (hfirst : firstShared? contributions = some first)
    (h : compose {} contributions = .ok b) :
    ∃ hosts, (∀ c, c.name = sharedRoutesName → (c ∈ b.routes ↔ c = ⟨sharedRoutesName, hosts⟩)) ∧
      VirtualHost.Gathers (contributedHosts contributions) hosts ∧
      (hosts.Pairwise VirtualHost.Apart ↔ first.virtualHosts.Pairwise VirtualHost.Apart) ∧
      (hosts = VirtualHost.coalesced (contributedHosts contributions) ↔
        first.virtualHosts.Pairwise fun v w => ¬v.Alike w) := by
  have hpresent : ∃ c ∈ (partsOf {} contributions).flatMap (·.routes),
      c.name = sharedRoutesName := by
    rw [partsOf, List.flatMap_cons, List.flatMap_map]
    exact ⟨first, List.mem_of_find?_eq_some hfirst, name_of_firstShared? hfirst⟩
  obtain ⟨hosts, hmap, hgathers, hshared⟩ := exists_shared_of_compose h hpresent
  obtain ⟨rest, hcontributed, hfold⟩ := map_sharedHosts_bare hfirst
  rw [hfold] at hmap
  rw [sharedHostsOf_partsOf (List.forall_mem_nil _)] at hgathers
  refine ⟨hosts, hshared, hgathers, VirtualHost.pairwise_apart_foldlM_mergeInto_iff hmap, ?_⟩
  rw [hcontributed]
  exact VirtualHost.eq_coalesced_append_iff hmap

/-- Those of an initialized node. -/
theorem hosts_initialized (h' : compose (sharedBase port) contributions = .ok b') :
    let hosts := VirtualHost.coalesced (contributedHosts contributions)
    (∀ c, c.name = sharedRoutesName → (c ∈ b'.routes ↔ c = ⟨sharedRoutesName, hosts⟩)) ∧
      VirtualHost.Gathers (contributedHosts contributions) hosts ∧
      hosts.Pairwise VirtualHost.Apart := by
  have hnone : ∀ c ∈ (sharedBase port).routes, c.sharedHosts = [] := by
    intro c hc
    rw [List.mem_singleton.1 hc]
    rfl
  obtain ⟨hosts, hmap, hgathers, hshared⟩ := exists_shared_of_compose h'
    ⟨⟨sharedRoutesName, []⟩, List.mem_flatMap_of_mem List.mem_cons_self (List.mem_singleton_self _),
      rfl⟩
  rw [map_sharedHosts_parts (hasEmptySharedRoutes_sharedBase port)] at hmap
  rw [sharedHostsOf_partsOf hnone] at hgathers
  rw [← VirtualHost.eq_coalesced_of_foldlM_mergeInto hmap]
  exact ⟨hshared, hgathers, (VirtualHost.pairwise_apart_foldlM_mergeInto_iff hmap).2 .nil⟩

/-- When the first shared virtual hosts are apart, it does not matter for putting all together
whether these are merged as well. -/
theorem exists_compose_bare_iff (hfirst : firstShared? contributions = some first)
    (hapart : first.virtualHosts.Pairwise VirtualHost.Apart) :
    (∃ b, compose {} contributions = .ok b) ↔
      ∃ b', compose (sharedBase port) contributions = .ok b' := by
  obtain ⟨rest, hcontributed, hfold⟩ := map_sharedHosts_bare hfirst
  rw [exists_compose_iff_map, exists_compose_iff_map, hfold,
    map_sharedHosts_parts (hasEmptySharedRoutes_sharedBase port),
    (VirtualHost.Gathers.refl _).exists_foldlM_iff (hapart.imp .inr),
    (VirtualHost.Gathers.refl []).exists_foldlM_iff .nil, hcontributed, List.nil_append]

theorem consistent_bare_iff (hfirst : firstShared? contributions = some first)
    (hleaves : LeavesShared port contributions) (h : compose {} contributions = .ok b)
    (h' : compose (sharedBase port) contributions = .ok b') :
    b.Consistent ↔ b'.Consistent ∧ first.virtualHosts.Pairwise VirtualHost.Apart := by
  obtain ⟨hosts, hshared, hgathers, hapart, -⟩ := exists_hosts_bare hfirst h
  obtain ⟨hshared', hgathers', hapart'⟩ := hosts_initialized h'
  obtain ⟨hclusters, -, hlisteners, hroutes⟩ := resources_initialized hleaves h h'
  rw [consistent_withoutListener hleaves h', ← hapart]
  constructor
  · intro hb
    refine ⟨hb.of_covers ?_, hb.domains _ (.inl ((hshared ⟨_, hosts⟩ rfl).2 rfl))⟩
    exact Bundle.covers_of_shared hclusters.symm hlisteners.symm hroutes.symm hshared hshared'
      hgathers hgathers' hapart'
  · rintro ⟨hb', hhosts⟩
    refine hb'.of_covers ?_
    exact Bundle.covers_of_shared hclusters hlisteners hroutes hshared' hshared hgathers' hgathers
      hhosts

/-- Contributions that bring shared routes, and leave the shared listener alone, pass the checks
on a node without a base exactly when they pass them on an initialized one and the virtual hosts
of the first shared route configuration have no domain in common. So the verdict is the same if
no two of these answer for the same domains. In the end the clusters, the endpoints, the other
listeners and the other routes are the same; the shared route configuration has all virtual
hosts coalesced on the initialized node, and the same ones on the other exactly when no two of
the first answer for the same domains. -/
theorem composeChecked_initialized (node : NodeId)
    (hfirst : firstShared? contributions = some first)
    (hleaves : LeavesShared port contributions) :
    ((∃ b, composeChecked node {} contributions = .ok b) ↔
      (∃ b', composeChecked node (sharedBase port) contributions = .ok b') ∧
        first.virtualHosts.Pairwise VirtualHost.Apart) ∧
    ((first.virtualHosts.Pairwise fun v w => ¬v.Alike w) →
      ((∃ b, composeChecked node {} contributions = .ok b) ↔
        ∃ b', composeChecked node (sharedBase port) contributions = .ok b')) ∧
    ∀ b b', composeChecked node {} contributions = .ok b →
      composeChecked node (sharedBase port) contributions = .ok b' →
      b'.clusters = b.clusters ∧ b'.endpoints = b.endpoints ∧
      b'.listeners.filter (·.name ≠ sharedListenerName) = b.listeners ∧
      b'.routes.filter (·.name ≠ sharedRoutesName) =
        b.routes.filter (·.name ≠ sharedRoutesName) ∧
      ∃ hosts hosts', ⟨sharedRoutesName, hosts⟩ ∈ b.routes ∧
        ⟨sharedRoutesName, hosts'⟩ ∈ b'.routes ∧
        hosts' = VirtualHost.coalesced (contributedHosts contributions) ∧
        (hosts = hosts' ↔ first.virtualHosts.Pairwise fun v w => ¬v.Alike w) := by
  have hverdict : (∃ b, composeChecked node {} contributions = .ok b) ↔
      (∃ b', composeChecked node (sharedBase port) contributions = .ok b') ∧
        first.virtualHosts.Pairwise VirtualHost.Apart := by
    simp only [composeChecked_eq_ok_iff, Bundle.check_eq_ok_iff]
    constructor
    · rintro ⟨b, h, hb⟩
      obtain ⟨hosts, hshared, -, hapart, -⟩ := exists_hosts_bare hfirst h
      have hfirstApart := hapart.1 (hb.domains _ (.inl ((hshared ⟨_, hosts⟩ rfl).2 rfl)))
      obtain ⟨b', h'⟩ := (exists_compose_bare_iff hfirst hfirstApart).1 ⟨b, h⟩
      exact ⟨⟨b', h', ((consistent_bare_iff hfirst hleaves h h').1 hb).1⟩, hfirstApart⟩
    · rintro ⟨⟨b', h', hb'⟩, hfirstApart⟩
      obtain ⟨b, h⟩ := (exists_compose_bare_iff hfirst hfirstApart).2 ⟨b', h'⟩
      exact ⟨b, h, (consistent_bare_iff hfirst hleaves h h').2 ⟨hb', hfirstApart⟩⟩
  refine ⟨hverdict, fun hother => hverdict.trans (and_iff_left_of_imp ?_), ?_⟩
  · rintro ⟨b', h'⟩
    obtain ⟨rest, hcontributed, -⟩ := map_sharedHosts_bare hfirst
    have hfit := (exists_compose_iff_contributed (hasEmptySharedRoutes_sharedBase port)).1
      ⟨b', (composeChecked_eq_ok_iff.1 h').1⟩
    have hmem {v : VirtualHost} (hv : v ∈ first.virtualHosts) :
        v ∈ contributedHosts contributions := by
      rw [hcontributed]
      exact List.mem_append_left rest hv
    exact hother.imp_of_mem fun hv hw hvw => (hfit _ (hmem hv) _ (hmem hw)).resolve_left hvw
  · intro b b' h h'
    have hcompose := (composeChecked_eq_ok_iff.1 h).1
    have hcompose' := (composeChecked_eq_ok_iff.1 h').1
    obtain ⟨hclusters, hendpoints, hlisteners, hroutes⟩ :=
      resources_initialized hleaves hcompose hcompose'
    obtain ⟨hosts, hshared, -, -, hsame⟩ := exists_hosts_bare hfirst hcompose
    exact ⟨hclusters, hendpoints, hlisteners, hroutes, hosts, _, (hshared _ rfl).2 rfl,
      ((hosts_initialized hcompose').1 _ rfl).2 rfl, rfl, hsame⟩

end Compose

/-- Pets and books answer for the same domain, and a listener of their own takes the routes. -/
theorem composeChecked_initialized_pets :
    let gate : Contribution := ⟨"gate", "gate", "v1",
      { listeners := [.routed "gate" sharedRoutesName 9090] }⟩
    let contributions := [gate, hostContribution "pets" ["a"], hostContribution "books" ["a"]]
    ∃ b b', composeChecked "edge" {} contributions = .ok b ∧
      composeChecked "edge" (sharedBase 8080) contributions = .ok b' ∧
      b'.clusters = b.clusters ∧
      ∃ hosts, ⟨sharedRoutesName, hosts⟩ ∈ b.routes ∧ ⟨sharedRoutesName, hosts⟩ ∈ b'.routes := by
  intro gate contributions
  have hleaves : LeavesShared 8080 contributions := by
    have hall : ∀ d ∈ contributions, ∀ l ∈ d.resources.listeners, l.name ≠ sharedListenerName ∧
        ¬l.Binds "0.0.0.0" (8080 : UInt16).toUInt32 := by decide +kernel
    exact hall
  have hfirst : firstShared? contributions =
      some ⟨sharedRoutesName, [⟨"pets", ["a"], [routeTo "pets"]⟩]⟩ := by decide +kernel
  obtain ⟨-, hverdict, hsame⟩ := composeChecked_initialized "edge" hfirst hleaves
  have hok : (composeChecked "edge" {} contributions).toOption.isSome = true := by decide +kernel
  obtain ⟨b, hb⟩ := Option.isSome_iff_exists.1 hok
  rw [toOption_eq_some] at hb
  have hother := List.pairwise_singleton (fun v w : VirtualHost => ¬v.Alike w)
    ⟨"pets", ["a"], [routeTo "pets"]⟩
  obtain ⟨b', hb'⟩ := (hverdict hother).1 ⟨b, hb⟩
  obtain ⟨hclusters, -, -, -, hosts, hosts', hmem, hmem', -, heq⟩ := hsame b b' hb hb'
  exact ⟨b, b', hb, hb', hclusters, hosts, hmem, heq.2 hother ▸ hmem'⟩

/-- One contribution with two virtual hosts that answer for the same domain. -/
def twinsContribution : Contribution := ⟨"pets", "pets", "v1",
  { routes := [⟨sharedRoutesName,
    [⟨"cats", ["pets.example"], []⟩, ⟨"dogs", ["pets.example"], []⟩]⟩] }⟩

/-- An initialized node publishes it, and one without a base does not. -/
theorem not_always_either_way :
    (firstShared? [twinsContribution]).isSome = true ∧ LeavesShared 8080 [twinsContribution] ∧
    (∃ b', composeChecked "edge" (sharedBase 8080) [twinsContribution] = .ok b') ∧
    ¬∃ b, composeChecked "edge" {} [twinsContribution] = .ok b := by
  refine ⟨by decide +kernel, ?_, ?_, ?_⟩
  · rintro d hd l hl
    cases List.mem_singleton.1 hd
    cases hl
  · have hok : (composeChecked "edge" (sharedBase 8080) [twinsContribution]).toOption.isSome =
        true := by decide +kernel
    obtain ⟨b', hb'⟩ := Option.isSome_iff_exists.1 hok
    exact ⟨b', toOption_eq_some.1 hb'⟩
  · rintro ⟨b, hb⟩
    have hnone : (composeChecked "edge" {} [twinsContribution]).toOption = none := by
      decide +kernel
    rw [hb] at hnone
    cases hnone

end GatewayPlane
