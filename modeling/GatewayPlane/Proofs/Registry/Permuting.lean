import GatewayPlane.Proofs.Consistency.Reordering
import GatewayPlane.Proofs.Registry.Coalescing

/-!
# The order of contributions

Contributions that have no names in common can be put together in any order: the verdict is the
same, and so are the resources. Only the virtual hosts of the shared route configuration, and
the routes in each of them, may come in another order.
-/
namespace GatewayPlane
open Checks

namespace Reorders
variable {α β : Type} {R : α → α → Prop} {l l' : List α}

/-- Members that go by the same keys can be put next to each other. -/
theorem of_map_perm {f : α → β} (h : (l.map f).Perm (l'.map f)) :
    Reorders (fun a b => f a = f b) l l' := by
  have hkeys : List.Forall₂ (fun a key => f a = key) l (l.map f) :=
    List.forall₂_map_right_iff.2 (List.forall₂_same.2 fun _ _ => rfl)
  have hcomp : Relation.Comp (List.Forall₂ fun a key => f a = key) List.Perm l (l'.map f) :=
    ⟨l.map f, hkeys, h⟩
  rw [List.forall₂_comp_perm_eq_perm_comp_forall₂] at hcomp
  obtain ⟨m, hperm, hall⟩ := hcomp
  exact ⟨m, hperm, List.forall₂_map_right_iff.1 hall⟩

theorem map {S : β → β → Prop} {f g : α → β} (hR : ∀ a b, R a b → S (f a) (g b))
    (h : Reorders R l l') : Reorders S (l.map f) (l'.map g) := by
  obtain ⟨m, hperm, hall⟩ := h
  refine ⟨m.map f, hperm.map f, ?_⟩
  exact List.forall₂_map_left_iff.2 (List.forall₂_map_right_iff.2 (hall.imp hR))

end Reorders

namespace VirtualHost
variable {v w : VirtualHost} {l l' : List VirtualHost}

/-- Whether two virtual hosts answer for the same domains, and have the same routes but for
their order. -/
structure Matches (v w : VirtualHost) : Prop where
  alike : v.Alike w
  routes : v.routes.Perm w.routes

theorem Matches.refl (v : VirtualHost) : v.Matches v := ⟨.refl v, .refl _⟩

theorem Matches.symm (h : v.Matches w) : w.Matches v := ⟨h.alike.symm, h.routes.symm⟩

theorem matches_gathered (h : l.Perm l') (halike : v.Alike w) :
    (gathered l v).Matches (gathered l' w) := by
  refine ⟨halike, ?_⟩
  have hsame : v.sameDomains = w.sameDomains := by
    funext u
    rw [Bool.eq_iff_iff, sameDomains_iff, sameDomains_iff]
    exact ⟨halike.symm.trans, halike.trans⟩
  change ((l.filter v.sameDomains).flatMap (·.routes)).Perm
    ((l'.filter w.sameDomains).flatMap (·.routes))
  rw [hsame]
  exact (h.filter _).flatMap_right _

/-- What virtual hosts are coalesced to does not depend on the order in which they come. -/
theorem reorders_coalesced (h : l.Perm l') : Reorders Matches (coalesced l) (coalesced l') := by
  let key (v : VirtualHost) : List String := Text.sortedDistinct v.domains
  have hkey {v w : VirtualHost} : key v = key w ↔ v.Alike w := Text.sortedDistinct_eq_iff
  have hnodup (l : List VirtualHost) : ((firsts l).map key).Nodup :=
    List.pairwise_map.2 ((pairwise_firsts l).imp fun hother heq => hother (hkey.1 heq))
  have hmem (l : List VirtualHost) (d : List String) : d ∈ (firsts l).map key ↔ d ∈ l.map key := by
    constructor
    · exact fun hd => ((firsts_sublist l).map key).mem hd
    · intro hd
      obtain ⟨v, hv, rfl⟩ := List.mem_map.1 hd
      obtain ⟨w, hw, halike⟩ := exists_mem_firsts hv
      exact List.mem_map.2 ⟨w, hw, hkey.2 halike⟩
  have hkeys : ((firsts l).map key).Perm ((firsts l').map key) := by
    refine (List.perm_ext_iff_of_nodup (hnodup l) (hnodup l')).2 fun d => ?_
    rw [hmem, hmem, (h.map key).mem_iff]
  exact (Reorders.of_map_perm hkeys).map fun v w heq => matches_gathered h (hkey.1 heq)

end VirtualHost

/-! ## Names of their own -/

/-- The resources of a kind, but for the shared route configuration. -/
def Bundle.ownOfKind (b : Bundle) (k : Kind) : List Resource :=
  (b.ofKind k).filter fun x => (k, x.name) ≠ (.route, sharedRoutesName)

theorem Bundle.mem_ownOfKind {b : Bundle} {k : Kind} {x : Resource} :
    x ∈ b.ownOfKind k ↔ x ∈ b.ofKind k ∧ (k, x.name) ≠ (.route, sharedRoutesName) := by
  rw [ownOfKind, List.mem_filter, decide_eq_true_iff]

/-- Whether two contributions bring nothing under the same name, but for the shared route
configuration. -/
def Contribution.Independent (c d : Contribution) : Prop :=
  ∀ k, ∀ x ∈ c.resources.ownOfKind k, ∀ y ∈ d.resources.ownOfKind k, x.name ≠ y.name

namespace Resource

theorem name_of_lastNamed {l : List Resource} {name : String} {x : Resource}
    (h : lastNamed l name = some x) : x ∈ l ∧ x.name = name := by
  simpa using List.mem_of_getLast? h

end Resource

section Compose
variable {base b b' : Bundle} {contributions contributions' : List Contribution} {k : Kind}
  {name : String}

theorem independent_of_perm
    (hind : ∀ c ∈ contributions, ∀ d ∈ contributions, c ≠ d → c.Independent d)
    (hperm : contributions.Perm contributions') :
    ∀ c ∈ contributions', ∀ d ∈ contributions', c ≠ d → c.Independent d :=
  fun c hc d hd => hind c (hperm.mem_iff.2 hc) d (hperm.mem_iff.2 hd)

/-- The last resource of a name is that of the only contribution that brings it. -/
theorem lastNamed_of_independent
    (hind : ∀ c ∈ contributions, ∀ d ∈ contributions, c ≠ d → c.Independent d)
    (hshared : (k, name) ≠ (.route, sharedRoutesName)) (x : Resource) :
    Resource.lastNamed (Bundle.ofKindAll k (contributions.map (·.resources))) name = some x ↔
      ∃ c ∈ contributions, Resource.lastNamed (c.resources.ofKind k) name = some x := by
  -- from the end, since a later contribution comes before those that precede it
  induction contributions using List.reverseRecOn with
  | nil => simp [Bundle.ofKindAll, Resource.lastNamed]
  | append_singleton l d ih =>
    have hsplit : Bundle.ofKindAll k ((l ++ [d]).map (·.resources)) =
        Bundle.ofKindAll k (l.map (·.resources)) ++ d.resources.ofKind k := by
      simp [Bundle.ofKindAll]
    have hl := ih fun c hc d hd => hind c (List.mem_append_left _ hc) d (List.mem_append_left _ hd)
    rw [hsplit, Resource.lastNamed_append, Option.or_eq_some_iff, hl]
    constructor
    · rintro (hlast | ⟨-, c, hc, hlast⟩)
      · exact ⟨d, by simp, hlast⟩
      · exact ⟨c, List.mem_append_left _ hc, hlast⟩
    · rintro ⟨c, hc, hlast⟩
      by_cases hcd : c = d
      · exact .inl (hcd ▸ hlast)
      · have hc : c ∈ l := by simpa [hcd] using hc
        refine .inr ⟨Resource.lastNamed_eq_none_iff.2 fun y hy hname => ?_, c, hc, hlast⟩
        obtain ⟨hx, hxname⟩ := Resource.name_of_lastNamed hlast
        refine hind c (by simp [hc]) d (by simp) hcd k x ?_ y ?_ (hxname.trans hname.symm)
        · exact Bundle.mem_ownOfKind.2 ⟨hx, hxname ▸ hshared⟩
        · exact Bundle.mem_ownOfKind.2 ⟨hy, hname ▸ hshared⟩

theorem lastNamed_perm
    (hind : ∀ c ∈ contributions, ∀ d ∈ contributions, c ≠ d → c.Independent d)
    (hperm : contributions.Perm contributions') (hshared : (k, name) ≠ (.route, sharedRoutesName)) :
    Resource.lastNamed (Bundle.ofKindAll k (partsOf base contributions')) name =
      Resource.lastNamed (Bundle.ofKindAll k (partsOf base contributions)) name := by
  have hind' := independent_of_perm hind hperm
  have hlast : Resource.lastNamed (Bundle.ofKindAll k (contributions'.map (·.resources))) name =
      Resource.lastNamed (Bundle.ofKindAll k (contributions.map (·.resources))) name := by
    refine Option.ext fun x => ?_
    rw [lastNamed_of_independent hind hshared, lastNamed_of_independent hind' hshared]
    exact exists_congr fun c => and_congr_left fun _ => hperm.symm.mem_iff
  have hsplit (l : List Contribution) : Bundle.ofKindAll k (partsOf base l) =
      base.ofKind k ++ Bundle.ofKindAll k (l.map (·.resources)) := List.flatMap_cons ..
  rw [hsplit, hsplit, Resource.lastNamed_append, Resource.lastNamed_append, hlast]

/-- The resources under names of their own are the same in any order. -/
theorem ownOfKind_eq_of_perm
    (hind : ∀ c ∈ contributions, ∀ d ∈ contributions, c ≠ d → c.Independent d)
    (hperm : contributions.Perm contributions') (h : compose base contributions = .ok b)
    (h' : compose base contributions' = .ok b') (k : Kind) : b'.ownOfKind k = b.ownOfKind k := by
  refine Resource.eq_of_mem_iff ((pairwise_ofKind_compose k h').filter _)
    ((pairwise_ofKind_compose k h).filter _) fun x => ?_
  rw [Bundle.mem_ownOfKind, Bundle.mem_ownOfKind]
  refine and_congr_left fun hshared => ?_
  rw [mem_ofKind_compose hshared h, mem_ofKind_compose hshared h',
    lastNamed_perm hind hperm hshared]

theorem contributedHosts_perm (hperm : contributions.Perm contributions') :
    (contributedHosts contributions).Perm (contributedHosts contributions') :=
  ((hperm.map _).flatMap_right _).flatMap_right _

end Compose

/-! ## The verdict -/

/-- Whether two route configurations have the same name, and the same virtual hosts but for
their order and for how these are named. -/
structure RouteConfiguration.Matches (c c' : RouteConfiguration) : Prop where
  name : c.name = c'.name
  virtualHosts : Reorders VirtualHost.Matches c.virtualHosts c'.virtualHosts

namespace RouteConfiguration.Matches
variable {c c' : RouteConfiguration}

theorem refl (c : RouteConfiguration) : c.Matches c := ⟨rfl, .of_perm .refl (.refl _)⟩

theorem symm (h : c.Matches c') : c'.Matches c :=
  ⟨h.name.symm, h.virtualHosts.symm fun _ _ => .symm⟩

theorem targets (h : c.Matches c') {name : String} (htargets : c.Targets name) :
    c'.Targets name := by
  obtain ⟨v, hv, r, hr, hforwards⟩ := htargets
  obtain ⟨w, hw, hvw⟩ := h.virtualHosts.exists_mem hv
  exact ⟨w, hw, r, hvw.routes.mem_iff.1 hr, hforwards⟩

theorem domainsApart (h : c.Matches c') (hapart : c.DomainsApart) : c'.DomainsApart := by
  refine h.virtualHosts.pairwise (fun v w hvw d hw hv => hvw d hv hw) ?_ hapart
  intro v v' w w' hv hw hvw d hd hd'
  exact hvw d ((hv.alike d).2 hd) ((hw.alike d).2 hd')

end RouteConfiguration.Matches

/-- Whether two bundles have the same resources but for the virtual hosts of their route
configurations, which match. -/
structure Bundle.Matches (b b' : Bundle) : Prop where
  clusters : b.clusters = b'.clusters
  endpoints : b.endpoints = b'.endpoints
  listeners : b.listeners = b'.listeners
  routes : ∀ c ∈ b.routes, ∃ c' ∈ b'.routes, c.Matches c'
  back : ∀ c' ∈ b'.routes, ∃ c ∈ b.routes, c.Matches c'

namespace Bundle
variable {b b' : Bundle}

/-- A route configuration that is served is matched by one that is. -/
theorem Matches.serves (h : b.Matches b') {c' : RouteConfiguration} (hc' : b'.Serves c') :
    ∃ c, b.Serves c ∧ c.Matches c' := by
  rcases hc' with hc' | ⟨l, hl, m, hm, hinline⟩
  · obtain ⟨c, hc, hmatches⟩ := h.back c' hc'
    exact ⟨c, .inl hc, hmatches⟩
  · exact ⟨c', .inr ⟨l, h.listeners ▸ hl, m, hm, hinline⟩, .refl c'⟩

theorem Consistent.of_matches (hb : b.Consistent) (h : b.Matches b') : b'.Consistent where
  clusters c' hc' name htargets := by
    obtain ⟨c, hc, hmatches⟩ := h.serves hc'
    exact h.clusters ▸ hb.clusters c hc name (hmatches.symm.targets htargets)
  routes l hl m hm name source hdiscovered := by
    obtain ⟨c, hc, hname⟩ := hb.routes l (h.listeners ▸ hl) m hm name source hdiscovered
    obtain ⟨c', hc', hmatches⟩ := h.routes c hc
    exact ⟨c', hc', hmatches.name.symm.trans hname⟩
  domains c' hc' := by
    obtain ⟨c, hc, hmatches⟩ := h.serves hc'
    exact hmatches.domainsApart (hb.domains c hc)
  addresses := h.listeners ▸ hb.addresses
  readable l hl := hb.readable l (h.listeners ▸ hl)

/-- Resources under names of their own tell all resources but the shared routes. -/
theorem eq_of_ownOfKind_eq (h : ∀ k, b.ownOfKind k = b'.ownOfKind k) :
    b.clusters = b'.clusters ∧ b.endpoints = b'.endpoints ∧ b.listeners = b'.listeners ∧
      b.routes.filter (·.name ≠ sharedRoutesName) =
        b'.routes.filter (·.name ≠ sharedRoutesName) := by
  have hall {k : Kind} (hk : k ≠ .route) (b : Bundle) : b.ownOfKind k = b.ofKind k := by
    refine List.filter_eq_self.2 fun x _ => decide_eq_true fun heq => hk ?_
    exact congrArg Prod.fst heq
  have hroutes (b : Bundle) : b.ownOfKind .route =
      (b.routes.filter (·.name ≠ sharedRoutesName)).map .route := by
    rw [ownOfKind, ofKind, List.filter_map]
    congr 2
    funext c
    simp [Resource.name]
  refine ⟨?_, ?_, ?_, ?_⟩
  · have hcluster := h .cluster
    rw [hall (by decide), hall (by decide)] at hcluster
    exact List.map_injective_iff.2 (fun _ _ => Resource.cluster.inj) hcluster
  · have hendpoint := h .endpoint
    rw [hall (by decide), hall (by decide)] at hendpoint
    exact List.map_injective_iff.2 (fun _ _ => Resource.endpoint.inj) hendpoint
  · have hlistener := h .listener
    rw [hall (by decide), hall (by decide)] at hlistener
    exact List.map_injective_iff.2 (fun _ _ => Resource.listener.inj) hlistener
  · have hroute := h .route
    rw [hroutes, hroutes] at hroute
    exact List.map_injective_iff.2 (fun _ _ => Resource.route.inj) hroute

end Bundle

section Compose
variable {base b b' : Bundle} {contributions contributions' : List Contribution}

theorem exists_compose_of_perm (hbase : base.HasEmptySharedRoutes)
    (hperm : contributions.Perm contributions') (h : compose base contributions = .ok b) :
    ∃ b', compose base contributions' = .ok b' := by
  have hmem {v : VirtualHost} (hv : v ∈ contributedHosts contributions') :
      v ∈ contributedHosts contributions := (contributedHosts_perm hperm).mem_iff.2 hv
  have hfits := (exists_compose_iff_contributed hbase).1 ⟨b, h⟩
  exact (exists_compose_iff_contributed hbase).2 fun v hv w hw => hfits v (hmem hv) w (hmem hw)

/-- A route configuration is matched by the one of its name. -/
theorem exists_routes_matches (hbase : base.HasEmptySharedRoutes)
    (hind : ∀ c ∈ contributions, ∀ d ∈ contributions, c ≠ d → c.Independent d)
    (hperm : contributions.Perm contributions') (h : compose base contributions = .ok b)
    (h' : compose base contributions' = .ok b') {c : RouteConfiguration} (hc : c ∈ b.routes) :
    ∃ c' ∈ b'.routes, c.Matches c' := by
  by_cases hname : c.name = sharedRoutesName
  · refine ⟨_, coalesced_mem_routes hbase h', hname, ?_⟩
    rw [virtualHosts_compose hbase h hc hname]
    exact VirtualHost.reorders_coalesced (contributedHosts_perm hperm)
  · have hroutes := (Bundle.eq_of_ownOfKind_eq (ownOfKind_eq_of_perm hind hperm h h')).2.2.2
    have hmem : c ∈ b.routes.filter (·.name ≠ sharedRoutesName) :=
      List.mem_filter.2 ⟨hc, decide_eq_true hname⟩
    rw [← hroutes] at hmem
    exact ⟨c, (List.mem_filter.1 hmem).1, .refl c⟩

/-- Whatever the order of independent contributions, what they are composed to matches. -/
theorem matches_compose (hbase : base.HasEmptySharedRoutes)
    (hind : ∀ c ∈ contributions, ∀ d ∈ contributions, c ≠ d → c.Independent d)
    (hperm : contributions.Perm contributions') (h : compose base contributions = .ok b)
    (h' : compose base contributions' = .ok b') : b.Matches b' := by
  have hind' := independent_of_perm hind hperm
  obtain ⟨hclusters, hendpoints, hlisteners, -⟩ :=
    Bundle.eq_of_ownOfKind_eq (ownOfKind_eq_of_perm hind' hperm.symm h' h)
  refine ⟨hclusters, hendpoints, hlisteners,
    fun c hc => exists_routes_matches hbase hind hperm h h' hc, fun c' hc' => ?_⟩
  obtain ⟨c, hc, hmatches⟩ := exists_routes_matches hbase hind' hperm.symm h' h hc'
  exact ⟨c, hc, hmatches.symm⟩

theorem exists_composeChecked_of_perm {node : NodeId} (hbase : base.HasEmptySharedRoutes)
    (hind : ∀ c ∈ contributions, ∀ d ∈ contributions, c ≠ d → c.Independent d)
    (hperm : contributions.Perm contributions')
    (h : composeChecked node base contributions = .ok b) :
    ∃ b', composeChecked node base contributions' = .ok b' := by
  obtain ⟨hcompose, hcheck⟩ := composeChecked_eq_ok_iff.1 h
  obtain ⟨b', hcompose'⟩ := exists_compose_of_perm hbase hperm hcompose
  have hconsistent := (Bundle.check_eq_ok_iff.1 hcheck).of_matches
    (matches_compose hbase hind hperm hcompose hcompose')
  exact ⟨b', composeChecked_eq_ok_iff.2 ⟨hcompose', Bundle.check_eq_ok_iff.2 hconsistent⟩⟩

/-- On a base with an empty shared route configuration, contributions of which no two bring
anything else under the same name can be put together in any order: they pass the checks in all
orders or in none, with the same resources, and the shared route configuration has the same
virtual hosts, each with the same routes, but for their order. -/
theorem composeChecked_perm (node : NodeId) (hbase : base.HasEmptySharedRoutes)
    (hind : ∀ c ∈ contributions, ∀ d ∈ contributions, c ≠ d → c.Independent d)
    (hperm : contributions.Perm contributions') :
    ((∃ b', composeChecked node base contributions' = .ok b') ↔
      ∃ b, composeChecked node base contributions = .ok b) ∧
    ∀ b b', composeChecked node base contributions = .ok b →
      composeChecked node base contributions' = .ok b' →
      b'.clusters = b.clusters ∧ b'.endpoints = b.endpoints ∧ b'.listeners = b.listeners ∧
      b'.routes.filter (·.name ≠ sharedRoutesName) =
        b.routes.filter (·.name ≠ sharedRoutesName) ∧
      ∃ hosts hosts', ⟨sharedRoutesName, hosts⟩ ∈ b.routes ∧
        ⟨sharedRoutesName, hosts'⟩ ∈ b'.routes ∧
        hosts.Pairwise (fun v w => ¬v.Alike w) ∧ Reorders VirtualHost.Matches hosts hosts' := by
  have hind' := independent_of_perm hind hperm
  constructor
  · constructor
    · rintro ⟨b', h'⟩
      exact exists_composeChecked_of_perm hbase hind' hperm.symm h'
    · rintro ⟨b, h⟩
      exact exists_composeChecked_of_perm hbase hind hperm h
  · intro b b' h h'
    have hcompose := (composeChecked_eq_ok_iff.1 h).1
    have hcompose' := (composeChecked_eq_ok_iff.1 h').1
    obtain ⟨hclusters, hendpoints, hlisteners, hroutes⟩ :=
      Bundle.eq_of_ownOfKind_eq (ownOfKind_eq_of_perm hind hperm hcompose hcompose')
    exact ⟨hclusters, hendpoints, hlisteners, hroutes, _, _,
      coalesced_mem_routes hbase hcompose, coalesced_mem_routes hbase hcompose',
      VirtualHost.pairwise_coalesced _,
      VirtualHost.reorders_coalesced (contributedHosts_perm hperm)⟩

end Compose

/-- Pets and books answer for the same domain; as they are published in one order, so they are
in the other, with the same clusters. -/
theorem composeChecked_perm_pets :
    let pets := hostContribution "pets" ["a"]
    let books := hostContribution "books" ["a"]
    ∃ b b', composeChecked "n" (sharedBase 8080) [pets, books] = .ok b ∧
      composeChecked "n" (sharedBase 8080) [books, pets] = .ok b' ∧ b'.clusters = b.clusters ∧
      b.clusters.map (·.name) = ["books", "pets"] := by
  intro pets books
  have hname (id : String) (k : Kind) :
      ∀ x ∈ (hostContribution id ["a"]).resources.ownOfKind k, x.name = id := by
    cases k <;> simp [hostContribution, Bundle.ownOfKind, Bundle.ofKind, Resource.name,
      Cluster.ofBackend]
  have hother (k : Kind) : ∀ x ∈ pets.resources.ownOfKind k, ∀ y ∈ books.resources.ownOfKind k,
      x.name ≠ y.name := by
    intro x hx y hy
    rw [hname _ k x hx, hname _ k y hy]
    decide
  have hind : ∀ c ∈ [pets, books], ∀ d ∈ [pets, books], c ≠ d → c.Independent d := by
    simp only [List.forall_mem_cons]
    refine ⟨⟨fun h => absurd rfl h, fun _ => hother, nofun⟩,
      ⟨fun _ k x hx y hy => (hother k y hy x hx).symm, fun h => absurd rfl h, nofun⟩, nofun⟩
  obtain ⟨hiff, hsame⟩ := composeChecked_perm "n" (hasEmptySharedRoutes_sharedBase 8080) hind
    (.swap books pets [])
  have hb : (composeChecked "n" (sharedBase 8080) [pets, books]).toOption.map
      (·.clusters.map (·.name)) = some ["books", "pets"] := by
    decide +kernel
  cases hok : composeChecked "n" (sharedBase 8080) [pets, books] with
  | error o =>
    rw [hok] at hb
    cases hb
  | ok b =>
    rw [hok] at hb
    obtain ⟨b', hb'⟩ := hiff.2 ⟨b, hok⟩
    exact ⟨b, b', rfl, hb', (hsame b b' hok hb').1, Option.some.inj hb⟩

end GatewayPlane
