import GatewayPlane.Proofs.Registry.Merging
import GatewayPlane.Proofs.Registry.Representation
import GatewayPlane.Proofs.Resource.Managing

/-!
# What fits together

Resources that are consistent by themselves stay so when they are put together: whatever they
refer to comes with them, and under its name. So all that can keep consistent parts from being
published together is that virtual hosts of the shared route configuration overlap, or that
two listeners that are left in the end have the same address.
-/
namespace GatewayPlane
open Checks VirtualHost

namespace NameMap
variable {α : Type} {R : α → α → Prop}

/-- The values of a map are related in pairs when those under different names are. -/
theorem pairwise_values_iff [Std.Symm R] (m : NameMap α) : m.values.Pairwise R ↔
    ∀ n n' a b, n ≠ n' → m.get? n = some a → m.get? n' = some b → R a b := by
  have hsymm : Std.Symm fun e e' : String × α => R e.2 e'.2 := ⟨fun _ _ h => Std.Symm.symm _ _ h⟩
  rw [values, List.pairwise_map]
  constructor
  · intro h n n' a b hne ha hb
    exact h.forall (mem_entries_iff.2 ha) (mem_entries_iff.2 hb) fun heq =>
      hne (congrArg Prod.fst heq)
  · intro h
    refine m.sorted.imp_of_mem fun {e e'} he he' hlt => ?_
    refine h e.1 e'.1 e.2 e'.2 (fun heq => ?_) (mem_entries_iff.1 he) (mem_entries_iff.1 he')
    exact String.lt_irrefl _ (heq ▸ hlt)

end NameMap

namespace Listener

/-- The last listener of a name, which is the one that counts. -/
def lastNamed (l : List Listener) (name : String) : Option Listener :=
  (l.filter (·.name == name)).getLast?

theorem lastNamed_append (l l' : List Listener) (name : String) :
    lastNamed (l ++ l') name = (lastNamed l' name).or (lastNamed l name) := by
  rw [lastNamed, List.filter_append, List.getLast?_append]
  rfl

/-- Whether the listeners that are left of these in the end have addresses of their own. -/
def StandApart (l : List Listener) : Prop :=
  ∀ n n' x y, n ≠ n' → lastNamed l n = some x → lastNamed l n' = some y → x.AddressApart y

end Listener

namespace Composition
variable {α : Type} {name : α → String}

theorem mem_of_mem_values_insertAll {l : List α} {a : α}
    (h : a ∈ (insertAll name ∅ l).values) : a ∈ l := by
  obtain ⟨n, hn⟩ := NameMap.mem_values_iff.1 h
  rw [get?_insertAll, NameMap.get?_empty, Option.or_none] at hn
  exact List.mem_of_mem_filter (List.mem_of_getLast? hn)

/-- Something of each name is left. -/
theorem exists_mem_values_insertAll {l : List α} {a : α} (h : a ∈ l) :
    ∃ a' ∈ (insertAll name ∅ l).values, name a' = name a := by
  have hkeyed : Keyed name (insertAll name ∅ l) := Keyed.empty.insertAll l
  have hget : (insertAll name ∅ l).get? (name a) = _ := get?_insertAll ∅ l (name a)
  cases hlast : (l.filter fun a' => name a' == name a).getLast? with
  | some a' =>
    rw [hlast] at hget
    exact ⟨a', NameMap.mem_values_iff.2 ⟨_, hget⟩, hkeyed _ _ hget⟩
  | none =>
    rw [List.getLast?_eq_none_iff, List.filter_eq_nil_iff] at hlast
    exact absurd (beq_self_eq_true (name a)) (hlast a h)

end Composition

/-- The virtual hosts that parts bring to the shared route configuration. -/
def sharedHostsOf (parts : List Bundle) : List VirtualHost :=
  (parts.flatMap (·.routes)).flatMap (·.sharedHosts)

/-- What becomes of parts that are put together: something of each name is left, and nothing is
made up but the shared route configuration, which gathers the virtual hosts of all. -/
structure Assembles (parts : List Bundle) (b : Bundle) : Prop where
  clusters : ∀ part ∈ parts, ∀ k ∈ part.clusters, ∃ k' ∈ b.clusters, k'.name = k.name
  names : ∀ part ∈ parts, ∀ c ∈ part.routes, ∃ c' ∈ b.routes, c'.name = c.name
  routes : ∀ c ∈ b.routes, (∃ part ∈ parts, c ∈ part.routes) ∨
    Gathers (sharedHostsOf parts) c.virtualHosts ∧
      ((∀ part ∈ parts, ∀ c' ∈ part.routes, c'.DomainsApart) → c.DomainsApart)
  listeners : ∀ l ∈ b.listeners, ∃ part ∈ parts, l ∈ part.listeners
  addresses : b.listeners.Pairwise Listener.AddressApart ↔
    Listener.StandApart (parts.flatMap (·.listeners))

namespace RouteConfiguration
variable {c : RouteConfiguration}

theorem mem_sharedHosts {v : VirtualHost} :
    v ∈ c.sharedHosts ↔ c.name = sharedRoutesName ∧ v ∈ c.virtualHosts := by
  unfold sharedHosts
  split <;> simp [*]

theorem DomainsApart.sharedHosts (h : c.DomainsApart) : c.sharedHosts.Pairwise Apart := by
  unfold RouteConfiguration.sharedHosts
  split
  · exact h
  · exact .nil

end RouteConfiguration

section Compose
variable {base b : Bundle} {contributions : List Contribution} {node : NodeId}

theorem compose_assembles (h : compose base contributions = .ok b) :
    Assembles (partsOf base contributions) b := by
  obtain ⟨m, hm, rfl, hparts⟩ := compose_eq_ok h
  obtain ⟨hclusters, -, hlisteners, hroutes⟩ := Composition.foldlM_add_eq_ok.1 hparts
  constructor
  case clusters =>
    intro part hpart k hk
    rw [Composition.toBundle, hclusters]
    exact Composition.exists_mem_values_insertAll (List.mem_flatMap.2 ⟨part, hpart, hk⟩)
  case names =>
    intro part hpart c hc
    obtain ⟨c', hc'⟩ := (Composition.exists_get?_foldlM_addRoutes hroutes _).2
      ⟨c, List.mem_flatMap.2 ⟨part, hpart, hc⟩, rfl⟩
    exact ⟨c', NameMap.mem_values_iff.2 ⟨_, hc'⟩, hm.routes _ _ hc'⟩
  case routes =>
    intro c hc
    obtain ⟨n, hn⟩ := NameMap.mem_values_iff.1 hc
    by_cases hshared : n = sharedRoutesName
    · have hhosts : Composition.sharedHosts m.routes = c.virtualHosts := by
        rw [Composition.sharedHosts, ← hshared, hn]
        rfl
      refine .inr ⟨hhosts ▸ Composition.gathers_foldlM_addRoutes hroutes, fun hapart => ?_⟩
      have hall : ∀ c' ∈ (partsOf base contributions).flatMap (·.routes),
          c'.sharedHosts.Pairwise Apart := by
        intro c' hc'
        obtain ⟨part, hpart, hmem⟩ := List.mem_flatMap.1 hc'
        exact (hapart part hpart c' hmem).sharedHosts
      have hkept := Composition.pairwise_apart_foldlM_addRoutes hall .nil hroutes
      rwa [hhosts] at hkept
    · rw [Composition.get?_foldlM_addRoutes hshared hroutes, NameMap.get?_empty,
        Option.or_none] at hn
      obtain ⟨part, hpart, hmem⟩ :=
        List.mem_flatMap.1 (List.mem_of_mem_filter (List.mem_of_getLast? hn))
      exact .inl ⟨part, hpart, hmem⟩
  case listeners =>
    intro l hl
    rw [Composition.toBundle, hlisteners] at hl
    exact List.mem_flatMap.1 (Composition.mem_of_mem_values_insertAll hl)
  case addresses =>
    rw [Composition.toBundle, hlisteners, NameMap.pairwise_values_iff]
    simp only [Composition.get?_insertAll, NameMap.get?_empty, Option.or_none]
    rfl

/-- Route configurations that are put together still name only clusters that are there. -/
theorem Assembles.targets {parts : List Bundle} (h : Assembles parts b)
    (hparts : ∀ part ∈ parts, part.Consistent) {c : RouteConfiguration} (hc : b.Serves c)
    {name : String} (hname : c.Targets name) :
    ∃ part ∈ parts, ∃ k ∈ part.clusters, k.name = name := by
  rcases hc with hc | ⟨l, hl, m, hm, hinline⟩
  · rcases h.routes c hc with ⟨part, hpart, hmem⟩ | ⟨hgathers, -⟩
    · exact ⟨part, hpart, (hparts part hpart).clusters c (.inl hmem) name hname⟩
    · obtain ⟨v, hv, r, hr, hforwards⟩ := hname
      obtain ⟨u, hu, hru⟩ := hgathers.routes v hv r hr
      obtain ⟨c', hc', hu⟩ := List.mem_flatMap.1 hu
      obtain ⟨part, hpart, hmem⟩ := List.mem_flatMap.1 hc'
      have htargets : c'.Targets name :=
        ⟨u, (RouteConfiguration.mem_sharedHosts.1 hu).2, r, hru, hforwards⟩
      exact ⟨part, hpart, (hparts part hpart).clusters c' (.inl hmem) name htargets⟩
  · obtain ⟨part, hpart, hmem⟩ := h.listeners l hl
    exact ⟨part, hpart,
      (hparts part hpart).clusters c (.inr ⟨l, hmem, m, hm, hinline⟩) name hname⟩

/-- Consistent parts that are put together are consistent when the listeners that are left have
addresses of their own. -/
theorem Assembles.consistent_iff {parts : List Bundle} (h : Assembles parts b)
    (hparts : ∀ part ∈ parts, part.Consistent) :
    b.Consistent ↔ Listener.StandApart (parts.flatMap (·.listeners)) := by
  rw [← h.addresses]
  refine ⟨fun hb => hb.addresses, fun haddresses => ?_⟩
  constructor
  case clusters =>
    intro c hc name hname
    obtain ⟨part, hpart, k, hk, rfl⟩ := h.targets hparts hc hname
    exact h.clusters part hpart k hk
  case routes =>
    intro l hl m hm name source hdiscovered
    obtain ⟨part, hpart, hmem⟩ := h.listeners l hl
    obtain ⟨c, hc, rfl⟩ := (hparts part hpart).routes l hmem m hm name source hdiscovered
    exact h.names part hpart c hc
  case domains =>
    rintro c (hc | ⟨l, hl, m, hm, hinline⟩)
    · rcases h.routes c hc with ⟨part, hpart, hmem⟩ | ⟨-, hapart⟩
      · exact (hparts part hpart).domains c (.inl hmem)
      · exact hapart fun part hpart c' hc' => (hparts part hpart).domains c' (.inl hc')
    · obtain ⟨part, hpart, hmem⟩ := h.listeners l hl
      exact (hparts part hpart).domains c (.inr ⟨l, hmem, m, hm, hinline⟩)
  case addresses => exact haddresses
  case readable =>
    intro l hl
    obtain ⟨part, hpart, hmem⟩ := h.listeners l hl
    exact (hparts part hpart).readable l hmem

/-- Parts can be put together when any two virtual hosts for the shared route configuration
answer for the same domains, or for no common one. -/
theorem exists_compose_iff (hapart : ∀ part ∈ partsOf base contributions, ∀ c ∈ part.routes,
      c.DomainsApart) : (∃ b, compose base contributions = .ok b) ↔
    (sharedHostsOf (partsOf base contributions)).Pairwise Compatible := by
  have hall : ∀ c ∈ (partsOf base contributions).flatMap (·.routes),
      c.sharedHosts.Pairwise Compatible := by
    intro c hc
    obtain ⟨part, hpart, hmem⟩ := List.mem_flatMap.1 hc
    exact (hapart part hpart c hmem).sharedHosts.imp .inr
  rw [sharedHostsOf, ← Composition.exists_foldlM_addRoutes_iff hall]
  exact exists_compose_iff_routes

/-- All that can keep consistent parts from being published together. -/
theorem exists_composeChecked_iff
    (hparts : ∀ part ∈ partsOf base contributions, part.Consistent) :
    (∃ b, composeChecked node base contributions = .ok b) ↔
      (sharedHostsOf (partsOf base contributions)).Pairwise Compatible ∧
        Listener.StandApart ((partsOf base contributions).flatMap (·.listeners)) := by
  rw [← exists_compose_iff fun part hpart c hc => (hparts part hpart).domains c (.inl hc)]
  constructor
  · rintro ⟨b, hb⟩
    obtain ⟨hcompose, hcheck⟩ := composeChecked_eq_ok_iff.1 hb
    exact ⟨⟨b, hcompose⟩,
      ((compose_assembles hcompose).consistent_iff hparts).1 (Bundle.check_eq_ok_iff.1 hcheck)⟩
  · rintro ⟨⟨b, hcompose⟩, hapart⟩
    have hconsistent := ((compose_assembles hcompose).consistent_iff hparts).2 hapart
    exact ⟨b, composeChecked_eq_ok_iff.2 ⟨hcompose, Bundle.check_eq_ok_iff.2 hconsistent⟩⟩

end Compose

/-! ## The base of a node -/

/-- The listener that a node has for all deployments, with its routes, is consistent. -/
theorem consistent_sharedBase (port : UInt16) : (sharedBase port).Consistent := by
  have hcount : ∀ config ∈
      (Listener.routed sharedListenerName sharedRoutesName port).managerConfigs,
      config.value.length < UInt64.size := by
    rw [Listener.managerConfigs_routed]
    decide +kernel
  obtain ⟨hreadable, hmanages⟩ := Listener.manages_routed hcount
  have hserves (c : RouteConfiguration) (hc : (sharedBase port).Serves c) :
      c = ⟨sharedRoutesName, []⟩ := by
    rcases hc with hc | ⟨l, hl, m, hm, hinline⟩
    · exact List.mem_singleton.1 hc
    · cases List.mem_singleton.1 hl
      cases (hmanages m).1 hm
      cases hinline
  constructor
  case clusters =>
    rintro c hc name ⟨v, hv, -⟩
    cases hserves c hc
    cases hv
  case routes =>
    intro l hl m hm name source hdiscovered
    cases List.mem_singleton.1 hl
    cases (hmanages m).1 hm
    cases hdiscovered
    exact ⟨_, List.mem_singleton_self _, rfl⟩
  case domains =>
    intro c hc
    cases hserves c hc
    exact .nil
  case addresses => exact List.pairwise_singleton _ _
  case readable =>
    intro l hl
    cases List.mem_singleton.1 hl
    exact hreadable

theorem consistent_empty : Bundle.Consistent {} where
  clusters := by
    rintro c (hc | ⟨l, hl, -⟩)
    · cases hc
    · cases hl
  routes := nofun
  domains := by
    rintro c (hc | ⟨l, hl, -⟩)
    · cases hc
    · cases hl
  addresses := .nil
  readable := nofun

theorem NodeEntry.Sound.consistent_base {e : NodeEntry} (h : e.Sound) : e.base.Consistent := by
  rcases h.base with ⟨hbase, -⟩ | ⟨port, -, hbase, -⟩
  · rw [hbase]
    exact consistent_empty
  · rw [hbase]
    exact consistent_sharedBase port

end GatewayPlane
