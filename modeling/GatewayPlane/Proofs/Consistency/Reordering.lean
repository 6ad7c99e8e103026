import GatewayPlane.Proofs.Consistency.Integrity
import GatewayPlane.Resource.Bundle
import GatewayPlane.Strategy.Matching
import GatewayPlane.Strategy.Rollout
import Mathlib.Data.List.Perm.Basic

/-!
# Consistency and order

Consistency is a matter of what resources there are and not of where they stand: the verdict
on a bundle is the same when its resources, the virtual hosts of its configurations, their
routes, or the filters of its listeners come in another order. This goes for the
configurations that stand inside of filters too.
-/
namespace GatewayPlane

/-! ## Lists in another order -/

/-- Lists that are the same up to their order and a relation between their members. -/
def Reorders {α : Type} (R : α → α → Prop) : List α → List α → Prop :=
  Relation.Comp List.Perm (List.Forall₂ R)

namespace Reorders
variable {α : Type} {R : α → α → Prop} {l l' : List α}

theorem of_forall₂ (h : List.Forall₂ R l l') : Reorders R l l' := ⟨l, .refl l, h⟩

theorem of_perm (hR : ∀ a, R a a) (h : l.Perm l') : Reorders R l l' :=
  ⟨l', h, List.forall₂_same.2 fun a _ => hR a⟩

/-- Going back, the members are told apart before they are put in order. -/
theorem symm (hR : ∀ a b, R a b → R b a) (h : Reorders R l l') : Reorders R l' l := by
  obtain ⟨m, hperm, hall⟩ := h
  have hback : List.Forall₂ R l' m := hall.flip.imp fun a b hba => hR b a hba
  have hcomp : Relation.Comp (List.Forall₂ R) List.Perm l' l := ⟨m, hback, hperm.symm⟩
  rwa [List.forall₂_comp_perm_eq_perm_comp_forall₂] at hcomp

theorem exists_mem (h : Reorders R l l') {a : α} (ha : a ∈ l) : ∃ a' ∈ l', R a a' := by
  obtain ⟨m, hperm, hall⟩ := h
  have hm : a ∈ m := hperm.mem_iff.1 ha
  clear hperm ha
  induction hall with
  | nil => cases hm
  | cons hfirst _ ih =>
    rcases List.mem_cons.1 hm with rfl | hm
    · exact ⟨_, List.mem_cons_self, hfirst⟩
    · obtain ⟨a', ha', hrel⟩ := ih hm
      exact ⟨a', List.mem_cons_of_mem _ ha', hrel⟩

/-- What holds of any two members, whichever comes first, still does. -/
theorem pairwise {S : α → α → Prop} (hsymm : ∀ a b, S a b → S b a)
    (hkeep : ∀ a a' b b', R a a' → R b b' → S a b → S a' b') (h : Reorders R l l')
    (hl : l.Pairwise S) : l'.Pairwise S := by
  obtain ⟨m, hperm, hall⟩ := h
  have hm : m.Pairwise S := hperm.pairwise hl (hsymm _ _)
  clear hperm hl
  induction hall with
  | nil => exact .nil
  | @cons a a' m l' hfirst hrest ih =>
    obtain ⟨hhead, htail⟩ := List.pairwise_cons.1 hm
    refine List.pairwise_cons.2 ⟨fun b' hb' => ?_, ih htail⟩
    obtain ⟨b, hb, hrel⟩ := (of_forall₂ hrest.flip).exists_mem hb'
    exact hkeep a a' b b' hfirst hrel (hhead b hb)

end Reorders

/-! ## Resources in another order -/

/-- Whether two virtual hosts differ in the order of their domains and routes only. -/
structure VirtualHost.Reordered (v w : VirtualHost) : Prop where
  name : v.name = w.name
  domains : v.domains.Perm w.domains
  routes : v.routes.Perm w.routes

structure RouteConfiguration.Reordered (c c' : RouteConfiguration) : Prop where
  name : c.name = c'.name
  virtualHosts : Reorders VirtualHost.Reordered c.virtualHosts c'.virtualHosts

inductive RouteSource.Reordered : RouteSource → RouteSource → Prop
  | same (s) : Reordered s s
  | inline {c c'} (routes : c.Reordered c') : Reordered (inline c) (inline c')

/-- Whether two connection managers differ in the order of what they hold only. -/
structure ConnectionManager.Reordered (m m' : ConnectionManager) : Prop where
  codec : m.codec = m'.codec
  statPrefix : m.statPrefix = m'.statPrefix
  routes : Option.Rel RouteSource.Reordered m.routes m'.routes
  httpFilters : m.httpFilters.Perm m'.httpFilters
  upgrades : m.upgrades.Perm m'.upgrades

/-- Whether two filters are the same, or are configured as connection managers that differ in
the order of what they hold only. -/
inductive Extension.Reordered : Extension → Extension → Prop
  | same (f) : Reordered f f
  | manager {name value value' m m'} (read : ConnectionManager.decode? value = some m)
      (read' : ConnectionManager.decode? value' = some m') (inner : m.Reordered m') :
      Reordered ⟨name, some ⟨TypeUrl.connectionManager, value⟩⟩
        ⟨name, some ⟨TypeUrl.connectionManager, value'⟩⟩

structure FilterChain.Reordered (c c' : FilterChain) : Prop where
  name : c.name = c'.name
  serverNames : c.serverNames = c'.serverNames
  filters : Reorders Extension.Reordered c.filters c'.filters

structure Listener.Reordered (l l' : Listener) : Prop where
  name : l.name = l'.name
  address : l.address = l'.address
  filterChains : Reorders FilterChain.Reordered l.filterChains l'.filterChains
  listenerFilters : l.listenerFilters.Perm l'.listenerFilters

/-- Whether two bundles differ in the order of what they hold only. -/
structure Bundle.Reordered (b b' : Bundle) : Prop where
  clusters : b.clusters.Perm b'.clusters
  endpoints : b.endpoints.Perm b'.endpoints
  routes : Reorders RouteConfiguration.Reordered b.routes b'.routes
  listeners : Reorders Listener.Reordered b.listeners b'.listeners

theorem VirtualHost.Reordered.refl (v : VirtualHost) : v.Reordered v := ⟨rfl, .refl _, .refl _⟩

theorem RouteConfiguration.Reordered.refl (c : RouteConfiguration) : c.Reordered c :=
  ⟨rfl, .of_perm .refl (.refl _)⟩

theorem Listener.Reordered.refl (l : Listener) : l.Reordered l :=
  ⟨rfl, rfl, .of_perm (fun _ => ⟨rfl, rfl, .of_perm .same (.refl _)⟩) (.refl _), .refl _⟩

theorem VirtualHost.Reordered.symm {v w : VirtualHost} (h : v.Reordered w) : w.Reordered v :=
  ⟨h.name.symm, h.domains.symm, h.routes.symm⟩

theorem RouteConfiguration.Reordered.symm {c c' : RouteConfiguration} (h : c.Reordered c') :
    c'.Reordered c :=
  ⟨h.name.symm, h.virtualHosts.symm fun _ _ => .symm⟩

theorem ConnectionManager.Reordered.symm {m m' : ConnectionManager} (h : m.Reordered m') :
    m'.Reordered m := by
  refine ⟨h.codec.symm, h.statPrefix.symm, ?_, h.httpFilters.symm, h.upgrades.symm⟩
  have hroutes := h.routes
  generalize m.routes = r at hroutes
  generalize m'.routes = r' at hroutes
  cases hroutes with
  | none => exact .none
  | some hsource =>
    cases hsource with
    | same => exact .some (.same _)
    | inline hconfiguration => exact .some (.inline hconfiguration.symm)

theorem Extension.Reordered.symm {f f' : Extension} (h : f.Reordered f') : f'.Reordered f := by
  cases h with
  | same => exact .same f
  | manager hread hread' hinner => exact .manager hread' hread hinner.symm

theorem FilterChain.Reordered.symm {c c' : FilterChain} (h : c.Reordered c') : c'.Reordered c :=
  ⟨h.name.symm, h.serverNames.symm, h.filters.symm fun _ _ => .symm⟩

theorem Listener.Reordered.symm {l l' : Listener} (h : l.Reordered l') : l'.Reordered l :=
  ⟨h.name.symm, h.address.symm, h.filterChains.symm fun _ _ => .symm, h.listenerFilters.symm⟩

theorem Bundle.Reordered.symm {b b' : Bundle} (h : b.Reordered b') : b'.Reordered b where
  clusters := h.clusters.symm
  endpoints := h.endpoints.symm
  routes := h.routes.symm fun _ _ => .symm
  listeners := h.listeners.symm fun _ _ => .symm

/-! ## What does not depend on the order -/

namespace RouteConfiguration.Reordered
variable {c c' : RouteConfiguration}

theorem targets (h : c.Reordered c') {name : String} (htargets : c.Targets name) :
    c'.Targets name := by
  obtain ⟨v, hv, r, hr, hforwards⟩ := htargets
  obtain ⟨w, hw, hvw⟩ := h.virtualHosts.exists_mem hv
  exact ⟨w, hw, r, hvw.routes.mem_iff.1 hr, hforwards⟩

theorem domainsApart (h : c.Reordered c') (hapart : c.DomainsApart) : c'.DomainsApart := by
  refine h.virtualHosts.pairwise (fun v w hvw d hw hv => hvw d hv hw) ?_ hapart
  intro v v' w w' hv hw hvw d hd hd'
  exact hvw d (hv.domains.mem_iff.2 hd) (hw.domains.mem_iff.2 hd')

end RouteConfiguration.Reordered

namespace Listener.Reordered
variable {l l' : Listener}

/-- The filters of a listener are still there, if they are connection managers with what they
hold in another order. -/
theorem hasManagerConfig (h : l.Reordered l') {c : TypedConfig} (hc : l.HasManagerConfig c) :
    ∃ c', l'.HasManagerConfig c' ∧ (c = c' ∨ ∃ m m', ConnectionManager.decode? c.value = some m ∧
      ConnectionManager.decode? c'.value = some m' ∧ m.Reordered m') := by
  obtain ⟨chain, hchain, f, hf, hconfig, htype⟩ := hc
  obtain ⟨chain', hchain', hchains⟩ := h.filterChains.exists_mem hchain
  obtain ⟨f', hf', hfilters⟩ := hchains.filters.exists_mem hf
  cases hfilters with
  | same => exact ⟨c, ⟨chain', hchain', f, hf', hconfig, htype⟩, .inl rfl⟩
  | manager hread hread' hinner =>
    cases hconfig
    exact ⟨_, ⟨chain', hchain', _, hf', rfl, rfl⟩, .inr ⟨_, _, hread, hread', hinner⟩⟩

theorem readable (h : l.Reordered l') (hreadable : l'.Readable) : l.Readable := by
  intro c hc
  obtain ⟨c', hc', rfl | ⟨m, -, hm, -⟩⟩ := h.hasManagerConfig hc
  · exact hreadable c hc'
  · exact ⟨m, hm⟩

theorem manages (h : l.Reordered l') {m : ConnectionManager} (hm : l.Manages m) :
    ∃ m', l'.Manages m' ∧ Option.Rel RouteSource.Reordered m.routes m'.routes := by
  obtain ⟨c, hc, hread⟩ := hm
  obtain ⟨c', hc', rfl | ⟨m₁, m', hm₁, hm', hinner⟩⟩ := h.hasManagerConfig hc
  · refine ⟨m, ⟨c, hc', hread⟩, ?_⟩
    cases m.routes with
    | none => exact .none
    | some s => exact .some (.same s)
  · obtain rfl : m = m₁ := Option.some.inj (hread.symm.trans hm₁)
    exact ⟨m', ⟨c', hc', hm'⟩, hinner.routes⟩

end Listener.Reordered

namespace Bundle
variable {b b' : Bundle}

theorem Reordered.serves (h : b.Reordered b') {c : RouteConfiguration} (hc : b.Serves c) :
    ∃ c', b'.Serves c' ∧ c.Reordered c' := by
  rcases hc with hc | ⟨l, hl, m, hm, hinline⟩
  · obtain ⟨c', hc', hreordered⟩ := h.routes.exists_mem hc
    exact ⟨c', .inl hc', hreordered⟩
  · obtain ⟨l', hl', hlisteners⟩ := h.listeners.exists_mem hl
    obtain ⟨m', hm', hroutes⟩ := hlisteners.manages hm
    rw [hinline] at hroutes
    generalize hr : m'.routes = r at hroutes
    cases hroutes with
    | some hsource =>
      cases hsource with
      | same => exact ⟨c, .inr ⟨l', hl', m', hm', hr⟩, .refl c⟩
      | inline hreordered => exact ⟨_, .inr ⟨l', hl', m', hm', hr⟩, hreordered⟩

theorem Consistent.reordered (hb : b.Consistent) (h : b.Reordered b') : b'.Consistent where
  clusters c' hc' name htargets := by
    obtain ⟨c, hc, hreordered⟩ := h.symm.serves hc'
    obtain ⟨k, hk, hname⟩ := hb.clusters c hc name (hreordered.targets htargets)
    exact ⟨k, h.clusters.mem_iff.1 hk, hname⟩
  routes l' hl' m' hm' name source hdiscovered := by
    obtain ⟨l, hl, hlisteners⟩ := h.symm.listeners.exists_mem hl'
    obtain ⟨m, hm, hroutes⟩ := hlisteners.manages hm'
    rw [hdiscovered] at hroutes
    generalize hr : m.routes = r at hroutes
    cases hroutes with
    | some hsource =>
      cases hsource with
      | same =>
        obtain ⟨c, hc, hname⟩ := hb.routes l hl m hm name source hr
        obtain ⟨c', hc', hreordered⟩ := h.routes.exists_mem hc
        exact ⟨c', hc', hreordered.name.symm.trans hname⟩
  domains c' hc' := by
    obtain ⟨c, hc, hreordered⟩ := h.symm.serves hc'
    exact hreordered.symm.domainsApart (hb.domains c hc)
  addresses := by
    refine h.listeners.pairwise (fun _ _ hapart => Std.Symm.symm _ _ hapart) ?_ hb.addresses
    intro l₁ l₁' l₂ l₂' h₁ h₂ hapart host port hbinds hbinds'
    exact hapart host port (h₁.address.trans hbinds) (h₂.address.trans hbinds')
  readable l' hl' := by
    obtain ⟨l, hl, hlisteners⟩ := h.symm.listeners.exists_mem hl'
    exact hlisteners.readable (hb.readable l hl)

/-- All requests for a host, sent on to the cluster of its name. -/
def hostOf (name : String) : VirtualHost :=
  ⟨name, [name], [.to name (Matching.exact.criteria "/" "get") (.cluster name)]⟩

/-- Two hosts, each with a cluster and a listener of its own, whose port is the length of the
name. -/
def twoHosts (first second : String) : Bundle where
  clusters := [.ofBackend first first 8080 .http, .ofBackend second second 8080 .http]
  listeners := [.routed first "hosts" first.length.toUInt16,
    .routed second "hosts" second.length.toUInt16]
  routes := [⟨"hosts", [hostOf first, hostOf second]⟩]

end Bundle

end GatewayPlane
