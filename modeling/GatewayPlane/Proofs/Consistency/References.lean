import GatewayPlane.Proofs.Resource.Managing
import Mathlib.Data.List.Forall2

/-!
# The routes that built listeners refer to

The names of route configurations go into the filters of a listener as bytes, each inside of
messages inside of messages. The checker reads them from there again: for a listener that was
built for one route configuration, or by the names of hosts, it finds in each chain the one
connection manager that was put there, with the names it was given. So it asks for exactly
these route configurations.
-/
namespace GatewayPlane
open Checks

/-- Whether a chain holds this connection manager, and no other filter with a configuration. -/
def FilterChain.ManagedBy (chain : FilterChain) (m : ConnectionManager) : Prop :=
  ∃ c, chain.filters.filterMap Extension.config = [c] ∧
    c.typeUrl = TypeUrl.connectionManager ∧ ConnectionManager.decode? c.value = some m

/-- Whether a connection manager counts under a prefix, and discovers its routes under a name. -/
structure ConnectionManager.Discovers (m : ConnectionManager) (statPrefix routes : String) :
    Prop where
  statPrefix : m.statPrefix = statPrefix
  routes : ∃ source, m.routes = some (.discovered routes source)

namespace Listener

/-- A listener as it is built, with the prefix and the routes of each chain. -/
inductive Built : Listener → List (String × String) → Prop
  | routed (name routes : String) (port : UInt16) :
      Built (.routed name routes port) [(name, routes)]
  | byHostName (name : String) (port : UInt16) (chains : List HostChain) :
      Built (.byHostName name port chains)
        (chains.map fun c => (name ++ "_" ++ c.environment, c.routes))

variable {l : Listener} {named : List (String × String)} {managers : List ConnectionManager}

/-! ## Chain by chain -/

/-- The checker reads one connection manager from each chain, in their order. -/
theorem connectionManagers_of_managedBy
    (h : List.Forall₂ FilterChain.ManagedBy l.filterChains managers) :
    l.connectionManagers = .ok managers := by
  rw [connectionManagers, managerConfigs]
  generalize l.filterChains = chains at h ⊢
  induction h with
  | nil => rfl
  | @cons chain m chains ms hchain _ ih =>
    obtain ⟨c, hconfig, htype, hm⟩ := hchain
    rw [List.flatMap_cons, hconfig, List.singleton_append, List.filter_cons,
      if_pos (beq_iff_eq.2 htype), List.mapM_cons, hm, ih]
    rfl

theorem managedBy_discovering {chain : FilterChain} {statPrefix routes : String}
    (hfilters : chain.filters = [(ConnectionManager.discovering statPrefix routes).filter])
    (hlength : (Wire.encode (ConnectionManager.discovering statPrefix routes).fields).length <
      UInt64.size) : chain.ManagedBy (.discovering statPrefix routes) := by
  have hread := ConnectionManager.decode?_encode_discovering hlength
  refine ⟨.pack TypeUrl.connectionManager _, ?_, rfl, hread⟩
  rw [hfilters]
  rfl

/-- Every chain of a built listener holds the connection manager that was put there. -/
theorem Built.managedBy (h : l.Built named)
    (hlength : ∀ c ∈ l.managerConfigs, c.value.length < UInt64.size) :
    List.Forall₂ FilterChain.ManagedBy l.filterChains
      (named.map fun n => .discovering n.1 n.2) := by
  cases h with
  | routed name routes port =>
    rw [managerConfigs_routed, List.forall_mem_singleton] at hlength
    exact .cons (managedBy_discovering rfl hlength) .nil
  | byHostName name port chains =>
    change List.Forall₂ _ (chains.map (HostChain.filterChain name)) _
    rw [List.map_map, List.forall₂_map_left_iff, List.forall₂_map_right_iff, List.forall₂_same]
    intro c hc
    apply managedBy_discovering rfl
    apply hlength (.pack TypeUrl.connectionManager _)
    exact mem_managerConfigs.2
      ⟨_, List.mem_map_of_mem hc, _, List.mem_singleton_self _, rfl, rfl⟩

/-! ## What the checker asks for -/

/-- The first name that is missing is what the checker complains of. -/
theorem checkRoutes_of_discovering {clusters routes : List String}
    (h : l.connectionManagers = .ok (named.map fun n => .discovering n.1 n.2)) :
    l.checkRoutes clusters routes =
      match named.find? fun n => !routes.contains n.2 with
      | none => .ok ()
      | some n => .error (.missingRoutes l.name n.2) := by
  rw [checkRoutes, h]
  clear h
  change (forIn (named.map fun n => ConnectionManager.discovering n.1 n.2) () _ >>=
    fun _ => pure ()) = (_ : Except Conflict Unit)
  induction named with
  | nil => rfl
  | cons n rest ih =>
    rw [List.map_cons, List.forIn_cons, List.find?_cons]
    by_cases hn : n.2 ∈ routes
    · simpa [ConnectionManager.discovering, hn] using ih
    · simp [ConnectionManager.discovering, hn]
      rfl

theorem pairwise_addresses_iff {before after : List Listener} :
    (before ++ l :: after).Pairwise AddressApart ↔
      (∀ l' ∈ before ++ after, l.AddressApart l') ∧ (before ++ after).Pairwise AddressApart :=
  (List.pairwise_middle fun h => Std.Symm.symm _ _ h).trans List.pairwise_cons

/-- A listener that discovers all of its routes fits in with other resources when they do without
it, its address is free, and its routes are there. -/
theorem consistent_middle_iff {b : Bundle} {before after : List Listener}
    (h : l.connectionManagers = .ok (named.map fun n => .discovering n.1 n.2))
    (hlisteners : b.listeners = before ++ l :: after) :
    b.Consistent ↔ ({ b with listeners := before ++ after } : Bundle).Consistent ∧
      (∀ l' ∈ before ++ after, l.AddressApart l') ∧
      ∀ n ∈ named, ∃ c ∈ b.routes, c.name = n.2 := by
  obtain ⟨hreadable, hmanages⟩ := connectionManagers_eq_ok h
  have hmem (l' : Listener) : l' ∈ b.listeners ↔ l' = l ∨ l' ∈ before ++ after := by
    simp only [hlisteners, List.mem_append, List.mem_cons]
    tauto
  have hserves (c : RouteConfiguration) :
      b.Serves c ↔ ({ b with listeners := before ++ after } : Bundle).Serves c := by
    refine or_congr_right ⟨?_, ?_⟩
    · rintro ⟨l', hl', m, hm, hinline⟩
      rcases (hmem l').1 hl' with rfl | hl'
      · obtain ⟨n, -, rfl⟩ := List.mem_map.1 ((hmanages m).2 hm)
        cases hinline
      · exact ⟨l', hl', m, hm, hinline⟩
    · rintro ⟨l', hl', hm⟩
      exact ⟨l', (hmem l').2 (.inr hl'), hm⟩
  constructor
  · intro hb
    obtain ⟨hfree, hothers⟩ := pairwise_addresses_iff.1 (hlisteners ▸ hb.addresses)
    refine ⟨?_, hfree, fun n hn => ?_⟩
    · exact {
        clusters := fun c hc => hb.clusters c ((hserves c).2 hc)
        routes := fun l' hl' => hb.routes l' ((hmem l').2 (.inr hl'))
        domains := fun c hc => hb.domains c ((hserves c).2 hc)
        addresses := hothers
        readable := fun l' hl' => hb.readable l' ((hmem l').2 (.inr hl')) }
    · have hm := (hmanages _).1 (List.mem_map_of_mem hn)
      exact hb.routes l ((hmem l).2 (.inl rfl)) _ hm _ _ rfl
  · rintro ⟨hb, hfree, hnames⟩
    exact {
      clusters := fun c hc => hb.clusters c ((hserves c).1 hc)
      routes := by
        intro l' hl' m hm name source hdiscovered
        rcases (hmem l').1 hl' with rfl | hl'
        · obtain ⟨n, hn, rfl⟩ := List.mem_map.1 ((hmanages m).2 hm)
          cases hdiscovered
          exact hnames n hn
        · exact hb.routes l' hl' m hm name source hdiscovered
      domains := fun c hc => hb.domains c ((hserves c).1 hc)
      addresses := hlisteners ▸ pairwise_addresses_iff.2 ⟨hfree, hb.addresses⟩
      readable := by
        intro l' hl'
        rcases (hmem l').1 hl' with rfl | hl'
        · exact hreadable
        · exact hb.readable l' hl' }

/-- The checker reads from a built listener what was put into it: one connection manager from
each chain, in order, with the prefix and the name of the routes that it was given. So the
listener is fine when all these names are there, the first that is missing is complained of, and
in a bundle it adds nothing else to what is asked for but an address of its own. The bytes of a
filter can always be counted in 64 bits. -/
theorem built_references_seen (h : l.Built named)
    (hlength : ∀ c ∈ l.managerConfigs, c.value.length < UInt64.size) :
    (∃ managers, l.connectionManagers = .ok managers ∧
      List.Forall₂ FilterChain.ManagedBy l.filterChains managers ∧
      List.Forall₂ (fun n m => ConnectionManager.Discovers m n.1 n.2) named managers) ∧
    (∀ clusters routes, l.checkRoutes clusters routes =
      match named.find? fun n => !routes.contains n.2 with
      | none => .ok ()
      | some n => .error (.missingRoutes l.name n.2)) ∧
    ∀ (b : Bundle) (before after : List Listener) (node : NodeId),
      b.listeners = before ++ l :: after →
      (b.check node = .ok () ↔
        ({ b with listeners := before ++ after } : Bundle).check node = .ok () ∧
        (∀ l' ∈ before ++ after, l.AddressApart l') ∧
        ∀ n ∈ named, ∃ c ∈ b.routes, c.name = n.2) := by
  have hmanaged := h.managedBy hlength
  have hread := connectionManagers_of_managedBy hmanaged
  refine ⟨⟨_, hread, hmanaged, ?_⟩, fun clusters routes => checkRoutes_of_discovering hread, ?_⟩
  · rw [List.forall₂_map_right_iff, List.forall₂_same]
    exact fun n _ => ⟨rfl, _, rfl⟩
  · intro b before after node hlisteners
    rw [Bundle.check_eq_ok_iff, Bundle.check_eq_ok_iff]
    exact consistent_middle_iff hread hlisteners

/-- Two hosts, one of them for every name that the other does not have. -/
def gateListener : Listener :=
  .byHostName "gate" 8443 [⟨"live", "pets.example", "pets"⟩, ⟨"", "*", ""⟩]

theorem built_references_seen_gate :
    (∃ managers, gateListener.connectionManagers = .ok managers ∧
      List.Forall₂ (fun n m => ConnectionManager.Discovers m n.1 n.2)
        [("gate_live", "pets"), ("gate_", "")] managers) ∧
    gateListener.checkRoutes [] ["pets"] = .error (.missingRoutes "gate" "") ∧
    Bundle.check "edge" { listeners := [gateListener], routes := [⟨"pets", []⟩, ⟨"", []⟩] } =
      .ok () := by
  have hlength : ∀ c ∈ gateListener.managerConfigs, c.value.length < UInt64.size := by
    decide +kernel
  obtain ⟨⟨managers, hread, -, hnames⟩, hroutes, hcheck⟩ :=
    built_references_seen (.byHostName "gate" 8443 _) hlength
  refine ⟨⟨managers, hread, hnames⟩, hroutes [] ["pets"], ?_⟩
  apply (hcheck _ [] [] "edge" rfl).2
  exact ⟨by decide +kernel, by simp, by simp⟩

end Listener
end GatewayPlane
