import GatewayPlane.NameMap.Lemmas
import GatewayPlane.Proofs.Checks
import GatewayPlane.Registry.Composition

/-!
# What composing puts together

Under one name the last resource counts, and each resource stands under its own name. A
snapshot of composed resources therefore holds these resources and nothing else.
-/
namespace GatewayPlane
open Checks

namespace Composition
variable {α : Type} {name : α → String}

theorem insertAll_append (m : NameMap α) (l l' : List α) :
    insertAll name m (l ++ l') = insertAll name (insertAll name m l) l' :=
  List.foldl_append

/-- The last resource of a name is found, or else what was there. -/
theorem get?_insertAll (m : NameMap α) (l : List α) (n : String) :
    (insertAll name m l).get? n = ((l.filter fun a => name a == n).getLast?).or (m.get? n) := by
  induction l generalizing m with
  | nil => rfl
  | cons a rest ih =>
    change (insertAll name (m.insert (name a) a) rest).get? n = _
    rw [ih, NameMap.get?_insert, List.filter_cons]
    by_cases h : name a = n
    · rw [if_pos h, if_pos (by simpa using h), List.getLast?_cons]
      cases (rest.filter fun a => name a == n).getLast? <;> rfl
    · rw [if_neg h, if_neg (by simpa using h)]

theorem ofNamed_eq_insertAll (l : List α) : NameMap.ofNamed name l = insertAll name ∅ l := by
  rw [NameMap.ofNamed, NameMap.ofList, List.foldl_map]
  rfl

/-- Every resource stands under its own name. -/
def Keyed (name : α → String) (m : NameMap α) : Prop :=
  ∀ n a, m.get? n = some a → name a = n

theorem Keyed.empty : Keyed name ∅ := by
  intro n a h
  cases h

theorem Keyed.insert {m : NameMap α} (hm : Keyed name m) (a : α) :
    Keyed name (m.insert (name a) a) := by
  intro n b h
  rw [NameMap.get?_insert] at h
  by_cases hn : name a = n
  · rw [if_pos hn] at h
    cases h
    exact hn
  · rw [if_neg hn] at h
    exact hm n b h

theorem Keyed.insertAll {m : NameMap α} (hm : Keyed name m) (l : List α) :
    Keyed name (insertAll name m l) := by
  induction l generalizing m with
  | nil => exact hm
  | cons a rest ih => exact ih (hm.insert a)

theorem Keyed.mem_values_iff {m : NameMap α} (hm : Keyed name m) {a : α} :
    a ∈ m.values ↔ m.get? (name a) = some a := by
  rw [NameMap.mem_values_iff]
  refine ⟨?_, fun h => ⟨name a, h⟩⟩
  rintro ⟨n, h⟩
  rwa [hm n a h]

theorem Keyed.pairwise_values {m : NameMap α} (hm : Keyed name m) :
    m.values.Pairwise fun a b => name a < name b := by
  rw [NameMap.values, List.pairwise_map]
  refine m.sorted.imp_of_mem fun {e e'} he he' hlt => ?_
  rwa [hm _ _ (NameMap.mem_entries_iff.1 he), hm _ _ (NameMap.mem_entries_iff.1 he')]

/-- Naming the values of a map again gives the map. -/
theorem Keyed.ofNamed_values {m : NameMap α} (hm : Keyed name m) :
    NameMap.ofNamed name m.values = m := by
  have hfound (n : String) (a : α) : m.get? n = some a ↔ a ∈ m.values ∧ name a = n := by
    rw [NameMap.mem_values_iff]
    constructor
    · intro h
      exact ⟨⟨n, h⟩, hm n a h⟩
    · rintro ⟨⟨n', h⟩, rfl⟩
      rwa [hm n' a h]
  apply NameMap.ext
  intro n
  rw [ofNamed_eq_insertAll, get?_insertAll, NameMap.get?_empty, Option.or_none]
  cases hlast : (m.values.filter fun a => name a == n).getLast? with
  | some a =>
    have hmem := List.mem_of_getLast? hlast
    rw [List.mem_filter, beq_iff_eq] at hmem
    exact ((hfound n a).2 hmem).symm
  | none =>
    rw [List.getLast?_eq_none_iff, List.filter_eq_nil_iff] at hlast
    cases hget : m.get? n with
    | none => rfl
    | some a =>
      obtain ⟨hmem, hname⟩ := (hfound n a).1 hget
      exact absurd (beq_iff_eq.2 hname) (hlast a hmem)

theorem Keyed.addRoutes {m m' : NameMap RouteConfiguration} {c : RouteConfiguration}
    (hm : Keyed RouteConfiguration.name m) (h : addRoutes m c = .ok m') :
    Keyed RouteConfiguration.name m' := by
  unfold Composition.addRoutes at h
  split at h
  · next existing hfound =>
    have hname := hm c.name existing hfound
    split at h
    · obtain ⟨hosts, -, h⟩ := bind_eq_ok.1 h
      cases h
      rw [← hname]
      exact hm.insert { existing with virtualHosts := hosts }
    · cases h
      exact hm.insert c
  · cases h
    exact hm.insert c

/-- All of its resources stand under their own names. -/
structure WellKeyed (m : Composition) : Prop where
  clusters : Keyed Cluster.name m.clusters
  endpoints : Keyed LoadAssignment.clusterName m.endpoints
  listeners : Keyed Listener.name m.listeners
  routes : Keyed RouteConfiguration.name m.routes

theorem WellKeyed.empty : WellKeyed {} := ⟨.empty, .empty, .empty, .empty⟩

/-- Adding resources treats their kinds apart. -/
theorem add_eq_ok {m m' : Composition} {b : Bundle} : m.add b = .ok m' ↔
    m'.clusters = insertAll Cluster.name m.clusters b.clusters ∧
      m'.endpoints = insertAll LoadAssignment.clusterName m.endpoints b.endpoints ∧
      m'.listeners = insertAll Listener.name m.listeners b.listeners ∧
      b.routes.foldlM addRoutes m.routes = .ok m'.routes := by
  constructor
  · intro h
    obtain ⟨routes, hroutes, h⟩ := bind_eq_ok.1 h
    cases h
    exact ⟨rfl, rfl, rfl, hroutes⟩
  · rintro ⟨hclusters, hendpoints, hlisteners, hroutes⟩
    refine bind_eq_ok.2 ⟨m'.routes, hroutes, ?_⟩
    rw [← hclusters, ← hendpoints, ← hlisteners]
    rfl

theorem WellKeyed.add {m m' : Composition} {b : Bundle} (hm : m.WellKeyed)
    (h : m.add b = .ok m') : m'.WellKeyed := by
  obtain ⟨hclusters, hendpoints, hlisteners, hroutes⟩ := add_eq_ok.1 h
  constructor
  · rw [hclusters]
    exact hm.clusters.insertAll b.clusters
  · rw [hendpoints]
    exact hm.endpoints.insertAll b.endpoints
  · rw [hlisteners]
    exact hm.listeners.insertAll b.listeners
  · exact foldlM_keeps (fun _ _ _ => Keyed.addRoutes) hm.routes hroutes

/-- So does adding one part after the other. -/
theorem foldlM_add_eq_ok {parts : List Bundle} {m m' : Composition} :
    parts.foldlM Composition.add m = .ok m' ↔
      m'.clusters = insertAll Cluster.name m.clusters (parts.flatMap (·.clusters)) ∧
      m'.endpoints = insertAll LoadAssignment.clusterName m.endpoints
        (parts.flatMap (·.endpoints)) ∧
      m'.listeners = insertAll Listener.name m.listeners (parts.flatMap (·.listeners)) ∧
      (parts.flatMap (·.routes)).foldlM addRoutes m.routes = .ok m'.routes := by
  induction parts generalizing m with
  | nil =>
    constructor
    · intro h
      cases h
      exact ⟨rfl, rfl, rfl, rfl⟩
    · rintro ⟨hclusters, hendpoints, hlisteners, hroutes⟩
      obtain ⟨clusters, endpoints, listeners, routes⟩ := m'
      cases hclusters
      cases hendpoints
      cases hlisteners
      cases hroutes
      rfl
  | cons part rest ih =>
    simp only [List.foldlM_cons, bind_eq_ok, add_eq_ok, ih, List.flatMap_cons, insertAll_append,
      List.foldlM_append]
    constructor
    · rintro ⟨m₁, ⟨hclusters, hendpoints, hlisteners, hroutes⟩, hrest⟩
      rw [hclusters, hendpoints, hlisteners] at hrest
      exact ⟨hrest.1, hrest.2.1, hrest.2.2.1, _, hroutes, hrest.2.2.2⟩
    · rintro ⟨hclusters, hendpoints, hlisteners, routes, hroutes, hrest⟩
      exact ⟨⟨_, _, _, routes⟩, ⟨rfl, rfl, rfl, hroutes⟩, hclusters, hendpoints, hlisteners, hrest⟩

/-- A route configuration other than the shared one is put in place of that of its name. -/
theorem addRoutes_of_ne {m : NameMap RouteConfiguration} {c : RouteConfiguration}
    (h : c.name ≠ sharedRoutesName) : addRoutes m c = .ok (m.insert c.name c) := by
  unfold addRoutes
  split
  · rw [if_neg h]
    rfl
  · rfl

/-- Whatever it is added to, a route configuration leaves something under its own name. -/
theorem addRoutes_eq_ok {m m' : NameMap RouteConfiguration} {c : RouteConfiguration}
    (h : addRoutes m c = .ok m') : ∃ a, m' = m.insert c.name a := by
  unfold addRoutes at h
  split at h
  · split at h
    · obtain ⟨hosts, -, h⟩ := bind_eq_ok.1 h
      cases h
      exact ⟨_, rfl⟩
    · cases h
      exact ⟨_, rfl⟩
  · cases h
    exact ⟨_, rfl⟩

/-- The last route configuration of a name is found, or else what was there, unless it is the
shared one. -/
theorem get?_foldlM_addRoutes {l : List RouteConfiguration} {m m' : NameMap RouteConfiguration}
    {n : String} (hn : n ≠ sharedRoutesName) (h : l.foldlM addRoutes m = .ok m') :
    m'.get? n = ((l.filter fun c => c.name == n).getLast?).or (m.get? n) := by
  induction l generalizing m with
  | nil =>
    cases h
    rfl
  | cons c rest ih =>
    rw [List.foldlM_cons, bind_eq_ok] at h
    obtain ⟨m₁, hc, hrest⟩ := h
    rw [ih hrest, List.filter_cons]
    by_cases hname : c.name = n
    · rw [addRoutes_of_ne (hname ▸ hn)] at hc
      cases hc
      rw [if_pos (by simpa using hname), List.getLast?_cons, hname, NameMap.get?_insert_self]
      cases (rest.filter fun c => c.name == n).getLast? <;> rfl
    · obtain ⟨a, rfl⟩ := addRoutes_eq_ok hc
      rw [if_neg (by simpa using hname), NameMap.get?_insert_of_ne _ _ hname]

/-- Nothing is left out but by something of its name, and nothing added. -/
theorem exists_get?_foldlM_addRoutes {l : List RouteConfiguration} {m : NameMap RouteConfiguration}
    (h : l.foldlM addRoutes ∅ = .ok m) (n : String) :
    (∃ c, m.get? n = some c) ↔ ∃ c ∈ l, c.name = n := by
  have hstep (seen : List RouteConfiguration) (m : NameMap RouteConfiguration)
      (c : RouteConfiguration) (m' : NameMap RouteConfiguration)
      (hm : ∀ n, (∃ c, m.get? n = some c) ↔ ∃ c ∈ seen, c.name = n) (hc : addRoutes m c = .ok m')
      (n : String) : (∃ c, m'.get? n = some c) ↔ ∃ c' ∈ seen ++ [c], c'.name = n := by
    obtain ⟨a, rfl⟩ := addRoutes_eq_ok hc
    simp only [NameMap.get?_insert, List.mem_append, List.mem_singleton, or_and_right, exists_or,
      exists_eq_left, ← hm]
    by_cases hname : c.name = n <;> simp [hname]
  have hempty (n : String) : (∃ c, (∅ : NameMap RouteConfiguration).get? n = some c) ↔
      ∃ c ∈ ([] : List RouteConfiguration), c.name = n := by simp
  have hfold := foldlM_accumulates (g := fun c => [c])
    (I := fun seen m => ∀ n, (∃ c, m.get? n = some c) ↔ ∃ c ∈ seen, c.name = n) hstep hempty h n
  rwa [List.flatMap_singleton'] at hfold

end Composition

section Compose
variable {base b : Bundle} {contributions : List Contribution} {node : NodeId}

/-- What a node is made of: its base, and the resources of its contributions. -/
def partsOf (base : Bundle) (contributions : List Contribution) : List Bundle :=
  base :: contributions.map (·.resources)

theorem compose_eq_ok (h : compose base contributions = .ok b) :
    ∃ m : Composition, m.WellKeyed ∧ m.toBundle = b ∧
      (partsOf base contributions).foldlM Composition.add {} = .ok m := by
  obtain ⟨m, hm, h⟩ := bind_eq_ok.1 h
  cases h
  exact ⟨m, foldlM_keeps (fun _ _ _ => Composition.WellKeyed.add) .empty hm, rfl, hm⟩

/-- Nothing but their route configurations can keep parts from being put together. -/
theorem exists_compose_iff_routes : (∃ b, compose base contributions = .ok b) ↔
    ∃ m, ((partsOf base contributions).flatMap (·.routes)).foldlM Composition.addRoutes ∅ =
      .ok m := by
  constructor
  · rintro ⟨b, h⟩
    obtain ⟨m, -, -, hparts⟩ := compose_eq_ok h
    exact ⟨m.routes, (Composition.foldlM_add_eq_ok.1 hparts).2.2.2⟩
  · rintro ⟨routes, hroutes⟩
    exact ⟨_, bind_eq_ok.2 ⟨⟨_, _, _, routes⟩,
      Composition.foldlM_add_eq_ok.2 ⟨rfl, rfl, rfl, hroutes⟩, rfl⟩⟩

theorem Composition.WellKeyed.ofBundle_toBundle {m : Composition} (hm : m.WellKeyed)
    (v : Version) : Snapshot.ofBundle v m.toBundle = {
      version := v
      clusters := some m.clusters
      endpoints := some m.endpoints
      routes := some m.routes
      listeners := some m.listeners } := by
  simp [Snapshot.ofBundle, Composition.toBundle, hm.clusters.ofNamed_values,
    hm.endpoints.ofNamed_values, hm.listeners.ofNamed_values, hm.routes.ofNamed_values]

/-- A snapshot of composed resources holds them as they are. -/
theorem toBundle_ofBundle_compose (v : Version) (h : compose base contributions = .ok b) :
    (Snapshot.ofBundle v b).toBundle = b := by
  obtain ⟨m, hm, rfl, -⟩ := compose_eq_ok h
  rw [hm.ofBundle_toBundle]
  rfl

theorem composeChecked_eq_ok_iff :
    composeChecked node base contributions = .ok b ↔
      compose base contributions = .ok b ∧ b.check node = .ok () := by
  rw [composeChecked, bind_eq_ok]
  constructor
  · rintro ⟨b', hcompose, h⟩
    obtain ⟨hcheck, h⟩ := seq_eq_ok.1 h
    cases h
    exact ⟨mapError_eq_ok.1 hcompose, hcheck⟩
  · rintro ⟨hcompose, hcheck⟩
    exact ⟨b, mapError_eq_ok.2 hcompose, seq_eq_ok.2 ⟨hcheck, rfl⟩⟩

/-- The clusters of a snapshot of composed resources: those of the base and of all
contributions, the last of each name. -/
theorem clusters_ofBundle_compose (v : Version) (h : compose base contributions = .ok b) :
    (Snapshot.ofBundle v b).clusters = some (Composition.insertAll Cluster.name ∅
      (base.clusters ++ contributions.flatMap (·.resources.clusters))) := by
  obtain ⟨m, hm, rfl, hparts⟩ := compose_eq_ok h
  rw [hm.ofBundle_toBundle, (Composition.foldlM_add_eq_ok.1 hparts).1, partsOf, List.flatMap_cons,
    List.flatMap_map]

/-- The last resource of a name. -/
def Resource.lastNamed (l : List Resource) (name : String) : Option Resource :=
  (l.filter (·.name == name)).getLast?

theorem Resource.lastNamed_append (l l' : List Resource) (name : String) :
    lastNamed (l ++ l') name = (lastNamed l' name).or (lastNamed l name) := by
  rw [lastNamed, List.filter_append, List.getLast?_append]
  rfl

theorem Resource.lastNamed_eq_none_iff {l : List Resource} {name : String} :
    lastNamed l name = none ↔ ∀ x ∈ l, x.name ≠ name := by
  simp [lastNamed]

/-- The resources that parts bring, in order. -/
def Bundle.ofKindAll (k : Kind) (parts : List Bundle) : List Resource :=
  parts.flatMap (·.ofKind k)

theorem lastNamed_ofKindAll {α : Type} {k : Kind} {wrap : α → Resource} (named : α → String)
    {part : Bundle → List α} (hpart : ∀ b : Bundle, b.ofKind k = (part b).map wrap)
    (hnamed : ∀ a, (wrap a).name = named a) (parts : List Bundle) (name : String) :
    Resource.lastNamed (Bundle.ofKindAll k parts) name =
      (((parts.flatMap part).filter (named · == name)).getLast?).map wrap := by
  have hall : Bundle.ofKindAll k parts = (parts.flatMap part).map wrap := by
    rw [Bundle.ofKindAll, List.map_flatMap]
    exact congrArg (parts.flatMap ·) (funext hpart)
  rw [hall, Resource.lastNamed, List.filter_map, List.getLast?_map]
  congr 2
  exact List.filter_congr fun a _ => congrArg (· == name) (hnamed a)

/-- Under each name a snapshot of composed resources holds the last one that there is, but
for the shared route configuration. -/
theorem get?_ofKind_compose (v : Version) {k : Kind} {name : String}
    (hshared : (k, name) ≠ (.route, sharedRoutesName)) (h : compose base contributions = .ok b) :
    ((Snapshot.ofBundle v b).ofKind k).get? name =
      Resource.lastNamed (Bundle.ofKindAll k (partsOf base contributions)) name := by
  obtain ⟨m, hm, rfl, hparts⟩ := compose_eq_ok h
  obtain ⟨hclusters, hendpoints, hlisteners, hroutes⟩ := Composition.foldlM_add_eq_ok.1 hparts
  rw [hm.ofBundle_toBundle, Snapshot.ofKind]
  cases k with
  | cluster =>
    rw [lastNamed_ofKindAll Cluster.name (fun _ => rfl) (fun _ => rfl)]
    simp [Snapshot.ofKind?, hclusters, Composition.get?_insertAll]
  | endpoint =>
    rw [lastNamed_ofKindAll LoadAssignment.clusterName (fun _ => rfl) (fun _ => rfl)]
    simp [Snapshot.ofKind?, hendpoints, Composition.get?_insertAll]
  | listener =>
    rw [lastNamed_ofKindAll Listener.name (fun _ => rfl) (fun _ => rfl)]
    simp [Snapshot.ofKind?, hlisteners, Composition.get?_insertAll]
  | route =>
    have hname : name ≠ sharedRoutesName := fun heq => hshared (heq ▸ rfl)
    rw [lastNamed_ofKindAll RouteConfiguration.name (fun _ => rfl) (fun _ => rfl)]
    simp [Snapshot.ofKind?, Composition.get?_foldlM_addRoutes hname hroutes]

theorem Snapshot.ofKind_toBundle (s : Snapshot) (k : Kind) :
    s.toBundle.ofKind k = (s.ofKind k).values := by
  have hmap {α : Type} (wrap : α → Resource) (m : Option (NameMap α)) :
      (m.getD ∅).values.map wrap = ((m.map (NameMap.map wrap)).getD ∅).values := by
    cases m with
    | none => rfl
    | some m => simp [NameMap.values, NameMap.map]
  cases k <;> exact hmap _ _

/-- In a snapshot of composed resources each stands under its own name. -/
theorem keyed_ofKind_compose (v : Version) (k : Kind) (h : compose base contributions = .ok b) :
    Composition.Keyed Resource.name ((Snapshot.ofBundle v b).ofKind k) := by
  obtain ⟨m, hm, rfl, -⟩ := compose_eq_ok h
  have hwrap {α : Type} {wrap : α → Resource} {named : α → String} {m : NameMap α}
      (hkeyed : Composition.Keyed named m) (hnamed : ∀ a, (wrap a).name = named a) :
      Composition.Keyed Resource.name (m.map wrap) := by
    intro n x hx
    rw [NameMap.get?_map] at hx
    obtain ⟨a, ha, rfl⟩ := Option.map_eq_some_iff.1 hx
    rw [hnamed, hkeyed n a ha]
  rw [hm.ofBundle_toBundle]
  cases k with
  | cluster => exact hwrap hm.clusters fun _ => rfl
  | endpoint => exact hwrap hm.endpoints fun _ => rfl
  | route => exact hwrap hm.routes fun _ => rfl
  | listener => exact hwrap hm.listeners fun _ => rfl

theorem ofKind_compose (v : Version) (k : Kind) (h : compose base contributions = .ok b) :
    b.ofKind k = ((Snapshot.ofBundle v b).ofKind k).values := by
  rw [← Snapshot.ofKind_toBundle, toBundle_ofBundle_compose v h]

/-- Composed resources of a kind come in order of their names, each name once. -/
theorem pairwise_ofKind_compose (k : Kind) (h : compose base contributions = .ok b) :
    (b.ofKind k).Pairwise fun x y => x.name < y.name := by
  rw [ofKind_compose .initial k h]
  exact (keyed_ofKind_compose .initial k h).pairwise_values

/-- The composed resources are the last of their names, but for the shared route
configuration. -/
theorem mem_ofKind_compose {k : Kind} {x : Resource}
    (hshared : (k, x.name) ≠ (.route, sharedRoutesName)) (h : compose base contributions = .ok b) :
    x ∈ b.ofKind k ↔
      Resource.lastNamed (Bundle.ofKindAll k (partsOf base contributions)) x.name = some x := by
  rw [← get?_ofKind_compose .initial hshared h, ofKind_compose .initial k h]
  exact (keyed_ofKind_compose .initial k h).mem_values_iff

end Compose

end GatewayPlane
