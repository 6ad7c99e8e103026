import GatewayPlane.Proofs.Registry.Permuting
import GatewayPlane.Proofs.Registry.Verdicts

/-!
# What a snapshot of a bundle holds and tells

A snapshot is filled kind by kind, one resource after the other, and holds of each name the last
resource. What is encoded for a request is therefore given by the names that it asks for, read
off the resources in the order of their names: it does not matter in which order, or how often,
the request gives them, nor in which order the bundle gave the resources.
-/
namespace GatewayPlane

namespace Resource
variable {l l' : List Resource} {name : String} {x : Resource}

theorem exists_lastNamed_iff : (∃ x, lastNamed l name = some x) ↔ ∃ x ∈ l, x.name = name := by
  constructor
  · rintro ⟨x, h⟩
    exact ⟨x, name_of_lastNamed h⟩
  · rintro ⟨x, hx, hname⟩
    apply Option.ne_none_iff_exists'.1
    intro hnone
    exact lastNamed_eq_none_iff.1 hnone x hx hname

/-- The last resource of a name is the only one when no name is given twice. -/
theorem lastNamed_eq_some_iff (h : (l.map Resource.name).Nodup) :
    lastNamed l name = some x ↔ x ∈ l ∧ x.name = name := by
  constructor
  · exact name_of_lastNamed
  · rintro ⟨hx, hname⟩
    obtain ⟨y, hy⟩ := exists_lastNamed_iff.2 ⟨x, hx, hname⟩
    obtain ⟨hmem, hyname⟩ := name_of_lastNamed hy
    rwa [List.inj_on_of_nodup_map h hmem hx (hyname.trans hname.symm)] at hy

theorem lastNamed_of_perm (h : (l.map Resource.name).Nodup) (hperm : l.Perm l') :
    lastNamed l name = lastNamed l' name := by
  have h' : (l'.map Resource.name).Nodup := (hperm.map _).nodup_iff.1 h
  ext x
  rw [lastNamed_eq_some_iff h, lastNamed_eq_some_iff h', hperm.mem_iff]

end Resource

namespace Snapshot
open GatewayPlane.Composition
variable {s : Snapshot} {k : Kind} {names names' : List String}

/-! ## What is held -/

/-- Mentions a kind and inserts resources, one after the other. -/
def supply (s : Snapshot) (k : Kind) (l : List Resource) : Snapshot := l.foldl insert (s.mention k)

/-- Inserting resources of one kind changes the map of that kind. -/
theorem foldl_insert_map {α : Type} {wrap : α → Resource} {named : α → String}
    (holding : NameMap α → Snapshot)
    (h : ∀ m a, (holding m).insert (wrap a) = holding (m.insert (named a) a))
    (m : NameMap α) (l : List α) :
    (l.map wrap).foldl insert (holding m) = holding (insertAll named m l) := by
  induction l generalizing m with
  | nil => rfl
  | cons a rest ih =>
    rw [List.map_cons, List.foldl_cons, h, ih]
    rfl

theorem supply_ofKind (s : Snapshot) (b : Bundle) (k : Kind) : s.supply k (b.ofKind k) =
    match k with
    | .cluster => { s with
        clusters := some (insertAll Cluster.name (s.clusters.getD ∅) b.clusters) }
    | .endpoint => { s with
        endpoints := some (insertAll LoadAssignment.clusterName (s.endpoints.getD ∅) b.endpoints) }
    | .route => { s with
        routes := some (insertAll RouteConfiguration.name (s.routes.getD ∅) b.routes) }
    | .listener => { s with
        listeners := some (insertAll Listener.name (s.listeners.getD ∅) b.listeners) } := by
  cases k with
  | cluster =>
    exact foldl_insert_map (fun m => { s with clusters := some m })
      (fun _ _ => rfl) _ b.clusters
  | endpoint =>
    exact foldl_insert_map (fun m => { s with endpoints := some m })
      (fun _ _ => rfl) _ b.endpoints
  | route =>
    exact foldl_insert_map (fun m => { s with routes := some m })
      (fun _ _ => rfl) _ b.routes
  | listener =>
    exact foldl_insert_map (fun m => { s with listeners := some m })
      (fun _ _ => rfl) _ b.listeners

/-- A snapshot of a bundle is filled kind by kind. -/
theorem ofBundle_eq_foldl (v : Version) (b : Bundle) :
    ofBundle v b = Kind.pushOrder.foldl (fun s k => s.supply k (b.ofKind k)) (blank v) := by
  simp only [Kind.pushOrder, List.foldl_cons, List.foldl_nil, supply_ofKind]
  simp only [ofBundle, blank, ofNamed_eq_insertAll, Option.getD_none]

theorem get?_ofKind_ofBundle (v : Version) (b : Bundle) (k : Kind) (name : String) :
    ((ofBundle v b).ofKind k).get? name = Resource.lastNamed (b.ofKind k) name := by
  have hlast {α : Type} {wrap : α → Resource} (named : α → String) (l : List α)
      (hnamed : ∀ a, (wrap a).name = named a) :
      ((NameMap.ofNamed named l).map wrap).get? name = Resource.lastNamed (l.map wrap) name := by
    rw [NameMap.get?_map, ofNamed_eq_insertAll, get?_insertAll, NameMap.get?_empty,
      Option.or_none, Resource.lastNamed, List.filter_map, List.getLast?_map]
    congr 2
    exact List.filter_congr fun a _ => congrArg (· == name) (hnamed a).symm
  cases k with
  | cluster => exact hlast Cluster.name b.clusters fun _ => rfl
  | endpoint => exact hlast LoadAssignment.clusterName b.endpoints fun _ => rfl
  | route => exact hlast RouteConfiguration.name b.routes fun _ => rfl
  | listener => exact hlast Listener.name b.listeners fun _ => rfl

theorem keyed_ofKind_ofBundle (v : Version) (b : Bundle) (k : Kind) :
    Keyed Resource.name ((ofBundle v b).ofKind k) := by
  intro name x h
  rw [get?_ofKind_ofBundle] at h
  exact (Resource.name_of_lastNamed h).2

/-! ## What is told -/

theorem select_eq_filter (h : Keyed Resource.name (s.ofKind k)) (names : List String) :
    s.select k names =
      (s.ofKind k).values.filter fun x => names.isEmpty || names.contains x.name := by
  rw [select, NameMap.values, List.filter_map]
  congr 1
  refine List.filter_congr fun e he => ?_
  rw [Function.comp_apply, h e.1 e.2 (NameMap.mem_entries_iff.1 he)]

theorem encoded_nil (s : Snapshot) (k : Kind) :
    s.encoded k [] = (s.ofKind k).values.map Resource.encode := by
  simp [encoded, select, NameMap.values]

theorem encoded_eq_filter (h : Keyed Resource.name (s.ofKind k)) (hnames : names ≠ []) :
    s.encoded k names =
      ((s.ofKind k).values.filter (·.name ∈ names)).map Resource.encode := by
  simp [encoded, select_eq_filter h, List.isEmpty_eq_false_iff.2 hnames]

/-- A snapshot of a bundle is filled kind by kind, each with the resources of the bundle one
after the other. It holds the names that are in the bundle, and of each the last resource. What
it tells of a kind without being asked for names are these resources in strict order of their
names. Asked for names, it tells what has one of these, in the same order; so the names that it
does not hold, and the order and the number of the others, do not matter. Nor does the order of
the bundle when no two resources of a kind have the same name. -/
theorem ofBundle_tells_last_named (v : Version) (b : Bundle) :
    ofBundle v b = Kind.pushOrder.foldl (fun s k => s.supply k (b.ofKind k)) (blank v) ∧
    (∀ k name, ((ofBundle v b).contains k name = true ↔ ∃ x ∈ b.ofKind k, x.name = name) ∧
      ((ofBundle v b).ofKind k).get? name = Resource.lastNamed (b.ofKind k) name) ∧
    (∀ k, ∃ held : List Resource,
      (∀ x, x ∈ held ↔ Resource.lastNamed (b.ofKind k) x.name = some x) ∧
      held.Pairwise (fun x y => x.name < y.name) ∧
      (ofBundle v b).encoded k [] = held.map Resource.encode ∧
      ∀ names, names ≠ [] →
        (ofBundle v b).encoded k names =
          (held.filter (·.name ∈ names)).map Resource.encode ∧
        ((ofBundle v b).encoded k names).Sublist ((ofBundle v b).encoded k []) ∧
        ∀ names', names' ≠ [] → (∀ x ∈ held, x.name ∈ names' ↔ x.name ∈ names) →
          (ofBundle v b).encoded k names' = (ofBundle v b).encoded k names) ∧
    (b.NamedApart → ∀ b' : Bundle, (∀ k, (b.ofKind k).Perm (b'.ofKind k)) →
      ∀ v' k names, (ofBundle v b).encoded k names = (ofBundle v' b').encoded k names) := by
  refine ⟨ofBundle_eq_foldl v b, fun k name => ⟨?_, get?_ofKind_ofBundle v b k name⟩,
    fun k => ?_, fun hapart b' hperm v' k names => ?_⟩
  · rw [contains, NameMap.contains_eq_true_iff, get?_ofKind_ofBundle]
    exact Resource.exists_lastNamed_iff
  · have hkeyed := keyed_ofKind_ofBundle v b k
    refine ⟨((ofBundle v b).ofKind k).values, fun x => ?_, hkeyed.pairwise_values,
      encoded_nil _ k, fun names hnames => ⟨encoded_eq_filter hkeyed hnames, ?_, ?_⟩⟩
    · rw [hkeyed.mem_values_iff, get?_ofKind_ofBundle]
    · rw [encoded_eq_filter hkeyed hnames, encoded_nil]
      exact List.filter_sublist.map Resource.encode
    · intro names' hnames' hsame
      rw [encoded_eq_filter hkeyed hnames, encoded_eq_filter hkeyed hnames']
      congr 1
      exact List.filter_congr fun x hx => decide_eq_decide.2 (hsame x hx)
  · have hmaps : (ofBundle v b).ofKind k = (ofBundle v' b').ofKind k := by
      apply NameMap.ext
      intro name
      rw [get?_ofKind_ofBundle, get?_ofKind_ofBundle]
      exact Resource.lastNamed_of_perm (hapart k) (hperm k)
    rw [encoded, encoded, select, select, hmaps]

theorem ofBundle_tells_last_named_hosts :
    let hosts := Bundle.twoHosts "pets" "books"
    let turned := { hosts with clusters := hosts.clusters.reverse }
    let told : Bundle → List String → List TypedConfig :=
      fun b => (ofBundle .initial b).encoded .cluster
    hosts.NamedApart ∧ turned ≠ hosts ∧
    told hosts ["toys", "pets", "books", "pets"] = told hosts ["books", "pets"] ∧
    told hosts ["pets"] = told turned ["pets"] := by
  intro hosts turned told
  obtain ⟨-, -, htold, hperm⟩ := ofBundle_tells_last_named .initial hosts
  have hapart : hosts.NamedApart := by
    intro k
    cases k <;> decide +kernel
  have hturned (k : Kind) : (hosts.ofKind k).Perm (turned.ofKind k) := by
    cases k with
    | cluster => exact (List.reverse_perm hosts.clusters).symm.map _
    | endpoint | route | listener => exact .refl _
  refine ⟨hapart, by decide +kernel, ?_, hperm hapart turned hturned .initial .cluster _⟩
  obtain ⟨held, hheld, -, -, hnames⟩ := htold .cluster
  refine (hnames ["books", "pets"] (by decide)).2.2 _ (by decide) fun x hx => ?_
  have hmem := (Resource.name_of_lastNamed ((hheld x).1 hx)).1
  rcases List.mem_pair.1 hmem with rfl | rfl <;> decide +kernel

end Snapshot

end GatewayPlane
