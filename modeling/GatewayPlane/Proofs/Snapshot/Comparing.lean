import GatewayPlane.Proofs.Consistency.References
import GatewayPlane.Proofs.Provision.Backends
import GatewayPlane.Proofs.Resource.Telling
import GatewayPlane.Proofs.Snapshot.Selecting

/-!
# Snapshots that look the same

Two snapshots are compared by the bytes of their resources. That is a comparison of the resources
themselves, name by name, since a snapshot holds each resource under its own name, and since the
bytes of what is built and provisioned tell all that there is of it.
-/
namespace GatewayPlane
open Checks

/-! ## What is produced -/

/-- A route as it is built or provisioned, with the retries that it got afterwards. -/
inductive Route.Built : Route → Prop
  | direct (name : String) (criteria : RouteMatch) (target : RouteTarget) :
      Built (.to name criteria target)
  | provisioned (p : Provisioner) (d : Deployment) (base : String) (o : Operation) :
      Built (p.route d base o)
  | retried (retrying : Retrying) {r : Route} (h : Built r) : Built (retrying.apply r)

theorem Route.Built.forwards {r : Route} (h : r.Built) : ∃ a, r.action = some (.forward a) := by
  induction h with
  | direct | provisioned => exact ⟨_, rfl⟩
  | retried retrying _ ih =>
    obtain ⟨a, ha⟩ := ih
    rw [retrying.apply_of_forward ha]
    exact ⟨_, rfl⟩

/-- A resource that is built, or comes out of provisioning. -/
inductive Resource.Produced : Resource → Prop
  | backend (name host : String) (port : UInt16) (scheme : Scheme) :
      Produced (.cluster (.ofBackend name host port scheme))
  | balanced (balancing : Balancing) {c : Cluster} (h : Produced (.cluster c)) :
      Produced (.cluster (balancing.apply c))
  | assigned (name host : String) (port : UInt16) : Produced (.endpoint (.single name host port))
  | routed {c : RouteConfiguration} (h : ∀ v ∈ c.virtualHosts, ∀ r ∈ v.routes, r.Built) :
      Produced (.route c)
  | listening {l : Listener} {named : List (String × String)} (h : l.Built named) :
      Produced (.listener l)
  | provisioned {p : Provisioner} {d : Deployment} {api : Api} {b : Bundle} {k : Kind}
      {x : Resource} (h : p.provision d api = .ok b) (hx : x ∈ b.ofKind k) : Produced x

namespace Resource.Produced

theorem routes_built {c : RouteConfiguration} (h : Produced (.route c)) :
    ∀ v ∈ c.virtualHosts, ∀ r ∈ v.routes, r.Built := by
  cases h with
  | routed h => exact h
  | @provisioned p d api b k _ h hx =>
    cases k with
    | cluster | endpoint | listener =>
      obtain ⟨_, -, heq⟩ := List.mem_map.1 hx
      cases heq
    | route =>
      obtain ⟨-, routes, -, hroutes, -, hconfigurations⟩ := Provisioner.provision_eq_ok h
      obtain ⟨c', hc', heq⟩ := List.mem_map.1 hx
      cases heq
      rw [hconfigurations] at hc'
      cases List.mem_singleton.1 hc'
      intro v hv r hr
      cases List.mem_singleton.1 hv
      obtain ⟨plain, hplain, rfl⟩ := List.mem_map.1 hr
      rw [Provisioner.routes_eq_map hroutes] at hplain
      obtain ⟨o, -, rfl⟩ := List.mem_map.1 hplain
      exact .retried p.retrying (.provisioned p d _ o)

theorem known {x : Resource} (h : x.Produced) : x.Known := by
  cases x with
  | cluster | endpoint | listener => trivial
  | route c =>
    intro v hv r hr
    obtain ⟨a, ha⟩ := (h.routes_built v hv r hr).forwards
    rw [ha]
    exact fun heq => nomatch Option.some.inj heq

/-- What is composed of produced resources is so produced: nothing is made up but the shared
routes, and these are the routes of the parts. -/
theorem of_compose {base b : Bundle} {contributions : List Contribution}
    (hparts : ∀ part ∈ partsOf base contributions, ∀ k, ∀ x ∈ part.ofKind k, x.Produced)
    (h : compose base contributions = .ok b) {k : Kind} {x : Resource} (hx : x ∈ b.ofKind k) :
    x.Produced := by
  by_cases hshared : (k, x.name) = (.route, sharedRoutesName)
  · obtain ⟨rfl, -⟩ := Prod.mk.inj hshared
    obtain ⟨c, hc, rfl⟩ := List.mem_map.1 hx
    rcases (compose_assembles h).routes c hc with ⟨part, hpart, hmem⟩ | ⟨hgathers, -⟩
    · exact hparts part hpart .route _ (List.mem_map_of_mem hmem)
    · refine .routed fun w hw r hr => ?_
      obtain ⟨v, hv, hrv⟩ := hgathers.routes w hw r hr
      obtain ⟨c', hc', hv⟩ := List.mem_flatMap.1 hv
      obtain ⟨part, hpart, hmem⟩ := List.mem_flatMap.1 hc'
      have hproduced := hparts part hpart .route _ (List.mem_map_of_mem hmem)
      exact hproduced.routes_built v (RouteConfiguration.mem_sharedHosts.1 hv).2 r hrv
  · obtain ⟨hmem, -⟩ := Resource.name_of_lastNamed ((mem_ofKind_compose hshared h).1 hx)
    obtain ⟨part, hpart, hmem⟩ := List.mem_flatMap.1 hmem
    exact hparts part hpart k x hmem

end Resource.Produced

/-! ## Snapshots of some resources -/

namespace Snapshot
open GatewayPlane.Composition
variable {P Q : Resource → Prop} {s : Snapshot}

/-- Snapshots that resources with a property were put into, one after the other. -/
inductive MadeOf (P : Resource → Prop) : Snapshot → Prop
  | blank (v : Version) : MadeOf P (blank v)
  | mention {s : Snapshot} (h : MadeOf P s) (k : Kind) : MadeOf P (s.mention k)
  | insert {s : Snapshot} (h : MadeOf P s) {x : Resource} (hx : P x) : MadeOf P (s.insert x)
  | withVersion {s : Snapshot} (h : MadeOf P s) (v : Version) : MadeOf P (s.withVersion v)

theorem MadeOf.supply (h : s.MadeOf P) (k : Kind) {l : List Resource} (hl : ∀ x ∈ l, P x) :
    (s.supply k l).MadeOf P := by
  have hfold (s : Snapshot) (h : s.MadeOf P) : (l.foldl Snapshot.insert s).MadeOf P := by
    induction l generalizing s with
    | nil => exact h
    | cons x rest ih =>
      rw [List.forall_mem_cons] at hl
      exact ih hl.2 _ (h.insert hl.1)
  exact hfold _ (h.mention k)

theorem MadeOf.ofBundle {b : Bundle} (hb : ∀ k, ∀ x ∈ b.ofKind k, P x) (v : Version) :
    (ofBundle v b).MadeOf P := by
  rw [ofBundle_eq_foldl]
  have hfold (kinds : List Kind) (s : Snapshot) (h : s.MadeOf P) :
      (kinds.foldl (fun s k => s.supply k (b.ofKind k)) s).MadeOf P := by
    induction kinds generalizing s with
    | nil => exact h
    | cons k rest ih => exact ih _ (h.supply k (hb k))
  exact hfold _ _ (.blank v)

theorem MadeOf.imp (h : s.MadeOf P) (hPQ : ∀ x, P x → Q x) : s.MadeOf Q := by
  induction h with
  | blank v => exact .blank v
  | mention _ k ih => exact ih.mention k
  | insert _ hx ih => exact ih.insert (hPQ _ hx)
  | withVersion _ v ih => exact ih.withVersion v

theorem map_getD {α : Type} (wrap : α → Resource) (m : Option (NameMap α)) :
    (m.getD ∅).map wrap = (m.map (NameMap.map wrap)).getD ∅ := by
  cases m <;> rfl

theorem ofKind_mention (s : Snapshot) (j k : Kind) : (s.mention j).ofKind k = s.ofKind k := by
  cases j <;> cases k <;> first | rfl | exact map_getD _ _

theorem get?_ofKind_insert (s : Snapshot) (x : Resource) (k : Kind) (name : String) :
    ((s.insert x).ofKind k).get? name =
      if x.kind = k ∧ x.name = name then some x else (s.ofKind k).get? name := by
  have hsame {α : Type} {wrap : α → Resource} (named : α → String) (m : Option (NameMap α))
      (a : α) : (((m.getD ∅).insert (named a) a).map wrap).get? name =
        if named a = name then some (wrap a)
        else ((m.map (NameMap.map wrap)).getD ∅).get? name := by
    rw [NameMap.get?_map, NameMap.get?_insert, ← map_getD, NameMap.get?_map]
    split <;> rfl
  by_cases hkind : x.kind = k
  · subst hkind
    rw [if_congr (and_iff_right rfl) rfl rfl]
    cases x with
    | cluster c => exact hsame Cluster.name s.clusters c
    | endpoint e => exact hsame LoadAssignment.clusterName s.endpoints e
    | route c => exact hsame RouteConfiguration.name s.routes c
    | listener l => exact hsame Listener.name s.listeners l
  · rw [if_neg fun h => hkind h.1]
    cases x <;> cases k <;> first | rfl | exact absurd rfl hkind

theorem MadeOf.found (h : s.MadeOf P) {k : Kind} {name : String} {x : Resource}
    (hx : (s.ofKind k).get? name = some x) : x.name = name ∧ P x := by
  induction h with
  | blank v => cases k <;> cases hx
  | mention _ j ih =>
    rw [ofKind_mention] at hx
    exact ih hx
  | withVersion _ v ih => exact ih hx
  | @insert s _ y hy ih =>
    rw [get?_ofKind_insert] at hx
    split at hx
    · next hsame =>
      cases hx
      exact ⟨hsame.2, hy⟩
    · exact ih hx

theorem MadeOf.keyed (h : s.MadeOf P) (k : Kind) : Keyed Resource.name (s.ofKind k) :=
  fun _ _ hx => (h.found hx).1

theorem MadeOf.forall_mem_values (h : s.MadeOf P) (k : Kind) : ∀ x ∈ (s.ofKind k).values, P x := by
  intro x hx
  obtain ⟨name, hx⟩ := NameMap.mem_values_iff.1 hx
  exact (h.found hx).2

theorem sameResources_iff_encoded {a b : Snapshot} :
    a.sameResources b = true ↔ ∀ k, a.encoded k [] = b.encoded k [] := by
  simp only [sameResources, List.all_eq_true, beq_iff_eq]
  exact ⟨fun h k => h k k.mem_pushOrder, fun h k _ => h k⟩

theorem map_encode_inj {l l' : List Resource} (hl : ∀ x ∈ l, x.Known) (hl' : ∀ x ∈ l', x.Known)
    (h : l.map Resource.encode = l'.map Resource.encode) : l = l' := by
  induction l generalizing l' with
  | nil => exact (List.map_eq_nil_iff.1 h.symm).symm
  | cons x rest ih =>
    cases l' with
    | nil => cases h
    | cons y rest' =>
      rw [List.forall_mem_cons] at hl hl'
      obtain ⟨hfirst, hrest⟩ := List.cons.inj h
      rw [(Resource.encode_inj hl.1 hl'.1).1 hfirst, ih hl.2 hl'.2 hrest]

theorem MadeOf.sameResources_iff {a b : Snapshot} (ha : a.MadeOf Resource.Known)
    (hb : b.MadeOf Resource.Known) : a.sameResources b = true ↔
      ∀ k name, (a.ofKind k).get? name = (b.ofKind k).get? name := by
  rw [sameResources_iff_encoded]
  refine forall_congr' fun k => ?_
  rw [encoded_nil, encoded_nil]
  constructor
  · intro h name
    have hvalues := map_encode_inj (ha.forall_mem_values k) (hb.forall_mem_values k) h
    rw [← (ha.keyed k).ofNamed_values, hvalues, (hb.keyed k).ofNamed_values]
  · intro h
    rw [NameMap.ext h]

/-- Snapshots of what is built and provisioned look the same when they hold the same names of
each kind, and the same resources under these names. For the bytes of such a resource tell all
of it, and so do the bytes that are packed within it: those of the connection managers of
listeners, and those of the settings of secured connections. A bundle that is composed of such
resources has such a snapshot. -/
theorem sameResources_exact :
    (∀ x y : Resource, x.Produced → y.Produced → (x.encode = y.encode ↔ x = y)) ∧
    (∀ statPrefix routes statPrefix' routes' : String,
      Wire.encode (ConnectionManager.discovering statPrefix routes).fields =
          Wire.encode (ConnectionManager.discovering statPrefix' routes').fields ↔
        statPrefix = statPrefix' ∧ routes = routes') ∧
    (∀ t t' : BackendTls, Wire.encode t.contextFields = Wire.encode t'.contextFields ↔ t = t') ∧
    (∀ a b : Snapshot, a.MadeOf Resource.Produced → b.MadeOf Resource.Produced →
      (a.sameResources b = true ↔ ∀ k name, (a.ofKind k).get? name = (b.ofKind k).get? name)) ∧
    ∀ (v : Version) (base b : Bundle) (contributions : List Contribution),
      (∀ part ∈ partsOf base contributions, ∀ k, ∀ x ∈ part.ofKind k, x.Produced) →
      compose base contributions = .ok b → (ofBundle v b).MadeOf Resource.Produced := by
  refine ⟨fun x y hx hy => Resource.encode_inj hx.known hy.known,
    fun _ _ _ _ => ConnectionManager.encode_discovering_inj,
    fun t t' => ⟨BackendTls.tells_context.told t t', fun h => h ▸ rfl⟩,
    fun a b ha hb => ?_, fun v base b contributions hparts h => ?_⟩
  · exact (ha.imp fun _ => Resource.Produced.known).sameResources_iff
      (hb.imp fun _ => Resource.Produced.known)
  · exact .ofBundle (fun k x hx => .of_compose hparts h hx) v

end Snapshot

theorem Bundle.produced_twoHosts (first second : String) :
    ∀ k, ∀ x ∈ (twoHosts first second).ofKind k, x.Produced := by
  have hpair {x y : Resource} (hx : x.Produced) (hy : y.Produced) : ∀ z ∈ [x, y], z.Produced :=
    List.forall_mem_cons.2 ⟨hx, List.forall_mem_singleton.2 hy⟩
  intro k
  cases k with
  | cluster => exact hpair (.backend _ _ _ _) (.backend _ _ _ _)
  | endpoint => exact List.forall_mem_nil _
  | listener => exact hpair (.listening (.routed _ _ _)) (.listening (.routed _ _ _))
  | route =>
    refine List.forall_mem_singleton.2 (.routed fun v hv r hr => ?_)
    rcases List.mem_pair.1 hv with rfl | rfl <;>
      · rw [List.mem_singleton.1 hr]
        exact .direct _ _ _

theorem Snapshot.sameResources_exact_hosts :
    let held := ofBundle .initial (.twoHosts "pets" "books")
    let again := (held.insert (.cluster (.ofBackend "pets" "pets" 8080 .http))).withVersion ⟨2⟩
    let others := ofBundle .initial (.twoHosts "pets" "toys")
    held.MadeOf Resource.Produced ∧ again.MadeOf Resource.Produced ∧
    others.MadeOf Resource.Produced ∧
    held.sameResources again = true ∧ held.sameResources others = false := by
  intro held again others
  have hheld : held.MadeOf Resource.Produced := .ofBundle (Bundle.produced_twoHosts _ _) _
  have hagain : again.MadeOf Resource.Produced := (hheld.insert (.backend _ _ _ _)).withVersion _
  have hothers : others.MadeOf Resource.Produced := .ofBundle (Bundle.produced_twoHosts _ _) _
  obtain ⟨-, -, -, hsame, -⟩ := sameResources_exact
  refine ⟨hheld, hagain, hothers, (hsame held again hheld hagain).2 fun k name => ?_, ?_⟩
  · change _ = ((held.insert _).ofKind k).get? name
    rw [get?_ofKind_insert]
    split
    · next hpets =>
      obtain ⟨rfl, rfl⟩ := hpets
      decide +kernel
    · rfl
  · rw [Bool.eq_false_iff, Ne, hsame held others hheld hothers]
    intro h
    exact absurd (h .cluster "toys") (by decide +kernel)

end GatewayPlane
