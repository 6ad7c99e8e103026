import GatewayPlane.Proofs.ControlPlane.Listing
import GatewayPlane.Proofs.Provision.Accepting
import GatewayPlane.Proofs.Registry.Fitting
import GatewayPlane.Proofs.Registry.Redeploying
import Mathlib.Data.List.Flatten

/-!
# What can be removed

A deployment that is removed leaves the others, and these fit together as far as their virtual
hosts go, since they did so before. But it may uncover a listener that it had replaced: listeners
are told apart by their names, and two deployments can have listeners of one name. What was
covered need not have an address of its own any more.
-/
namespace GatewayPlane.ControlPlane
open Checks

/-- The name of the listener that a deployment has of its own. -/
def listenerName (d : Deployment) : String := s!"{d.name}-{d.version}-listener"

/-- Whether a deployment has a listener of its own that is not covered by a later one. -/
def Heard (l : List Listed) (x : Listed) : Prop :=
  ∃ earlier later, l = earlier ++ x :: later ∧ x.1.gateway.dedicatedListener = true ∧
    ∀ y ∈ later, y.1.gateway.dedicatedListener = true → listenerName y.1 ≠ listenerName x.1

/-- Whether the listeners of some deployments have ports of their own, next to that of the node. -/
structure PortsApart (shared : Option UInt16) (l : List Listed) : Prop where
  shared : ∀ x, Heard l x → shared ≠ some x.1.gateway.port
  own : ∀ x y, Heard l x → Heard l y → listenerName x.1 ≠ listenerName y.1 →
    x.1.gateway.port ≠ y.1.gateway.port

section Ports
variable {l before after : List Listed} {x y : Listed} {shared : Option UInt16}

/-! ## Which listeners are heard -/

theorem Heard.mem (h : Heard l x) : x ∈ l := by
  obtain ⟨earlier, later, rfl, -⟩ := h
  simp

theorem Heard.dedicated (h : Heard l x) : x.1.gateway.dedicatedListener = true := by
  obtain ⟨-, -, -, hdedicated, -⟩ := h
  exact hdedicated

/-- What is taken away uncovers at most what has its name. -/
theorem Heard.of_removed (h : Heard (before ++ after) y)
    (hother : Heard (before ++ x :: after) x → listenerName y.1 ≠ listenerName x.1) :
    Heard (before ++ x :: after) y := by
  obtain ⟨earlier, later, hsplit, hdedicated, hlast⟩ := h
  rcases List.append_eq_append_iff.1 hsplit with ⟨between, rfl, rfl⟩ | ⟨between, rfl, hlater⟩
  · exact ⟨before ++ x :: between, later, by simp, hdedicated, hlast⟩
  · cases between with
    | nil =>
      rw [List.nil_append] at hlater
      subst hlater
      exact ⟨earlier ++ [x], later, by simp, hdedicated, hlast⟩
    | cons z between =>
      rw [List.cons_append, List.cons.injEq] at hlater
      obtain ⟨rfl, rfl⟩ := hlater
      refine ⟨earlier, between ++ x :: after, by simp, hdedicated, fun u hu hu' => ?_⟩
      rw [List.mem_append, List.mem_cons] at hu
      rcases hu with hu | rfl | hu
      · exact hlast u (List.mem_append_left _ hu) hu'
      · -- it does not cover the other: either it is heard, or something after it is
        intro hname
        refine hother ⟨earlier ++ y :: between, after, by simp, hu', fun w hw hw' => ?_⟩ hname.symm
        rw [hname]
        exact hlast w (List.mem_append_right _ hw) hw'
      · exact hlast u (List.mem_append_right _ hu) hu'

theorem PortsApart.mono {l' : List Listed} (h : PortsApart shared l)
    (hheard : ∀ x, Heard l' x → Heard l x) : PortsApart shared l' where
  shared x hx := h.shared x (hheard x hx)
  own x y hx hy := h.own x y (hheard x hx) (hheard y hy)

/-- Ports stay apart when nothing is uncovered. -/
theorem PortsApart.of_removed (h : PortsApart shared (before ++ x :: after))
    (hcovers : Heard (before ++ x :: after) x → ∀ y ∈ before ++ after,
      y.1.gateway.dedicatedListener = true → listenerName y.1 ≠ listenerName x.1) :
    PortsApart shared (before ++ after) :=
  h.mono fun y hy => hy.of_removed fun hx => hcovers hx y hy.mem hy.dedicated

end Ports

/-! ## The listeners of a node -/

/-- The listener that a node has for all deployments. -/
def sharedListeners (shared : Option UInt16) : List Listener :=
  (shared.map (Listener.routed sharedListenerName sharedRoutesName)).toList

/-- The listener that a deployment has of its own, if it wants one. -/
def ownListener (d : Deployment) : Listener :=
  .routed (listenerName d) (Provisioner.routesName d) d.gateway.port

/-- The listeners that deployments have of their own. -/
def ownListeners (l : List Listed) : List Listener :=
  l.flatMap fun x => Provisioner.listeners x.1

theorem listenerName_ne_shared (d : Deployment) : listenerName d ≠ sharedListenerName := by
  intro h
  -- they differ before their common ending
  have hend := congrArg (fun s : String => s.toList.reverse[8]?) h
  simp only [listenerName, sharedListenerName, String.toList_append, List.reverse_append,
    List.append_assoc] at hend
  rw [List.getElem?_append_left (by decide)] at hend
  exact absurd hend (by decide)

theorem listeners_eq (d : Deployment) : Provisioner.listeners d =
    if d.gateway.dedicatedListener then [ownListener d] else [] := rfl

/-- The last deployment that has a listener of this name of its own. -/
def heard? (l : List Listed) (n : String) : Option Listed :=
  (l.filter fun x => x.1.gateway.dedicatedListener && listenerName x.1 == n).getLast?

theorem heard?_eq_some {l : List Listed} {n : String} {x : Listed} :
    heard? l n = some x ↔ Heard l x ∧ listenerName x.1 = n := by
  rw [heard?, List.getLast?_filter, List.find?_eq_some_iff_append]
  simp only [Bool.and_eq_true, beq_iff_eq, Bool.not_eq_true', Bool.and_eq_false_imp,
    beq_eq_false_iff_ne]
  constructor
  · rintro ⟨⟨hdedicated, rfl⟩, later, earlier, hsplit, hlast⟩
    refine ⟨⟨earlier.reverse, later.reverse, ?_, hdedicated, fun y hy => ?_⟩, rfl⟩
    · rw [← List.reverse_reverse l, hsplit]
      simp
    · exact hlast y (List.mem_reverse.1 hy)
  · rintro ⟨⟨earlier, later, rfl, hdedicated, hlast⟩, rfl⟩
    refine ⟨⟨hdedicated, rfl⟩, later.reverse, earlier.reverse, by simp, fun y hy => ?_⟩
    exact hlast y (List.mem_reverse.1 hy)

theorem lastNamed_ownListeners (l : List Listed) (n : String) :
    Listener.lastNamed (ownListeners l) n = (heard? l n).map fun x => ownListener x.1 := by
  have hown : ownListeners l =
      (l.filter fun x => x.1.gateway.dedicatedListener).map fun x => ownListener x.1 := by
    induction l with
    | nil => rfl
    | cons x rest ih =>
      rw [ownListeners, List.flatMap_cons, ← ownListeners, ih, listeners_eq, List.filter_cons]
      split <;> rfl
  rw [Listener.lastNamed, hown, List.filter_map, List.filter_filter, List.getLast?_map, heard?]
  congr 3
  funext x
  exact Bool.and_comm _ _

/-! ## Ports and addresses -/

theorem binds_routed_iff {name routes host : String} {port : UInt16} {number : UInt32} :
    (Listener.routed name routes port).Binds host number ↔
      host = "0.0.0.0" ∧ number = port.toUInt32 := by
  simp [Listener.Binds, Listener.routed, Listener.anyInterface, Address.ofHostPort, eq_comm]

theorem addressApart_routed_iff {name name' routes routes' : String} {port port' : UInt16} :
    (Listener.routed name routes port).AddressApart (.routed name' routes' port') ↔
      port ≠ port' := by
  simp only [Listener.AddressApart, binds_routed_iff, and_imp, forall_eq_apply_imp_iff, forall_eq,
    true_and, UInt16.toUInt32_inj]

theorem lastNamed_sharedListeners {shared : Option UInt16} {n : String} {z : Listener} :
    Listener.lastNamed (sharedListeners shared) n = some z ↔ ∃ port, shared = some port ∧
      n = sharedListenerName ∧ z = .routed sharedListenerName sharedRoutesName port := by
  cases shared with
  | none => simp [sharedListeners, Listener.lastNamed]
  | some port =>
    by_cases hn : n = sharedListenerName
    · subst hn
      simp [sharedListeners, Listener.lastNamed, Listener.routed, eq_comm]
    · simp [sharedListeners, Listener.lastNamed, Listener.routed, hn, Ne.symm hn]

/-- What listens on a node under a name. -/
theorem lastNamed_listeners {shared : Option UInt16} {l : List Listed} {n : String} {z : Listener} :
    Listener.lastNamed (sharedListeners shared ++ ownListeners l) n = some z ↔
      (∃ x, Heard l x ∧ listenerName x.1 = n ∧ ownListener x.1 = z) ∨
      ∃ port, shared = some port ∧ n = sharedListenerName ∧
        z = .routed sharedListenerName sharedRoutesName port := by
  have hown : Listener.lastNamed (ownListeners l) n = some z ↔
      ∃ x, Heard l x ∧ listenerName x.1 = n ∧ ownListener x.1 = z := by
    simp only [lastNamed_ownListeners, Option.map_eq_some_iff, heard?_eq_some, and_assoc]
  rw [Listener.lastNamed_append, Option.or_eq_some_iff, hown, lastNamed_sharedListeners]
  refine or_congr_right (and_iff_right_of_imp ?_)
  rintro ⟨port, -, rfl, -⟩
  rw [lastNamed_ownListeners, Option.map_eq_none_iff, Option.eq_none_iff_forall_ne_some]
  exact fun x hx => listenerName_ne_shared x.1 (heard?_eq_some.1 hx).2

/-- The listeners of a node have addresses of their own when they have ports of their own. -/
theorem standApart_iff {shared : Option UInt16} {l : List Listed} :
    Listener.StandApart (sharedListeners shared ++ ownListeners l) ↔ PortsApart shared l := by
  constructor
  · intro h
    constructor
    · rintro x hx rfl
      exact addressApart_routed_iff.1 (h _ _ _ _ (listenerName_ne_shared x.1)
        (lastNamed_listeners.2 (.inl ⟨x, hx, rfl, rfl⟩))
        (lastNamed_listeners.2 (.inr ⟨_, rfl, rfl, rfl⟩))) rfl
    · intro x y hx hy hne
      exact addressApart_routed_iff.1 (h _ _ _ _ hne
        (lastNamed_listeners.2 (.inl ⟨x, hx, rfl, rfl⟩))
        (lastNamed_listeners.2 (.inl ⟨y, hy, rfl, rfl⟩)))
  · intro h n n' z z' hne hz hz'
    rcases lastNamed_listeners.1 hz with ⟨x, hx, rfl, rfl⟩ | ⟨port, rfl, rfl, rfl⟩ <;>
      rcases lastNamed_listeners.1 hz' with ⟨y, hy, rfl, rfl⟩ | ⟨port', hport, rfl, rfl⟩
    · exact addressApart_routed_iff.2 (h.own x y hx hy hne)
    · exact addressApart_routed_iff.2 fun heq => h.shared x hx (heq ▸ hport)
    · exact addressApart_routed_iff.2 fun heq => h.shared y hy (heq ▸ rfl)
    · exact absurd rfl hne

/-! ## What is left -/

section Parts
variable {c : ControlPlane} {node : NodeId} {l : List Listed} {contributions : List Contribution}

theorem Translations.forall_mem (h : c.Translations node l contributions) :
    ∀ k ∈ contributions, ∃ x ∈ l, c.Translates node x k := by
  induction h with
  | nil => nofun
  | @cons x k l ks hx _ ih =>
    intro k' hk'
    rcases List.mem_cons.1 hk' with rfl | hk'
    · exact ⟨x, List.mem_cons_self, hx⟩
    · obtain ⟨y, hy, htranslates⟩ := ih k' hk'
      exact ⟨y, List.mem_cons_of_mem x hy, htranslates⟩

/-- What a deployment is translated to brings its own listener, and one virtual host. -/
theorem Translates.parts {x : Listed} {k : Contribution} (h : c.Translates node x k) :
    k.resources.listeners = Provisioner.listeners x.1 ∧
      ∀ routes ∈ k.resources.routes, routes.DomainsApart := by
  obtain ⟨target, -, hprovision⟩ := bind_eq_ok.1 h.provision
  obtain ⟨p, -, hprovision⟩ := bind_eq_ok.1 hprovision
  obtain ⟨plain, routes, -, -, -, hroutes⟩ := Provisioner.provision_eq_ok hprovision
  refine ⟨Provisioner.listeners_of_provision hprovision, ?_⟩
  rw [hroutes, List.forall_mem_singleton]
  exact List.pairwise_singleton _ _

/-- Whether the bytes of the filter in the listener that a deployment has of its own can be
counted in 64 bits. They always can be when they are in memory. -/
def Countable (d : Deployment) : Prop :=
  ∀ l ∈ Provisioner.listeners d, ∀ config ∈ l.managerConfigs, config.value.length < UInt64.size

theorem Translates.consistent {x : Listed} {k : Contribution} (h : c.Translates node x k)
    (hx : Countable x.1) : k.resources.Consistent := by
  obtain ⟨target, -, hprovision⟩ := bind_eq_ok.1 h.provision
  obtain ⟨p, hp, hprovision⟩ := bind_eq_ok.1 hprovision
  obtain ⟨r, hr⟩ := provisioner_eq_ok hp
  refine Provisioner.consistent_of_provision hr hprovision ?_
  rw [h.parts.1]
  exact hx

theorem Translations.listeners (h : c.Translations node l contributions) :
    contributions.flatMap (·.resources.listeners) = ownListeners l := by
  induction h with
  | nil => rfl
  | cons hx _ ih =>
    rw [List.flatMap_cons, ih, hx.parts.1]
    rfl

theorem listeners_base {e : NodeEntry} (h : e.Sound) :
    e.base.listeners = sharedListeners e.listenerPort := by
  rcases h.base with ⟨hbase, hport⟩ | ⟨port, -, hbase, hport⟩
  · rw [hbase, hport]
    rfl
  · rw [hbase, hport]
    rfl

/-- Translated deployments fit together on a node when their virtual hosts do, and their
listeners have ports of their own. -/
theorem Translations.exists_composeChecked_iff {e : NodeEntry}
    (h : c.Translations node l contributions) (he : e.Sound)
    (hcountable : ∀ x ∈ l, Countable x.1) :
    (∃ b, composeChecked node e.base contributions = .ok b) ↔
      (sharedHostsOf (partsOf e.base contributions)).Pairwise VirtualHost.Compatible ∧
        PortsApart e.listenerPort l := by
  have hparts : ∀ part ∈ partsOf e.base contributions, part.Consistent := by
    intro part hpart
    rcases List.mem_cons.1 hpart with rfl | hpart
    · exact he.consistent_base
    · obtain ⟨k, hk, rfl⟩ := List.mem_map.1 hpart
      obtain ⟨x, hx, htranslates⟩ := h.forall_mem k hk
      exact htranslates.consistent (hcountable x hx)
  have hlisteners : (partsOf e.base contributions).flatMap (·.listeners) =
      sharedListeners e.listenerPort ++ ownListeners l := by
    rw [partsOf, List.flatMap_cons, List.flatMap_map, listeners_base he, Translations.listeners h]
  rw [GatewayPlane.exists_composeChecked_iff hparts, hlisteners, standApart_iff]

/-- What is left of contributions brings no other virtual hosts. -/
theorem sharedHostsOf_sublist {base : Bundle} {ks ks' : List Contribution} (h : ks.Sublist ks') :
    (sharedHostsOf (partsOf base ks)).Sublist (sharedHostsOf (partsOf base ks')) :=
  (((h.map _).cons_cons base).flatMap _).flatMap _

end Parts

variable {c : ControlPlane} {node : NodeId} {l : List Listed}

theorem Translations.eq_nil_iff {contributions : List Contribution}
    (h : c.Translations node l contributions) : contributions = [] ↔ l = [] := by
  cases h <;> simp

/-- What is known of a node that is tracked fits together, and so do its listeners. -/
theorem Tracks.fits (h : c.Tracks node l) (hcountable : ∀ x ∈ l, Countable x.1) (hl : l ≠ []) :
    (c.registry.entry node).isBare = false ∧
      (sharedHostsOf (partsOf (c.registry.entry node).base
        (c.registry.entry node).contributions)).Pairwise VirtualHost.Compatible ∧
      PortsApart (c.registry.entry node).listenerPort l := by
  have hsome : (c.registry.entry node).contributions ≠ [] := mt h.translates.eq_nil_iff.1 hl
  have hknown : (c.registry.entry node).isBare = false := by simp [NodeEntry.isBare, hsome]
  exact ⟨hknown, (h.translates.exists_composeChecked_iff (h.represents.entry_sound node)
    hcountable).1 (h.represents.fit hknown)⟩

theorem Tracks.permitted {id : String} (h : c.Tracks node l) (hid : ∃ x ∈ l, x.1.id = id) :
    (Registry.Command.undeploy node id).Permitted (c.registry.entry node) := by
  obtain ⟨x, hx, rfl⟩ := hid
  have hmem := List.mem_map_of_mem (f := fun y : Listed => (y.1.id, y.1.name, y.1.version)) hx
  rw [← h.translates.map_eq] at hmem
  obtain ⟨k, hk, heq⟩ := List.mem_map.1 hmem
  exact ⟨k, hk, congrArg Prod.fst heq⟩

/-- Undeploying what is listed succeeds when nothing is left on the node, or when there is a
version left and the listeners that are left have ports of their own. -/
theorem Tracks.undeploy_isOk_iff {id : String} (h : c.Tracks node l)
    (hcountable : ∀ x ∈ l, Countable x.1) (hid : ∃ x ∈ l, x.1.id = id) :
    (∃ v, (c.undeploy node id).1 = .ok v) ↔
      ((c.registry.entry node).listenerPort = none ∧ l.eraseP (·.1.id == id) = []) ∨
        (c.registry.published.lastNumber node < UInt64.size - 1 ∧
          PortsApart (c.registry.entry node).listenerPort (l.eraseP (·.1.id == id))) := by
  have hsound := h.represents.entry_sound node
  have hrest := h.translates.eraseP id
  have hcountable' : ∀ x ∈ l.eraseP (·.1.id == id), Countable x.1 :=
    fun x hx => hcountable x (List.mem_of_mem_eraseP hx)
  have hl : l ≠ [] := by
    obtain ⟨x, hx, -⟩ := hid
    exact List.ne_nil_of_mem hx
  obtain ⟨-, hcompatible, -⟩ := h.fits hcountable hl
  have hleft := hcompatible.sublist (sharedHostsOf_sublist
    (List.eraseP_sublist (p := fun k : Contribution => k.deploymentId == id)))
  change (∃ v, (c.registry.undeploy node id).1 = .ok v) ↔ _
  rw [h.represents.undeploy_isOk_iff (h.permitted hid)]
  refine or_congr ?_ ?_
  · rw [NodeEntry.isBare, Bool.and_eq_true, List.isEmpty_iff]
    refine and_congr ?_ hrest.eq_nil_iff
    rcases hsound.base with ⟨hbase, hport⟩ | ⟨port, -, hbase, hport⟩
    · simp [Registry.Command.edit, hbase, hport, Bundle.isEmpty]
    · simp [Registry.Command.edit, hbase, hport, Bundle.isEmpty, sharedBase]
  · rw [Registry.Command.Publishable, and_comm]
    refine and_congr Iff.rfl ?_
    exact (hrest.exists_composeChecked_iff hsound hcountable').trans (and_iff_right hleft)

/-- The listeners that are left have ports of their own unless one of them was covered by that of
the deployment that is removed. -/
theorem Tracks.portsApart_eraseP {id : String} (h : c.Tracks node l)
    (hcountable : ∀ x ∈ l, Countable x.1)
    (hcovers : ∀ x ∈ l, x.1.id = id → Heard l x → ∀ y ∈ l.eraseP (·.1.id == id),
      y.1.gateway.dedicatedListener = true → listenerName y.1 ≠ listenerName x.1)
    (hid : ∃ x ∈ l, x.1.id = id) :
    PortsApart (c.registry.entry node).listenerPort (l.eraseP (·.1.id == id)) := by
  obtain ⟨x, hx, rfl⟩ := hid
  obtain ⟨-, -, hports⟩ := h.fits hcountable (List.ne_nil_of_mem hx)
  obtain ⟨y, before, after, -, hy, hsplit, herase⟩ :=
    List.exists_of_eraseP (p := fun z : Listed => z.1.id == x.1.id) hx (beq_self_eq_true x.1.id)
  rw [herase] at hcovers ⊢
  have hmem : y ∈ l := hsplit ▸ by simp
  have hcovers := hcovers y hmem (beq_iff_eq.1 hy)
  rw [hsplit] at hports hcovers
  exact hports.of_removed hcovers

/-- What the registry lists as deployed on a node is listed by the run. -/
theorem Tracks.exists_listed {summaries : List DeploymentSummary} {s : DeploymentSummary}
    (h : c.Tracks node l) (hlist : c.registry.listDeployments node = .ok summaries)
    (hs : s ∈ summaries) : ∃ x ∈ l, x.1.id = s.deploymentId := by
  have hl : l ≠ [] := by
    rintro rfl
    have hnone := h.translates.eq_nil_iff.2 rfl
    rw [Registry.listDeployments] at hlist
    unfold Registry.entry at hnone
    cases hfound : c.registry.nodes.get? node with
    | none => simp [hfound] at hlist
    | some e =>
      rw [hfound, Option.getD_some] at hnone
      rw [hfound, Except.ok.injEq, NodeEntry.summaries, hnone] at hlist
      simp [← hlist] at hs
  have hsame := h.listDeployments hl
  rw [hlist, Except.map, Except.ok.injEq] at hsame
  have hmem := List.mem_map_of_mem
    (f := fun s : DeploymentSummary => (s.deploymentId, s.apiName, s.apiVersion)) hs
  rw [hsame] at hmem
  obtain ⟨x, hx, heq⟩ := List.mem_map.1 hmem
  exact ⟨x, hx, congrArg Prod.fst heq⟩

/-- Whatever commands were run, a deployment that is listed can be undeployed exactly when
nothing is left on a node that does not listen for all deployments, or when there is a version
left and the listeners that are left have ports of their own. These they have when none of them
was covered by the listener of the deployment that goes. -/
theorem run_undeploy_isOk_iff (gateway : StrategySettings) (commands : List Command)
    (node : NodeId) {summaries : List DeploymentSummary} {s : DeploymentSummary}
    (hlist : (run { gateway := gateway } commands).registry.listDeployments node = .ok summaries)
    (hs : s ∈ summaries)
    (hcountable : ∀ x ∈ listed node { gateway := gateway } commands [], Countable x.1) :
    let c := run { gateway := gateway } commands
    let l := listed node { gateway := gateway } commands []
    let rest := l.eraseP (·.1.id == s.deploymentId)
    let shared := (c.registry.entry node).listenerPort
    ((∃ v, (c.undeploy node s.deploymentId).1 = .ok v) ↔
      (shared = none ∧ rest = []) ∨
        (c.registry.published.lastNumber node < UInt64.size - 1 ∧ PortsApart shared rest)) ∧
    ((∀ x ∈ l, x.1.id = s.deploymentId → Heard l x → ∀ y ∈ rest,
        y.1.gateway.dedicatedListener = true → listenerName y.1 ≠ listenerName x.1) →
      PortsApart shared rest) := by
  intro c l rest shared
  have htracks : c.Tracks node l := run_tracks gateway node commands
  have hid := htracks.exists_listed hlist hs
  exact ⟨htracks.undeploy_isOk_iff hcountable hid,
    fun hcovers => htracks.portsApart_eraseP hcountable hcovers hid⟩

/-! ## A listener that is covered -/

/-- A deployment on the node "edge" that has a listener of its own. -/
def aloneOn (port : UInt16) (id name version : String) : Deployment := .ofInfo id default {
  name := name
  version := version
  backend := { host := "pets.internal", port := 8080 }
  gateway := { nodeId := "edge", port := port, dedicatedListener := true } }

def itemsApi : Api where
  info := { name := "items", version := "v1" }
  operations := [{ id := "list", method := "GET", pathPattern := "/items" }]

/-- Two deployments whose listeners have one name. The third takes the port of the first. -/
def coveredListed : List Listed :=
  [(aloneOn 1001 "first" "pets-store" "v1", itemsApi),
    (aloneOn 1002 "second" "pets" "store-v1", itemsApi),
    (aloneOn 1001 "third" "books" "v1", itemsApi)]

def coveredCommands : List Command := coveredListed.map fun x => .deploy x.1 x.2

theorem listed_covered : listed "edge" {} coveredCommands [] = coveredListed := by
  rw [coveredCommands, coveredListed, List.map_cons, List.map_cons, List.map_cons, List.map_nil,
    listed_cons_of_isOk (by decide +kernel), listed_cons_of_isOk (by decide +kernel),
    listed_cons_of_isOk (by decide +kernel), listed]
  rfl

theorem run_covered :
    let c := run {} coveredCommands
    c.registry.listDeployments "edge" =
      .ok [⟨"first", "pets-store", "v1", 3⟩, ⟨"second", "pets", "store-v1", 3⟩,
        ⟨"third", "books", "v1", 3⟩] ∧
    c.registry.published.lastNumber "edge" = 3 ∧
    (c.undeploy "edge" "second").1 = .error (.consistency "edge"
      "listeners books-v1-listener and pets-store-v1-listener both bind 0.0.0.0:1001") := by
  decide +kernel

/-- The third deployment can go: it covers nothing. -/
theorem run_undeploy_isOk_iff_third :
    ∃ v, ((run {} coveredCommands).undeploy "edge" "third").1 = .ok v := by
  have hcountable : ∀ x ∈ listed "edge" {} coveredCommands [], Countable x.1 := by
    rw [listed_covered]
    unfold Countable
    decide +kernel
  obtain ⟨hlist, hnumber, -⟩ := run_covered
  obtain ⟨hiff, hports⟩ := run_undeploy_isOk_iff {} coveredCommands "edge" hlist
    (List.mem_of_getElem? (i := 2) rfl) hcountable
  have hcovers : ∀ x ∈ coveredListed, x.1.id = "third" →
      ∀ y ∈ coveredListed.eraseP (·.1.id == "third"),
        y.1.gateway.dedicatedListener = true → listenerName y.1 ≠ listenerName x.1 := by
    decide +kernel
  refine hiff.2 (.inr ⟨hnumber ▸ by decide, hports ?_⟩)
  rw [listed_covered]
  exact fun x hx hid _ => hcovers x hx hid

/-- The second cannot: without it the first would listen where the third does. -/
theorem not_always_undeployable : ¬∀ (gateway : StrategySettings) (commands : List Command)
    (node : NodeId) (summaries : List DeploymentSummary) (s : DeploymentSummary),
    (run { gateway := gateway } commands).registry.listDeployments node = .ok summaries →
    s ∈ summaries →
    ∃ v, ((run { gateway := gateway } commands).undeploy node s.deploymentId).1 = .ok v := by
  intro h
  obtain ⟨hlist, -, hfails⟩ := run_covered
  obtain ⟨v, hv⟩ := h {} coveredCommands "edge" _ _ hlist (List.mem_of_getElem? (i := 1) rfl)
  rw [hfails] at hv
  exact absurd hv (by simp)

end GatewayPlane.ControlPlane
