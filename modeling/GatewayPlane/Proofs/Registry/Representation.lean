import GatewayPlane.Proofs.Consistency.Integrity
import GatewayPlane.Proofs.Registry.Commands

/-!
# What a registry stands for

What is known of a node determines what is published for it. Every command keeps this up,
so a run can only leave behind what its nodes now amount to, whatever happened before.
-/
namespace GatewayPlane

namespace NodeEntry
variable {e : NodeEntry} {c : Contribution} {l : List Contribution}

/-- What can be known of a node. -/
structure Sound (e : NodeEntry) : Prop where
  ids : e.contributions.Pairwise fun c d => c.deploymentId ≠ d.deploymentId
  apis : e.contributions.Pairwise fun c d => (c.apiName, c.apiVersion) ≠ (d.apiName, d.apiVersion)
  base : (e.base = {} ∧ e.listenerPort = none) ∨
    ∃ port, port ≠ 0 ∧ e.base = sharedBase port ∧ e.listenerPort = some port

theorem Sound.empty : Sound {} := ⟨.nil, .nil, .inl ⟨rfl, rfl⟩⟩

/-- The port on which a node listens is all that there is to its base. -/
theorem Sound.base_eq {e' : NodeEntry} (h : e.Sound) (h' : e'.Sound)
    (hport : e.listenerPort = e'.listenerPort) : e.base = e'.base := by
  rcases h.base with ⟨hbase, hp⟩ | ⟨p, -, hbase, hp⟩ <;>
    rcases h'.base with ⟨hbase', hp'⟩ | ⟨p', -, hbase', hp'⟩ <;>
    rw [hp, hp'] at hport <;> cases hport <;> rw [hbase, hbase']

theorem mem_replace {d : Contribution} (h : d ∈ replace c l) : d = c ∨ d ∈ l := by
  induction l with
  | nil => simpa [replace] using h
  | cons d' rest ih =>
    rw [replace] at h
    split at h <;> grind

/-- A contribution fits in where it goes when it fits with those of other deployments. -/
theorem pairwise_replace {R : Contribution → Contribution → Prop} (hsymm : ∀ c d, R c d → R d c)
    (hids : l.Pairwise fun c d => c.deploymentId ≠ d.deploymentId) (hl : l.Pairwise R)
    (hc : ∀ d ∈ l, d.deploymentId ≠ c.deploymentId → R d c) : (replace c l).Pairwise R := by
  induction l with
  | nil => exact List.pairwise_singleton R c
  | cons d rest ih =>
    rw [List.pairwise_cons] at hids hl
    rw [List.forall_mem_cons] at hc
    rw [replace]
    by_cases hsame : d.deploymentId = c.deploymentId
    · rw [if_pos hsame, List.pairwise_cons]
      refine ⟨fun x hx => hsymm _ _ (hc.2 x hx ?_), hl.2⟩
      rw [← hsame]
      exact (hids.1 x hx).symm
    · rw [if_neg hsame, List.pairwise_cons]
      refine ⟨fun x hx => ?_, ih hids.2 hl.2 hc.2⟩
      rcases mem_replace hx with rfl | hx
      · exact hc.1 hsame
      · exact hl.1 x hx

theorem clash?_eq_none (h : e.clash? c = none) :
    ∀ d ∈ e.contributions, d.deploymentId ≠ c.deploymentId →
      (d.apiName, d.apiVersion) ≠ (c.apiName, c.apiVersion) := by
  intro d hd hid hapi
  rw [Prod.mk.injEq] at hapi
  simpa [hid, hapi] using List.find?_eq_none.1 h d hd

end NodeEntry

namespace Registry
variable {r : Registry} {node : NodeId}

theorem Command.edit_sound {c : Command} {e : NodeEntry} (he : e.Sound) (hc : c.Permitted e) :
    (c.edit e).Sound := by
  cases c with
  | listen node port => exact ⟨he.ids, he.apis, .inr ⟨port, hc, rfl, rfl⟩⟩
  | deploy node d =>
    refine ⟨?_, ?_, he.base⟩
    · exact NodeEntry.pairwise_replace (fun _ _ => Ne.symm) he.ids he.ids fun _ _ hid => hid
    · exact NodeEntry.pairwise_replace (fun _ _ => Ne.symm) he.ids he.apis
        (NodeEntry.clash?_eq_none hc.2)
  | undeploy node deploymentId =>
    have hsublist := List.eraseP_sublist (p := (·.deploymentId == deploymentId))
      (l := e.contributions)
    exact ⟨he.ids.sublist hsublist, he.apis.sublist hsublist, he.base⟩
  | remove node => exact .empty

/-- How what is known of a node, what is held of it, and the version recorded for it belong
together. -/
inductive StandsFor (node : NodeId) :
    Option NodeEntry → Option Snapshot → Option Version → Prop
  | absent {last} : StandsFor node none none last
  | present {e b v} (sound : e.Sound) (known : e.isBare = false)
      (fit : composeChecked node e.base e.contributions = .ok b) :
      StandsFor node (some e) (some (.ofBundle v b)) (some v)

theorem StandsFor.of_some {e : NodeEntry} {held : Option Snapshot} {last : Option Version}
    (h : StandsFor node (some e) held last) :
    e.Sound ∧ e.isBare = false ∧ ∃ b v, composeChecked node e.base e.contributions = .ok b ∧
      held = some (.ofBundle v b) ∧ last = some v := by
  cases h with
  | present hsound hknown hfit => exact ⟨hsound, hknown, _, _, hfit, rfl, rfl⟩

theorem StandsFor.of_none {held : Option Snapshot} {last : Option Version}
    (h : StandsFor node none held last) : held = none := by
  cases h
  rfl

/-- Everything that is held is what the nodes amount to. -/
def Represents (r : Registry) : Prop :=
  ∀ node, StandsFor node (r.nodes.get? node) (r.cache.held? node)
    (r.published.versions.get? node)

theorem Represents.empty : Represents {} := fun _ => .absent

theorem Represents.noneBare (h : r.Represents) : r.NoneBare := by
  intro node e he
  have hnode := h node
  rw [he] at hnode
  exact hnode.of_some.2.1

theorem Represents.entry_sound (h : r.Represents) (node : NodeId) : (r.entry node).Sound := by
  have hnode := h node
  unfold entry
  cases hfound : r.nodes.get? node with
  | none => exact .empty
  | some e =>
    rw [hfound] at hnode
    exact hnode.of_some.1

theorem Represents.perform (h : r.Represents) (c : Command) : (c.perform r).2.Represents := by
  intro node
  have houtcome := perform_outcome h.noneBare c
  by_cases hnode : c.node = node
  · subst hnode
    have hsound := h.entry_sound c.node
    generalize c.perform r = x at houtcome
    cases houtcome with
    | failed _ hagrees | idle _ _ hagrees =>
      rw [hagrees.nodes, hagrees.published.versions, cache, hagrees.published.held?]
      exact h c.node
    | published hpermitted hknown hfit hnodes hgains =>
      rw [hnodes, hgains.versions, cache, hgains.held?, if_pos rfl, NameMap.get?_insert_self,
        NameMap.get?_insert_self]
      exact .present (Command.edit_sound hsound hpermitted) hknown hfit
    | dropped _ _ hnodes hloses =>
      rw [hnodes, cache, hloses.held?, if_pos rfl, NameMap.get?_erase, if_pos rfl]
      exact .absent
  · obtain ⟨hnodes, hheld, hversions⟩ := houtcome.elsewhere hnode
    rw [hnodes, hheld, hversions]
    exact h node

theorem run_represents (commands : List Command) : (run {} commands).Represents :=
  run_keeps (P := Represents) (fun _ c h => Represents.perform h c) .empty commands

/-- Of a node of which nothing is known nothing is held, and of any other node what it
amounts to. -/
theorem Represents.held?_cases (h : r.Represents) (node : NodeId) :
    (r.entry node).isBare = true ∧ r.cache.held? node = none ∨
      (r.entry node).isBare = false ∧ ∃ b v,
        compose (r.entry node).base (r.entry node).contributions = .ok b ∧
        r.cache.held? node = some (.ofBundle v b) := by
  have hnode := h node
  unfold entry
  cases hfound : r.nodes.get? node with
  | none =>
    rw [hfound] at hnode
    exact .inl ⟨rfl, hnode.of_none⟩
  | some e =>
    rw [hfound] at hnode
    obtain ⟨-, hknown, b, v, hfit, hheld, -⟩ := hnode.of_some
    exact .inr ⟨hknown, b, v, (composeChecked_eq_ok_iff.1 hfit).1, hheld⟩

/-- Nodes on which the same is listening and deployed hold the same, but for the version. -/
theorem Represents.held?_eq {r' : Registry} {node' : NodeId} (h : r.Represents)
    (h' : r'.Represents) (hport : (r.entry node).listenerPort = (r'.entry node').listenerPort)
    (hcontributions : (r.entry node).contributions = (r'.entry node').contributions) :
    (r.cache.held? node).map (·.withVersion .initial) =
      (r'.cache.held? node').map (·.withVersion .initial) := by
  have hbase := (h.entry_sound node).base_eq (h'.entry_sound node') hport
  have hbare : (r.entry node).isBare = (r'.entry node').isBare := by
    rw [NodeEntry.isBare, NodeEntry.isBare, hbase, hcontributions]
  rcases h.held?_cases node with ⟨hb, hheld⟩ | ⟨hb, b, v, hcompose, hheld⟩ <;>
    rcases h'.held?_cases node' with ⟨hb', hheld'⟩ | ⟨hb', b', v', hcompose', hheld'⟩
  · rw [hheld, hheld']
  · simp [hbare, hb'] at hb
  · simp [hbare, hb'] at hb
  · rw [hbase, hcontributions, hcompose'] at hcompose
    cases hcompose
    rw [hheld, hheld']
    rfl

/-! ## Runs -/

/-- A contribution of one cluster and the route that leads to it. -/
def petsContribution : Contribution where
  deploymentId := "pets"
  apiName := "pets"
  apiVersion := "v1"
  resources := {
    clusters := [.ofBackend "pets-v1-cluster" "pets.internal" 8080 .http]
    routes := [⟨sharedRoutesName, [⟨"pets-v1-vhost", ["*"], [{
      name := "pets-v1-list"
      criteria := some { path := some (.startsWith "/pets") }
      action := some (.forward { specifier := some (.cluster "pets-v1-cluster") }) }]⟩]⟩] }

/-- Whatever a registry was asked to do, its nodes are those of which something is held; what
is held is what the node amounts to, at the last version recorded for it; and the way there
does not matter. -/
theorem run_amounts (commands : List Command) :
    let r := run {} commands
    (∀ node, node ∈ r.listNodes ↔ ∃ s, r.cache.held? node = some s) ∧
    (∀ node e, r.nodes.get? node = some e →
      (∃ b v, compose e.base e.contributions = .ok b ∧
        r.cache.held? node = some (.ofBundle v b) ∧
        r.published.versions.get? node = some v) ∧
      (e.contributions.Pairwise fun c d => c.deploymentId ≠ d.deploymentId) ∧
      (e.contributions.Pairwise fun c d =>
        (c.apiName, c.apiVersion) ≠ (d.apiName, d.apiVersion)) ∧
      ((e.base = {} ∧ e.listenerPort = none) ∨
        ∃ port, port ≠ 0 ∧ e.base = sharedBase port ∧ e.listenerPort = some port)) ∧
    ∀ commands' node node',
      (r.entry node).listenerPort = ((run {} commands').entry node').listenerPort →
      (r.entry node).contributions = ((run {} commands').entry node').contributions →
      (r.cache.held? node).map (·.withVersion .initial) =
        ((run {} commands').cache.held? node').map (·.withVersion .initial) := by
  have hr := run_represents commands
  refine ⟨fun node => ?_, fun node e he => ?_, fun commands' node node' => ?_⟩
  · have hnode := hr node
    rw [listNodes, NameMap.mem_keys_iff]
    cases hfound : (run {} commands).nodes.get? node with
    | none =>
      rw [hfound] at hnode
      simp [hnode.of_none]
    | some e =>
      rw [hfound] at hnode
      obtain ⟨-, -, b, v, -, hheld, -⟩ := hnode.of_some
      simp [hheld]
  · have hnode := hr node
    rw [he] at hnode
    obtain ⟨hsound, -, b, v, hfit, hheld, hlast⟩ := hnode.of_some
    exact ⟨⟨b, v, (composeChecked_eq_ok_iff.1 hfit).1, hheld, hlast⟩, hsound.ids, hsound.apis,
      hsound.base⟩
  · exact hr.held?_eq (run_represents commands')

theorem run_amounts_pets :
    let direct := run {} [.deploy "edge" petsContribution, .listen "edge" 8080]
    let winding := run {} [.listen "edge" 9090, .remove "edge", .undeploy "edge" "none",
      .listen "edge" 7070, .deploy "edge" petsContribution, .listen "edge" 8080]
    (∃ b v, compose (sharedBase 8080) [petsContribution] = .ok b ∧
      direct.cache.held? "edge" = some (.ofBundle v b) ∧
      direct.published.versions.get? "edge" = some v) ∧
    (direct.cache.held? "edge").map (·.withVersion .initial) =
      (winding.cache.held? "edge").map (·.withVersion .initial) := by
  have h := run_amounts [.deploy "edge" petsContribution, .listen "edge" 8080]
  refine ⟨(h.2.1 "edge" ⟨some 8080, sharedBase 8080, [petsContribution]⟩ ?_).1,
    h.2.2 [.listen "edge" 9090, .remove "edge", .undeploy "edge" "none",
      .listen "edge" 7070, .deploy "edge" petsContribution, .listen "edge" 8080] "edge" "edge" ?_ ?_⟩
  all_goals decide +kernel

end Registry

end GatewayPlane
