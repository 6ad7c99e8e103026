import GatewayPlane.ControlPlane
import GatewayPlane.Proofs.Registry.Representation

/-!
# The deployments that a run leaves

Which deployments are on a node after a run of commands, said without looking at the
registry: each successful command puts one in its place or takes some away. The registry
holds the translations of exactly these, in the same order.
-/
namespace GatewayPlane.ControlPlane
open Checks

/-- A deployment together with the API that is deployed. -/
abbrev Listed := Deployment × Api

inductive Command where
  | listen (node : NodeId) (port : UInt16)
  | deploy (d : Deployment) (api : Api)
  | undeploy (node : NodeId) (deploymentId : String)
  | remove (node : NodeId)

/-- Puts a deployment in place of the one of its identifier, or after all others. -/
def place (x : Listed) : List Listed → List Listed
  | [] => [x]
  | y :: rest => if y.1.id = x.1.id then x :: rest else y :: place x rest

namespace Command

/-- Carries out a command; the reply has the version that there is then. -/
def perform : Command → ControlPlane → Except Fault (Option Version) × ControlPlane
  | listen node port, c => (c.initializeNode node port).map (·.map some) id
  | deploy d api, c => (c.deploy d api).map (·.map some) id
  | undeploy node deploymentId, c => c.undeploy node deploymentId
  | remove node, c => (c.removeNode node).map (·.map fun _ => none) id

/-- The deployments of a node after a command that succeeds. -/
def relist (node : NodeId) : Command → List Listed → List Listed
  | listen _ _, l => l
  | deploy d api, l =>
    match targetNode d with
    | .ok target => if target = node then place (d, api) l else l
    | .error _ => l
  | undeploy target deploymentId, l =>
    if target = node then l.eraseP (·.1.id == deploymentId) else l
  | remove target, l => if target = node then [] else l

end Command

/-- The control plane after a run of commands. -/
def run (c : ControlPlane) (commands : List Command) : ControlPlane :=
  commands.foldl (fun c x => (x.perform c).2) c

/-- The deployments that a run leaves on a node, from those that are there before. -/
def listed (node : NodeId) : ControlPlane → List Command → List Listed → List Listed
  | _, [], l => l
  | c, x :: rest, l =>
    listed node (x.perform c).2 rest (if (x.perform c).1.isOk then x.relist node l else l)

theorem listed_cons_of_isOk {node : NodeId} {c : ControlPlane} {x : Command}
    (h : (x.perform c).1.isOk = true) (rest : List Command) (l : List Listed) :
    listed node c (x :: rest) l = listed node (x.perform c).2 rest (x.relist node l) := by
  rw [listed, if_pos h]

/-- Whether a contribution is what a deployment is translated to for a node. -/
def Translates (c : ControlPlane) (node : NodeId) (x : Listed) (k : Contribution) : Prop :=
  c.contribution x.1 x.2 = .ok (node, k)

/-- Contributions that are, one by one, what deployments are translated to for a node. -/
inductive Translations (c : ControlPlane) (node : NodeId) :
    List Listed → List Contribution → Prop
  | nil : Translations c node [] []
  | cons {x k l contributions} (first : c.Translates node x k)
      (rest : Translations c node l contributions) :
      Translations c node (x :: l) (k :: contributions)

/-- What a command asks of the registry. -/
inductive Asks (c : ControlPlane) : Command → Registry.Command → Prop
  | listen {node port} : Asks c (.listen node port) (.listen node port)
  | deploy {d api node k} (translates : c.Translates node (d, api) k) :
      Asks c (.deploy d api) (.deploy node k)
  | undeploy {node deploymentId} :
      Asks c (.undeploy node deploymentId) (.undeploy node deploymentId)
  | remove {node} : Asks c (.remove node) (.remove node)

variable {c : ControlPlane} {node : NodeId} {x : Listed} {k : Contribution}
  {l : List Listed} {contributions : List Contribution}

theorem Translates.deploymentId (h : c.Translates node x k) : k.deploymentId = x.1.id := by
  obtain ⟨target, -, h⟩ := bind_eq_ok.1 h
  obtain ⟨resources, -, h⟩ := bind_eq_ok.1 h
  cases h
  rfl

theorem Translates.api (h : c.Translates node x k) :
    (k.apiName, k.apiVersion) = (x.1.name, x.1.version) := by
  obtain ⟨target, -, h⟩ := bind_eq_ok.1 h
  obtain ⟨resources, -, h⟩ := bind_eq_ok.1 h
  cases h
  rfl

theorem Translates.targetNode (h : c.Translates node x k) : targetNode x.1 = .ok node := by
  obtain ⟨target, htarget, h⟩ := bind_eq_ok.1 h
  obtain ⟨resources, -, h⟩ := bind_eq_ok.1 h
  cases h
  exact htarget

theorem Translates.provision (h : c.Translates node x k) :
    c.provision x.1 x.2 = .ok k.resources := by
  obtain ⟨target, -, h⟩ := bind_eq_ok.1 h
  obtain ⟨resources, hresources, h⟩ := bind_eq_ok.1 h
  cases h
  exact hresources

/-- Translating only depends on the settings of the gateway. -/
theorem Translations.withRegistry (h : c.Translations node l contributions) (r : Registry) :
    { c with registry := r }.Translations node l contributions := by
  induction h with
  | nil => exact .nil
  | cons hx _ ih => exact .cons hx ih

theorem Translations.place (h : c.Translations node l contributions)
    (hx : c.Translates node x k) :
    c.Translations node (place x l) (NodeEntry.replace k contributions) := by
  induction h with
  | nil => exact .cons hx .nil
  | cons hy hrest ih =>
    rw [ControlPlane.place, NodeEntry.replace, hy.deploymentId, hx.deploymentId]
    split
    · exact .cons hx hrest
    · exact .cons hy ih

theorem Translations.eraseP (h : c.Translations node l contributions)
    (deploymentId : String) :
    c.Translations node (l.eraseP (·.1.id == deploymentId))
      (contributions.eraseP (·.deploymentId == deploymentId)) := by
  induction h with
  | nil => exact .nil
  | @cons y k rest ks hy hrest ih =>
    rw [List.eraseP_cons, List.eraseP_cons, hy.deploymentId]
    cases y.1.id == deploymentId with
    | true => exact hrest
    | false => exact .cons hy ih

/-- A command fails on the way to the registry, or does there what it asks for. -/
theorem perform_cases (c : ControlPlane) (x : Command) :
    (∃ f, x.perform c = (.error f, c)) ∨
      ∃ y, c.Asks x y ∧ x.perform c =
        ((y.perform c.registry).1, { c with registry := (y.perform c.registry).2 }) := by
  cases x with
  | listen node port => exact .inr ⟨_, .listen, rfl⟩
  | undeploy node deploymentId => exact .inr ⟨_, .undeploy, rfl⟩
  | remove node => exact .inr ⟨_, .remove, rfl⟩
  | deploy d api =>
    rw [Command.perform, ControlPlane.deploy]
    cases h : c.contribution d api with
    | error f => exact .inl ⟨f, rfl⟩
    | ok target => exact .inr ⟨_, .deploy h, rfl⟩

theorem relist_elsewhere {x : Command} {y : Registry.Command} (hy : c.Asks x y)
    (hnode : y.node ≠ node) : x.relist node l = l := by
  cases hy with
  | listen => rfl
  | deploy htranslates =>
    rw [Command.relist, htranslates.targetNode]
    exact if_neg hnode
  | undeploy | remove => exact if_neg hnode

/-- The edit of a command translates what it does to the deployments. -/
theorem Translations.relist {x : Command} {y : Registry.Command} {e : NodeEntry}
    (h : c.Translations y.node l e.contributions) (hy : c.Asks x y) :
    c.Translations y.node (x.relist y.node l) (y.edit e).contributions := by
  cases hy with
  | listen => exact h
  | deploy htranslates =>
    rw [Command.relist, htranslates.targetNode, Registry.Command.node]
    dsimp only
    rw [if_pos rfl]
    exact Translations.place h htranslates
  | undeploy =>
    rw [Command.relist, Registry.Command.node, if_pos rfl]
    exact Translations.eraseP h _
  | remove =>
    rw [Command.relist, Registry.Command.node, if_pos rfl]
    exact .nil

/-- The registry is sound, and holds the translations of these deployments for a node. -/
structure Tracks (c : ControlPlane) (node : NodeId) (l : List Listed) : Prop where
  represents : c.registry.Represents
  translates : c.Translations node l (c.registry.entry node).contributions

theorem Tracks.perform (h : c.Tracks node l) (x : Command) :
    (x.perform c).2.Tracks node (if (x.perform c).1.isOk then x.relist node l else l) := by
  have hbare := h.represents.noneBare
  rcases perform_cases c x with ⟨f, hx⟩ | ⟨y, hy, hx⟩
  · rw [hx]
    exact h
  · rw [hx]
    refine ⟨h.represents.perform y, Translations.withRegistry ?_ _⟩
    change c.Translations node _ ((y.perform c.registry).2.entry node).contributions
    by_cases hnode : y.node = node
    · subst hnode
      cases hreply : (y.perform c.registry).1 with
      | error f =>
        rw [Registry.entry_of_error hbare hreply]
        exact h.translates
      | ok v =>
        rw [Registry.contributions_of_ok hbare hreply]
        exact h.translates.relist hy
    · rw [Registry.entry_elsewhere hbare hnode, relist_elsewhere hy hnode, ite_self]
      exact h.translates

theorem Tracks.run (h : c.Tracks node l) (commands : List Command) :
    (c.run commands).Tracks node (listed node c commands l) := by
  induction commands generalizing c l with
  | nil => exact h
  | cons x rest ih => exact ih (h.perform x)

theorem Translations.map_eq (h : c.Translations node l contributions) :
    contributions.map (fun k => (k.deploymentId, k.apiName, k.apiVersion)) =
      l.map fun x => (x.1.id, x.1.name, x.1.version) := by
  induction h with
  | nil => rfl
  | cons hx _ ih => rw [List.map_cons, List.map_cons, ih, hx.deploymentId, hx.api]

/-- The registry lists the same deployments, by identifier, name and version. -/
theorem Tracks.listDeployments (h : c.Tracks node l) (hl : l ≠ []) :
    (c.registry.listDeployments node).map
        (·.map fun s => (s.deploymentId, s.apiName, s.apiVersion)) =
      .ok (l.map fun x => (x.1.id, x.1.name, x.1.version)) := by
  have htranslates := h.translates
  rw [Registry.listDeployments]
  unfold Registry.entry at htranslates
  cases hfound : c.registry.nodes.get? node with
  | none =>
    rw [hfound] at htranslates
    cases htranslates
    exact absurd rfl hl
  | some e =>
    rw [hfound, Option.getD_some] at htranslates
    rw [← Translations.map_eq htranslates]
    exact congrArg Except.ok List.map_map

/-- A run from nothing leaves the translations of its deployments in the registry. -/
theorem run_tracks (gateway : StrategySettings) (node : NodeId) (commands : List Command) :
    (run { gateway := gateway } commands).Tracks node
      (listed node { gateway := gateway } commands []) :=
  Tracks.run ⟨.empty, .nil⟩ commands

end GatewayPlane.ControlPlane
