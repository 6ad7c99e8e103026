import GatewayPlane.Proofs.Registry.Publishing

/-!
# Commands

What a registry is asked to do, and all that can come of it. A command that succeeds
edits what is known of its node and publishes what that amounts to, or drops the node when
nothing is left of it; one that fails changes nothing.
-/
namespace GatewayPlane

namespace NodeEntry
variable {e : NodeEntry} {p : Publications} {node : NodeId} {port : UInt16} {c d : Contribution}

/-- An entry stays as it is when publishing fails, and else becomes another. -/
def settle (e e' : NodeEntry) : Except Fault Version × Publications → Outcome Version
  | (.error f, p) => (.error f, e, p)
  | (.ok v, p) => (.ok v, e', p)

theorem listen_of_held {s : Snapshot} (hport : e.listenerPort = some port)
    (hheld : p.cache.held? node = some s) :
    e.listen p node port = (.ok s.version, e, { p with cache := (p.cache.get node).2 }) := by
  rw [listen, if_pos hport]
  dsimp only
  rw [Cache.get_fst, hheld]

theorem listen_eq_settle (h : e.listenerPort = some port → p.cache.held? node = none) :
    ∃ p', p.Agrees p' ∧ e.listen p node port =
      settle e { e with base := sharedBase port, listenerPort := some port }
        (p'.publish node (sharedBase port) e.contributions) := by
  by_cases hport : e.listenerPort = some port
  · refine ⟨{ p with cache := (p.cache.get node).2 }, ⟨?_, rfl, ?_, ?_⟩, ?_⟩
    · exact Cache.get_snapshots p.cache node
    · exact Cache.get_stats_set p.cache node
    · exact Cache.get_watches p.cache node
    · rw [listen, if_pos hport]
      dsimp only
      rw [Cache.get_fst, h hport]
      rfl
  · refine ⟨p, .refl p, ?_⟩
    rw [listen, if_neg hport]
    rfl

theorem deploy_of_clash (h : e.clash? c = some d) :
    ∃ field reason, e.deploy p node c = (.error (.validation field reason), e, p) := by
  rw [deploy, h]
  exact ⟨_, _, rfl⟩

theorem deploy_eq_settle (h : e.clash? c = none) :
    e.deploy p node c = settle e { e with contributions := replace c e.contributions }
      (p.publish node e.base (replace c e.contributions)) := by
  rw [deploy, h]
  rfl

theorem replace_ne_nil (c : Contribution) (l : List Contribution) : replace c l ≠ [] := by
  cases l with
  | nil => exact List.cons_ne_nil _ _
  | cons d rest =>
    rw [replace]
    split <;> exact List.cons_ne_nil _ _

end NodeEntry

namespace Registry

inductive Command where
  | listen (node : NodeId) (port : UInt16)
  | deploy (node : NodeId) (c : Contribution)
  | undeploy (node : NodeId) (deploymentId : String)
  | remove (node : NodeId)

/-- What is known of a node; of one that is not there, nothing. -/
def entry (r : Registry) (node : NodeId) : NodeEntry := (r.nodes.get? node).getD {}

/-- No node is kept of which nothing is known. -/
def NoneBare (r : Registry) : Prop :=
  ∀ node e, r.nodes.get? node = some e → e.isBare = false

/-- The same is known and held. -/
structure Agrees (r r' : Registry) : Prop where
  nodes : r'.nodes = r.nodes
  published : r.published.Agrees r'.published

theorem Agrees.refl (r : Registry) : r.Agrees r := ⟨rfl, .refl r.published⟩

namespace Command

def node : Command → NodeId
  | listen node _ | deploy node _ | undeploy node _ | remove node => node

/-- Carries out a command; the reply has the version that there is then. -/
def perform : Command → Registry → Except Fault (Option Version) × Registry
  | listen node port, r => (r.initializeNode node port).map (·.map some) id
  | deploy node c, r => (r.deploy node c).map (·.map some) id
  | undeploy node deploymentId, r => r.undeploy node deploymentId
  | remove node, r => (r.removeNode node).map (·.map fun _ => none) id

/-- What is known of the node after the command. -/
def edit : Command → NodeEntry → NodeEntry
  | listen _ port, e => { e with base := sharedBase port, listenerPort := some port }
  | deploy _ c, e => { e with contributions := NodeEntry.replace c e.contributions }
  | undeploy _ deploymentId, e =>
    { e with contributions := e.contributions.eraseP (·.deploymentId == deploymentId) }
  | remove _, _ => {}

/-- What a command asks of itself and of what is known of its node. -/
def Permitted : Command → NodeEntry → Prop
  | listen _ port, _ => port ≠ 0
  | deploy _ c, e => c.deploymentId.isEmpty = false ∧ e.clash? c = none
  | undeploy _ deploymentId, e => ∃ c ∈ e.contributions, c.deploymentId = deploymentId
  | remove _, e => e.isBare = false

/-- What comes of a command. -/
inductive Outcome (c : Command) (r : Registry) : Except Fault (Option Version) × Registry → Prop
  | failed {f r'}
      (refused : f.FromCache → ∃ b, ¬Cache.accepts (r.cache.held? c.node)
        (.ofBundle (r.published.nextVersion c.node).1 b))
      (agrees : r.Agrees r') : Outcome c r (.error f, r')
  | idle {s r' port} (again : c = .listen c.node port)
      (held : r.cache.held? c.node = some s) (agrees : r.Agrees r') :
      Outcome c r (.ok (some s.version), r')
  | published {b r'} (permitted : c.Permitted (r.entry c.node))
      (known : (c.edit (r.entry c.node)).isBare = false)
      (fit : composeChecked c.node (c.edit (r.entry c.node)).base
        (c.edit (r.entry c.node)).contributions = .ok b)
      (nodes : r'.nodes = r.nodes.insert c.node (c.edit (r.entry c.node)))
      (gains : r.published.Gains c.node (.ofBundle (r.published.nextVersion c.node).1 b)
        r'.published) :
      Outcome c r (.ok (some (r.published.nextVersion c.node).1), r')
  | dropped {r'} (permitted : c.Permitted (r.entry c.node))
      (bare : (c.edit (r.entry c.node)).isBare = true)
      (nodes : r'.nodes = r.nodes.erase c.node)
      (loses : r.published.Loses c.node r'.published) : Outcome c r (.ok none, r')

end Command

variable {r : Registry} {node : NodeId}

/-- Nothing is forgotten and nothing made up about a node on which work has failed. -/
theorem nodes_restored (hr : r.NoneBare) (node : NodeId) :
    (if (r.entry node).isBare then r.nodes.erase node
      else r.nodes.insert node (r.entry node)) = r.nodes := by
  unfold entry
  cases hfound : r.nodes.get? node with
  | none =>
    rw [if_pos (by rfl)]
    exact NameMap.erase_eq_self _ hfound
  | some e =>
    rw [Option.getD_some, hr node e hfound]
    exact NameMap.insert_get?_self _ hfound

/-- Work on a node that fails where it stands changes nothing. -/
theorem onNode_failed {α : Type} {c : Command} (hr : r.NoneBare)
    {work : NodeEntry → Publications → NodeEntry.Outcome α} {f : Fault} {p : Publications}
    {g : α → Option Version}
    (hwork : work (r.entry c.node) r.published = (.error f, r.entry c.node, p))
    (hfault : ¬f.FromCache) (hagrees : r.published.Agrees p) :
    c.Outcome r ((r.onNode c.node work).map (·.map g) id) := by
  unfold entry at hwork
  rw [onNode, hwork]
  exact .failed (fun h => absurd h hfault) ⟨nodes_restored hr c.node, hagrees⟩

/-- A registry stays as it is when publishing fails, and else knows something new of a node. -/
def settle (r : Registry) (node : NodeId) (e : NodeEntry) :
    Except Fault Version × Publications → Except Fault (Option Version) × Registry
  | (.error f, p) => (.error f, { r with published := p })
  | (.ok v, p) => (.ok (some v), { nodes := r.nodes.insert node e, published := p })

/-- Publishing what a command makes of its node is an outcome of the command. -/
theorem settle_outcome {c : Command} {x : Except Fault Version × Publications}
    (hpermitted : c.Permitted (r.entry c.node)) (hknown : (c.edit (r.entry c.node)).isBare = false)
    (hx : r.published.Attempt c.node (c.edit (r.entry c.node)).base
      (c.edit (r.entry c.node)).contributions x) :
    c.Outcome r (r.settle c.node (c.edit (r.entry c.node)) x) := by
  cases hx with
  | unfit hunfit hkept =>
    refine .failed ?_ ⟨rfl, hkept⟩
    exact fun h => absurd h (not_fromCache_of_composeChecked hunfit)
  | refused hfit hrefused hkept => exact .failed (fun _ => ⟨_, hrefused⟩) ⟨rfl, hkept⟩
  | done hfit hgains => exact .published hpermitted hknown hfit rfl hgains

/-- Work on a node that ends by publishing what it makes of the node. -/
theorem onNode_settle {c : Command} (hr : r.NoneBare)
    {work : NodeEntry → Publications → NodeEntry.Outcome Version} {p : Publications}
    (hpermitted : c.Permitted (r.entry c.node)) (hknown : (c.edit (r.entry c.node)).isBare = false)
    (hagrees : r.published.Agrees p)
    (hwork : work (r.entry c.node) r.published =
      NodeEntry.settle (r.entry c.node) (c.edit (r.entry c.node))
        (p.publish c.node (c.edit (r.entry c.node)).base (c.edit (r.entry c.node)).contributions)) :
    c.Outcome r ((r.onNode c.node work).map (·.map some) id) := by
  have hattempt := (p.publish_attempt c.node (c.edit (r.entry c.node)).base
    (c.edit (r.entry c.node)).contributions).of_agrees hagrees
  generalize p.publish c.node (c.edit (r.entry c.node)).base
    (c.edit (r.entry c.node)).contributions = x at hattempt hwork
  have hsettle : (r.onNode c.node work).map (·.map some) id =
      r.settle c.node (c.edit (r.entry c.node)) x := by
    unfold entry at hwork
    rw [onNode, hwork]
    obtain ⟨f | v, p'⟩ := x
    · exact congrArg (fun nodes => (Except.error f, (⟨nodes, p'⟩ : Registry)))
        (nodes_restored hr c.node)
    · rfl
  rw [hsettle]
  exact settle_outcome hpermitted hknown hattempt

/-- Listening where the node listens already only looks up what is held. -/
theorem listen_again {port : UInt16} {s : Snapshot} (hport : port ≠ 0)
    (hsame : (r.entry node).listenerPort = some port) (hheld : r.cache.held? node = some s) :
    ∃ r', (Command.listen node port).perform r = (.ok (some s.version), r') ∧ r.Agrees r' := by
  have hentry : r.nodes.get? node = some (r.entry node) := by
    unfold entry at hsame ⊢
    cases hfound : r.nodes.get? node with
    | none => simp [hfound] at hsame
    | some e => rfl
  have hwork := NodeEntry.listen_of_held (p := r.published) hsame hheld
  unfold entry at hwork
  rw [Command.perform, initializeNode, if_neg hport, onNode, hwork]
  refine ⟨_, rfl, NameMap.insert_get?_self _ hentry, ?_, rfl, ?_, ?_⟩
  · exact Cache.get_snapshots r.cache node
  · exact Cache.get_stats_set r.cache node
  · exact Cache.get_watches r.cache node

theorem listen_outcome (hr : r.NoneBare) (node : NodeId) (port : UInt16) :
    (Command.listen node port).Outcome r ((Command.listen node port).perform r) := by
  by_cases hport : port = 0
  · rw [Command.perform, initializeNode, if_pos hport]
    exact .failed False.elim (.refl r)
  by_cases hidle : (r.entry node).listenerPort = some port ∧ ∃ s, r.cache.held? node = some s
  · obtain ⟨hsame, s, hheld⟩ := hidle
    obtain ⟨r', hperform, hagrees⟩ := listen_again hport hsame hheld
    rw [hperform]
    exact .idle rfl hheld hagrees
  · have hfresh (h : (r.entry node).listenerPort = some port) :
        r.published.cache.held? node = none := by
      rw [Option.eq_none_iff_forall_ne_some]
      exact fun s hs => hidle ⟨h, s, hs⟩
    obtain ⟨p, hagrees, hwork⟩ := NodeEntry.listen_eq_settle hfresh
    rw [Command.perform, initializeNode, if_neg hport]
    exact onNode_settle (c := .listen node port) hr hport rfl hagrees hwork

theorem deploy_outcome (hr : r.NoneBare) (node : NodeId) (d : Contribution) :
    (Command.deploy node d).Outcome r ((Command.deploy node d).perform r) := by
  rw [Command.perform, deploy]
  by_cases hid : d.deploymentId.isEmpty = true
  · rw [if_pos hid]
    exact .failed False.elim (.refl r)
  rw [if_neg hid]
  cases hclash : (r.entry node).clash? d with
  | some other =>
    obtain ⟨field, reason, hwork⟩ := NodeEntry.deploy_of_clash (p := r.published) hclash
    exact onNode_failed (c := .deploy node d) hr hwork not_false (.refl _)
  | none =>
    refine onNode_settle (c := .deploy node d) hr ⟨by simpa using hid, hclash⟩ ?_ (.refl _)
      (NodeEntry.deploy_eq_settle hclash)
    simp [Command.edit, NodeEntry.isBare, NodeEntry.replace_ne_nil]

theorem undeploy_outcome (node : NodeId) (deploymentId : String) :
    (Command.undeploy node deploymentId).Outcome r
      ((Command.undeploy node deploymentId).perform r) := by
  rw [Command.perform, undeploy]
  cases hfound : r.nodes.get? node with
  | none => exact .failed False.elim (.refl r)
  | some e =>
    -- from here on what is known of the node is its entry, as the outcome has it
    obtain rfl : r.entry node = e := by rw [entry, hfound, Option.getD_some]
    dsimp only
    by_cases hlisted : (r.entry node).contributions.any (·.deploymentId == deploymentId) = true
    · rw [if_pos hlisted]
      have hpermitted : (Command.undeploy node deploymentId).Permitted (r.entry node) := by
        simpa [Command.Permitted] using hlisted
      generalize hrest : (r.entry node).contributions.eraseP (·.deploymentId == deploymentId) = rest
      have hedit : (Command.undeploy node deploymentId).edit (r.entry node) =
          { r.entry node with contributions := rest } := by
        rw [Command.edit, hrest]
      have hbare : ((Command.undeploy node deploymentId).edit (r.entry node)).isBare =
          (rest.isEmpty && (r.entry node).base.isEmpty) := by
        rw [hedit, NodeEntry.isBare, Bool.and_comm]
      by_cases hlast : (rest.isEmpty && (r.entry node).base.isEmpty) = true
      · rw [if_pos hlast]
        refine .dropped hpermitted (hbare.trans hlast) rfl ⟨?_, rfl, ?_, .inl ?_⟩
        · exact Cache.clear_snapshots r.cache node
        · exact Cache.clear_stats_set r.cache node
        · exact Cache.clear_watches r.cache node
      · rw [if_neg hlast]
        have hattempt := r.published.publish_attempt node (r.entry node).base rest
        generalize r.published.publish node (r.entry node).base rest = x at hattempt ⊢
        have hsettle := settle_outcome (c := .undeploy node deploymentId) (x := x) hpermitted
          (hbare.trans (eq_false_of_ne_true hlast)) (by rwa [Command.node, hedit])
        rw [Command.node, hedit] at hsettle
        obtain ⟨f | v, p⟩ := x <;> exact hsettle
    · rw [if_neg hlisted]
      exact .failed False.elim (.refl r)

theorem remove_outcome (hr : r.NoneBare) (node : NodeId) :
    (Command.remove node).Outcome r ((Command.remove node).perform r) := by
  rw [Command.perform, removeNode]
  by_cases hfound : r.nodes.contains node = true
  · rw [if_pos hfound]
    obtain ⟨e, he⟩ := NameMap.contains_eq_true_iff.1 hfound
    refine .dropped ?_ rfl rfl ⟨?_, rfl, ?_, .inr ?_⟩
    · change (r.entry node).isBare = false
      rw [entry, he]
      exact hr node e he
    · exact Cache.removeNode_snapshots r.cache node
    · exact Cache.removeNode_stats_set r.cache node
    · exact Cache.removeNode_watches r.cache node
  · rw [if_neg hfound]
    exact .failed False.elim (.refl r)

theorem perform_outcome (hr : r.NoneBare) (c : Command) : c.Outcome r (c.perform r) := by
  cases c with
  | listen node port => exact listen_outcome hr node port
  | deploy node d => exact deploy_outcome hr node d
  | undeploy node deploymentId => exact undeploy_outcome node deploymentId
  | remove node => exact remove_outcome hr node

/-- A command changes nothing about other nodes than its own. -/
theorem Command.Outcome.elsewhere {c : Command} {x : Except Fault (Option Version) × Registry}
    (h : c.Outcome r x) (hnode : c.node ≠ node) :
    x.2.nodes.get? node = r.nodes.get? node ∧ x.2.cache.held? node = r.cache.held? node ∧
      x.2.published.versions.get? node = r.published.versions.get? node := by
  cases h with
  | failed _ hagrees | idle _ _ hagrees =>
    exact ⟨by rw [hagrees.nodes], hagrees.published.held? node, by rw [hagrees.published.versions]⟩
  | published _ _ _ hnodes hgains =>
    refine ⟨?_, hgains.held?.trans (if_neg hnode), ?_⟩
    · rw [hnodes, NameMap.get?_insert_of_ne _ _ hnode]
    · rw [hgains.versions, NameMap.get?_insert_of_ne _ _ hnode]
  | dropped _ _ hnodes hloses =>
    refine ⟨?_, hloses.held?.trans (if_neg hnode), ?_⟩
    · rw [hnodes, NameMap.get?_erase, if_neg hnode]
    · rw [hloses.versions]

theorem entry_elsewhere (hr : r.NoneBare) {c : Command} (hnode : c.node ≠ node) :
    (c.perform r).2.entry node = r.entry node := by
  rw [entry, ((perform_outcome hr c).elsewhere hnode).1, entry]

theorem entry_of_error (hr : r.NoneBare) {c : Command} {f : Fault}
    (h : (c.perform r).1 = .error f) : (c.perform r).2.entry node = r.entry node := by
  have houtcome := perform_outcome hr c
  generalize c.perform r = x at houtcome h
  cases houtcome with
  | failed _ hagrees => rw [entry, hagrees.nodes, entry]
  | idle | published | dropped => cases h

/-- A command that succeeds leaves the contributions that it is meant to. -/
theorem contributions_of_ok (hr : r.NoneBare) {c : Command} {v : Option Version}
    (h : (c.perform r).1 = .ok v) :
    ((c.perform r).2.entry c.node).contributions = (c.edit (r.entry c.node)).contributions := by
  have houtcome := perform_outcome hr c
  generalize c.perform r = x at houtcome h
  cases houtcome with
  | failed => cases h
  | idle hagain _ hagrees =>
    -- listening does not touch the contributions, whether it publishes or not
    rw [entry, hagrees.nodes, hagain]
    rfl
  | published _ _ _ hnodes _ =>
    rw [entry, hnodes, NameMap.get?_insert_self, Option.getD_some]
  | dropped _ hbare hnodes _ =>
    rw [NodeEntry.isBare, Bool.and_eq_true, List.isEmpty_iff] at hbare
    rw [entry, hnodes, NameMap.get?_erase, if_pos rfl, hbare.2]
    rfl

/-- The registry after a run of commands. -/
def run (r : Registry) (commands : List Command) : Registry :=
  commands.foldl (fun r c => (c.perform r).2) r

theorem run_keeps {P : Registry → Prop} (hstep : ∀ r c, P r → P (Command.perform c r).2)
    (h : P r) (commands : List Command) : P (r.run commands) := by
  induction commands generalizing r with
  | nil => exact h
  | cons c rest ih => exact ih (hstep r c h)

end Registry

end GatewayPlane
