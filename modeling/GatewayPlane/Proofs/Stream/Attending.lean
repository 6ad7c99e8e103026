import GatewayPlane.Proofs.Cache.Watching
import GatewayPlane.Proofs.Stream.Turns

/-!
# Sessions that attend to a node

A session that knows its node has a watch of it, in which it finds newer and newer snapshots,
whatever others do to the cache and to their watches.
-/
namespace GatewayPlane

namespace Session
variable {s : Session} {c : Cache} {node : NodeId} {published : List (NodeId × Snapshot)}

/-- A session watches its node, and has seen its current snapshot there. -/
structure Attends (s : Session) (ws : Watches) (node : NodeId)
    (published : List (NodeId × Snapshot)) : Prop where
  identified : s.context.node = some node
  watch : ∃ id w, s.watch = some id ∧ ws.get? id = some w ∧ w.node = node ∧
    w.Follows s.current
  current : ∀ x, s.current = some x → (node, x) ∈ published

theorem identify_attends (s : Session) (hsound : c.watches.Sound published)
    (hheld : ∀ x, c.held? node = some x → (node, x) ∈ published) :
    (s.identify c node).2.snapshots = c.snapshots ∧
      (s.identify c node).2.watches.Sound published ∧
      (s.identify c node).1.Attends (s.identify c node).2.watches node published := by
  obtain ⟨hsound', -, w, hw, hnode⟩ := Cache.watch_sound hsound hheld
  have hcurrent : (s.identify c node).1.current = w.value := by
    change ((c.watch node).2.watches.get? (c.watch node).1).bind (·.value) = w.value
    rw [hw, Option.bind_some]
  refine ⟨Cache.watch_snapshots c node, hsound'.see _, rfl,
    ⟨(c.watch node).1, w.see, rfl, ?_, hnode, ?_⟩, fun x hx => ?_⟩
  · change ((c.watch node).2.watches.see (c.watch node).1).get? (c.watch node).1 = _
    rw [Watches.get?_see, if_pos rfl, hw, Option.map_some]
  · rw [hcurrent]
    exact w.see_follows
  · rw [hcurrent] at hx
    exact hnode ▸ hsound'.value _ w x hw hx

theorem Attends.heed_request {ws : Watches} (h : s.Attends ws node published)
    (r : DiscoveryRequest) : (s.heed (.request r)).2.Attends ws node published := by
  obtain ⟨hnode, hwatch⟩ := heed_node s (.request r)
  have hcurrent : (s.heed (.request r)).2.current = s.current := heed_current s (.request r)
  obtain ⟨id, w, hid, hw⟩ := h.watch
  rw [← hcurrent] at hw
  exact ⟨hnode.trans h.identified, ⟨id, w, hwatch.trans hid, hw⟩,
    fun x hx => h.current x (hcurrent ▸ hx)⟩

/-- A session attends its node while others do something to the watches. -/
theorem Attends.elsewhere {ws ws' : Watches} {published' : List (NodeId × Snapshot)}
    (h : s.Attends ws node published) (hpublished : published ⊆ published')
    (hadvances : ∀ id, s.watch = some id → ws.AdvancesAt id ws') :
    s.Attends ws' node published' := by
  obtain ⟨id, w, hid, hw, hnode, hfollows⟩ := h.watch
  obtain ⟨w', hw', hnode', hfollows'⟩ := hadvances id hid w hw
  exact ⟨h.identified, ⟨id, w', hid, hw', hnode'.trans hnode, hfollows' _ hfollows⟩,
    fun x hx => hpublished (h.current x hx)⟩

/-- A session that looks for news finds none, or learns that there will be none, or heeds a
snapshot of its node that is newer than the current one. -/
theorem Attends.wake (h : s.Attends c.watches node published)
    (hsound : c.watches.Sound published) :
    s.wake c = none ∨
      ∃ c', c'.snapshots = c.snapshots ∧ c'.watches.Sound published ∧
        ((∃ e, s.wake c = some (.error e, c')) ∨
          ∃ x, s.wake c = some (.ok (s.heed (.snapshot x)), c') ∧ (node, x) ∈ published ∧
            (∀ y, s.current = some y → y.version < x.version) ∧
            (s.heed (.snapshot x)).2.Attends c'.watches node published) := by
  obtain ⟨id, w, hid, hw, hnode, hfollows⟩ := h.watch
  have hpolls : c.watches.poll id = (w.poll, c.watches.see id) := by rw [Watches.poll, hw]
  simp only [Session.wake, hid, Option.bind_eq_bind, Option.bind_some, hpolls]
  cases hpoll : w.poll with
  | pending => exact .inl rfl
  | closed =>
    exact .inr ⟨{ c with watches := c.watches.see id }, rfl, hsound.see id, .inl ⟨_, rfl⟩⟩
  | snapshot x =>
    obtain ⟨hvalue, hnewer⟩ := hfollows.poll hpoll
    have hx : (node, x) ∈ published := hnode ▸ hsound.value id w x hw hvalue
    refine .inr ⟨{ c with watches := c.watches.see id }, rfl, hsound.see id,
      .inr ⟨x, rfl, hx, hnewer, h.identified, ⟨id, w.see, hid, ?_, hnode, .seen rfl hvalue⟩, ?_⟩⟩
    · dsimp only
      rw [Watches.get?_see, if_pos rfl, hw, Option.map_some]
    · rintro _ ⟨⟩
      exact hx

end Session

end GatewayPlane
