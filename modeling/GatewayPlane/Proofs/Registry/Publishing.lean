import GatewayPlane.Proofs.Cache.Holding
import GatewayPlane.Proofs.Registry.Composing
import GatewayPlane.Registry.Basic

/-!
# Publishing a node's resources

All that publishing can do: the resources do not fit together, or the cache refuses the
version, or the snapshot is held, its version recorded, and the watches are told. Only
counters change in the first two cases.
-/
namespace GatewayPlane
open Checks

/-- Whether a fault comes from a cache. -/
def Fault.FromCache : Fault → Prop
  | cache .. => True
  | _ => False

/-- Resources that do not fit together are no fault of the cache. -/
theorem not_fromCache_of_composeChecked {node : NodeId} {base : Bundle}
    {contributions : List Contribution} {f : Fault}
    (h : composeChecked node base contributions = .error f) : ¬f.FromCache := by
  have hcheck (b : Bundle) (hb : b.check node = .error f) : ¬f.FromCache := by
    unfold Bundle.check at hb
    cases hconflict : b.checkConflicts with
    | ok u =>
      rw [hconflict] at hb
      cases hb
    | error conflict =>
      rw [hconflict] at hb
      cases hb
      cases conflict <;> exact not_false
  unfold composeChecked at h
  cases hcompose : compose base contributions with
  | error o =>
    rw [hcompose] at h
    cases h
    exact not_false
  | ok b =>
    rw [hcompose] at h
    change (b.check node >>= fun _ => pure b) = .error f at h
    cases hb : b.check node with
    | ok u =>
      rw [hb] at h
      cases h
    | error g =>
      rw [hb] at h
      cases h
      exact hcheck b hb

namespace Publications
variable {p p' : Publications} {node : NodeId} {base : Bundle}
  {contributions : List Contribution}

/-- The same snapshots are held, the same versions recorded, as many were set, and the
watches are as they were. -/
structure Agrees (p p' : Publications) : Prop where
  snapshots : p'.cache.snapshots = p.cache.snapshots
  versions : p'.versions = p.versions
  count : p'.cache.stats.set = p.cache.stats.set
  watches : p'.cache.watches = p.cache.watches

/-- One more snapshot was set, its version recorded, and the watches of the node told. -/
structure Gains (p : Publications) (node : NodeId) (s : Snapshot) (p' : Publications) : Prop where
  snapshots : p'.cache.snapshots = p.cache.snapshots.insert node s
  versions : p'.versions = p.versions.insert node s.version
  count : p'.cache.stats.set = p.cache.stats.set + 1
  watches : p'.cache.watches = (p.cache.watches.notify node s).2

/-- The snapshot of a node is no longer held; its watches may have been closed. -/
structure Loses (p : Publications) (node : NodeId) (p' : Publications) : Prop where
  snapshots : p'.cache.snapshots = p.cache.snapshots.erase node
  versions : p'.versions = p.versions
  count : p'.cache.stats.set = p.cache.stats.set
  watches : p'.cache.watches = p.cache.watches ∨
    p'.cache.watches = p.cache.watches.close node

theorem Agrees.refl (p : Publications) : p.Agrees p := ⟨rfl, rfl, rfl, rfl⟩

theorem Agrees.trans {p'' : Publications} (h : p.Agrees p') (h' : p'.Agrees p'') :
    p.Agrees p'' where
  snapshots := h'.snapshots.trans h.snapshots
  versions := h'.versions.trans h.versions
  count := h'.count.trans h.count
  watches := h'.watches.trans h.watches

theorem Agrees.held? (h : p.Agrees p') (node : NodeId) :
    p'.cache.held? node = p.cache.held? node := by
  rw [Cache.held?, h.snapshots, Cache.held?]

theorem Gains.held? {s : Snapshot} {other : NodeId} (h : p.Gains node s p') :
    p'.cache.held? other = if node = other then some s else p.cache.held? other := by
  rw [Cache.held?, h.snapshots, NameMap.get?_insert, Cache.held?]

theorem Loses.held? {other : NodeId} (h : p.Loses node p') :
    p'.cache.held? other = if node = other then none else p.cache.held? other := by
  rw [Cache.held?, h.snapshots, NameMap.get?_erase, Cache.held?]

theorem nextVersion_fst (p : Publications) (node : NodeId) :
    (p.nextVersion node).1 =
      ((highest (p.versions.get? node) ((p.cache.held? node).map (·.version))).map
        Version.next).getD .initial := by
  simp [nextVersion]

theorem Agrees.nextVersion (h : p.Agrees p') (node : NodeId) :
    (p'.nextVersion node).1 = (p.nextVersion node).1 := by
  rw [nextVersion_fst, nextVersion_fst, h.versions, h.held?]

theorem nextVersion_snd (p : Publications) (node : NodeId) : p.Agrees (p.nextVersion node).2 := by
  constructor <;> simp [Publications.nextVersion]

/-- What publishing the resources of a node comes to. -/
inductive Attempt (p : Publications) (node : NodeId) (base : Bundle)
    (contributions : List Contribution) : Except Fault Version × Publications → Prop
  | unfit {f p'} (unfit : composeChecked node base contributions = .error f)
      (agrees : p.Agrees p') : Attempt p node base contributions (.error f, p')
  | refused {f b p'} (fit : composeChecked node base contributions = .ok b)
      (refused : ¬Cache.accepts (p.cache.held? node) (.ofBundle (p.nextVersion node).1 b))
      (agrees : p.Agrees p') : Attempt p node base contributions (.error f, p')
  | done {b p'} (fit : composeChecked node base contributions = .ok b)
      (gains : p.Gains node (.ofBundle (p.nextVersion node).1 b) p') :
      Attempt p node base contributions (.ok (p.nextVersion node).1, p')

/-- It comes to the same whichever counters there were before. -/
theorem Attempt.of_agrees {x : Except Fault Version × Publications}
    (h : Attempt p' node base contributions x) (hagrees : p.Agrees p') :
    Attempt p node base contributions x := by
  cases h with
  | unfit hunfit hkept => exact .unfit hunfit (hagrees.trans hkept)
  | refused hfit hrefused hkept =>
    rw [hagrees.held?, hagrees.nextVersion] at hrefused
    exact .refused hfit hrefused (hagrees.trans hkept)
  | done hfit hgains =>
    rw [hagrees.nextVersion] at hgains ⊢
    refine .done hfit ⟨?_, ?_, ?_, ?_⟩
    · rw [hgains.snapshots, hagrees.snapshots]
    · rw [hgains.versions, hagrees.versions]
    · rw [hgains.count, hagrees.count]
    · rw [hgains.watches, hagrees.watches]

theorem publish_attempt (p : Publications) (node : NodeId) (base : Bundle)
    (contributions : List Contribution) :
    Attempt p node base contributions (p.publish node base contributions) := by
  unfold publish
  cases hfit : composeChecked node base contributions with
  | error f => exact .unfit hfit ⟨rfl, rfl, rfl, rfl⟩
  | ok b =>
    have hagrees := nextVersion_snd p node
    dsimp only
    by_cases haccepts :
        Cache.accepts (p.cache.held? node) (.ofBundle (p.nextVersion node).1 b) = true
    · rw [Cache.set_of_accepts (by rwa [hagrees.held?])]
      refine .done hfit ⟨?_, ?_, ?_, ?_⟩
      · rw [Cache.announce_store_snapshots, hagrees.snapshots]
      · rw [← hagrees.versions]
        rfl
      · rw [Cache.announce_store_stats_set, hagrees.count]
      · rw [Cache.announce_store_watches, hagrees.watches]
    · rw [← hagrees.held?] at haccepts
      obtain ⟨f, hset⟩ := Cache.set_of_not_accepts haccepts
      rw [hset]
      rw [hagrees.held?] at haccepts
      exact .refused hfit haccepts
        ⟨hagrees.snapshots, hagrees.versions, hagrees.count, hagrees.watches⟩

/-- Only what the cache accepts is published. -/
theorem accepts_of_publish {v : Version} (h : (p.publish node base contributions).1 = .ok v) :
    ∃ b, composeChecked node base contributions = .ok b ∧
      Cache.accepts (p.cache.held? node) (.ofBundle (p.nextVersion node).1 b) = true := by
  unfold publish at h
  cases hfit : composeChecked node base contributions with
  | error f =>
    rw [hfit] at h
    cases h
  | ok b =>
    refine ⟨b, rfl, Decidable.by_contra fun hrefused => ?_⟩
    rw [hfit] at h
    dsimp only at h
    rw [← (nextVersion_snd p node).held?] at hrefused
    obtain ⟨f, hset⟩ := Cache.set_of_not_accepts hrefused
    rw [hset] at h
    cases h

end Publications

end GatewayPlane
