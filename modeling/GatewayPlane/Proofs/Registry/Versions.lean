import GatewayPlane.Proofs.Registry.Representation

/-!
# The versions of a run

Versions are handed out one after the other: the last one that is recorded for a node tells
how many were published for it, whatever became of the node in between. As long as there is
a next number the cache accepts it.
-/
namespace GatewayPlane

/-- Versions count up to the last number that there is. -/
theorem Version.toNat_next (v : Version) :
    v.next.number.toNat = min (v.number.toNat + 1) (UInt64.size - 1) := by
  have hv := v.number.toNat_lt
  unfold next UInt64.size
  by_cases h : v.number.toNat + 1 < 18446744073709551616
  · rw [if_pos h, UInt64.toNat_add]
    simp only [UInt64.reduceToNat]
    omega
  · rw [if_neg h]
    change v.number.toNat = _
    omega

theorem Version.ext_toNat {v w : Version} (h : v.number.toNat = w.number.toNat) : v = w := by
  obtain ⟨n⟩ := v
  obtain ⟨m⟩ := w
  have hnumber : n = m := UInt64.toNat_inj.1 h
  rw [hnumber]

namespace Publications

/-- The number of the last version recorded for a node, zero before the first. -/
def lastNumber (p : Publications) (node : NodeId) : Nat :=
  ((p.versions.get? node).map (·.number.toNat)).getD 0

theorem Gains.lastNumber {p p' : Publications} {node : NodeId} {s : Snapshot}
    (h : p.Gains node s p') : p'.lastNumber node = s.version.number.toNat := by
  rw [Publications.lastNumber, h.versions, NameMap.get?_insert_self, Option.map_some,
    Option.getD_some]

theorem highest_self (v : Version) : highest (some v) (some v) = some v := by
  simp [highest]

end Publications

namespace Registry
variable {r : Registry} {node : NodeId}

namespace Represents

/-- The version that is held, if any, is the last one recorded. -/
theorem held?_version (h : r.Represents) {s : Snapshot} (hs : r.cache.held? node = some s) :
    r.published.versions.get? node = some s.version := by
  have hnode := h node
  rw [hs] at hnode
  generalize r.nodes.get? node = known, r.published.versions.get? node = last at hnode
  cases hnode
  rfl

/-- The next version only depends on the last one recorded. -/
theorem toNat_nextVersion (h : r.Represents) (node : NodeId) :
    (r.published.nextVersion node).1.number.toNat =
      min (r.published.lastNumber node + 1) (UInt64.size - 1) := by
  have hlast : Publications.highest (r.published.versions.get? node)
      ((r.published.cache.held? node).map (·.version)) = r.published.versions.get? node := by
    cases hheld : r.cache.held? node with
    | none =>
      rw [show r.published.cache.held? node = none from hheld]
      cases r.published.versions.get? node <;> rfl
    | some s =>
      rw [show r.published.cache.held? node = some s from hheld, h.held?_version hheld]
      exact Publications.highest_self s.version
  rw [Publications.nextVersion_fst, hlast, Publications.lastNumber]
  cases r.published.versions.get? node with
  | none => rfl
  | some v => exact v.toNat_next

/-- The cache accepts the next version as long as there is one. -/
theorem accepts_nextVersion (h : r.Represents)
    (hroom : r.published.lastNumber node < UInt64.size - 1) (b : Bundle) :
    Cache.accepts (r.cache.held? node) (.ofBundle (r.published.nextVersion node).1 b) = true := by
  cases hheld : r.cache.held? node with
  | none => rfl
  | some s =>
    have hnext := h.toNat_nextVersion node
    simp only [Publications.lastNumber, h.held?_version hheld, Option.map_some,
      Option.getD_some] at hnext hroom
    simp only [Cache.accepts, decide_eq_true_eq, Version.lt_iff]
    change s.version.number.toNat < (r.published.nextVersion node).1.number.toNat
    omega

end Represents

/-- Whether a command publishes a snapshot of a node: the cache has then set one more. -/
def Command.publishes (c : Command) (r : Registry) (node : NodeId) : Bool :=
  c.node == node && decide (r.cache.stats.set < (c.perform r).2.cache.stats.set)

/-- The versions that a run publishes for a node, each as the cache holds it then. -/
def publishedVersions (node : NodeId) : Registry → List Command → List Version
  | _, [] => []
  | r, c :: rest =>
    let r' := (c.perform r).2
    if c.publishes r node then
      ((r'.cache.held? node).map (·.version)).toList ++ publishedVersions node r' rest
    else publishedVersions node r' rest

/-- As many versions were published for a node as the last one recorded says, and all are
below the next. -/
structure Recorded (earlier : List Version) (r : Registry) (node : NodeId) : Prop where
  last : r.published.lastNumber node = earlier.length
  bounded : ∀ v ∈ earlier, v.number.toNat ≤ earlier.length

theorem Recorded.empty (node : NodeId) : Recorded [] {} node := ⟨rfl, nofun⟩

/-- A command that publishes for a node replies with the version that the cache then holds. -/
theorem Represents.gains_of_publishes {c : Command} (hr : r.Represents)
    (hc : c.publishes r node = true) :
    ∃ b, (c.perform r).1 = .ok (some (r.published.nextVersion node).1) ∧
      r.published.Gains node (.ofBundle (r.published.nextVersion node).1 b)
        (c.perform r).2.published := by
  rw [Command.publishes, Bool.and_eq_true, beq_iff_eq, decide_eq_true_eq] at hc
  obtain ⟨rfl, hcount⟩ := hc
  have houtcome := perform_outcome hr.noneBare c
  generalize c.perform r = x at houtcome hcount
  cases houtcome with
  | failed _ hagrees | idle _ _ hagrees =>
    exact absurd hagrees.published.count (Nat.ne_of_gt hcount)
  | dropped _ _ _ hloses => exact absurd hloses.count (Nat.ne_of_gt hcount)
  | published _ _ _ _ hgains => exact ⟨_, rfl, hgains⟩

/-- As long as there is room, the next version is above all earlier ones. -/
theorem Recorded.lt_nextVersion {earlier : List Version} (h : Recorded earlier r node)
    (hr : r.Represents) (hroom : earlier.length < UInt64.size - 1) :
    ∀ w ∈ earlier, w < (r.published.nextVersion node).1 := by
  intro w hw
  have hle := h.bounded w hw
  rw [Version.lt_iff, hr.toNat_nextVersion, h.last]
  omega

theorem Recorded.publish {earlier : List Version} {s : Snapshot} {p : Publications} {r' : Registry}
    (h : Recorded earlier r node) (hr : r.Represents) (hroom : earlier.length < UInt64.size - 1)
    (hs : s.version = (r.published.nextVersion node).1) (hgains : p.Gains node s r'.published) :
    Recorded (earlier ++ [s.version]) r' node := by
  have hnext := hr.toNat_nextVersion node
  rw [← hs, h.last] at hnext
  constructor
  · rw [hgains.lastNumber, List.length_append, List.length_singleton]
    omega
  · intro w hw
    rw [List.length_append, List.length_singleton]
    rcases List.mem_append.1 hw with hw | hw
    · exact Nat.le_succ_of_le (h.bounded w hw)
    · rw [List.mem_singleton.1 hw]
      omega

/-- A command that does not publish for a node uses up none of its versions. -/
theorem Represents.lastNumber_perform {c : Command} (hr : r.Represents)
    (hc : c.publishes r node = false) :
    (c.perform r).2.published.lastNumber node = r.published.lastNumber node := by
  have houtcome := perform_outcome hr.noneBare c
  by_cases hnode : c.node = node
  · subst hnode
    simp only [Command.publishes, beq_self_eq_true, Bool.true_and, decide_eq_false_iff_not] at hc
    generalize c.perform r = x at houtcome hc
    unfold Publications.lastNumber
    cases houtcome with
    | failed _ hagrees | idle _ _ hagrees => rw [hagrees.published.versions]
    | dropped _ _ _ hloses => rw [hloses.versions]
    | published _ _ _ _ hgains =>
      have hcount := hgains.count
      exact absurd (hcount ▸ Nat.lt_succ_self _) hc
  · rw [Publications.lastNumber, (houtcome.elsewhere hnode).2.2, Publications.lastNumber]

theorem Represents.nextVersion_perform {c : Command} (hr : r.Represents)
    (hc : c.publishes r node = false) :
    ((c.perform r).2.published.nextVersion node).1 = (r.published.nextVersion node).1 := by
  apply Version.ext_toNat
  rw [(hr.perform c).toNat_nextVersion, hr.toNat_nextVersion, hr.lastNumber_perform hc]

/-- Listening where the node listens already publishes nothing. -/
theorem Represents.publishes_listen_again {port : UInt16} (hr : r.Represents)
    (hsame : (r.entry node).listenerPort = some port) :
    (Command.listen node port).publishes r node = false ∧
      ∃ s, r.cache.held? node = some s ∧
        ((Command.listen node port).perform r).1 = .ok (some s.version) := by
  obtain ⟨hport, hbase⟩ : port ≠ 0 ∧ (r.entry node).base = sharedBase port := by
    rcases (hr.entry_sound node).base with ⟨-, hnone⟩ | ⟨p, hp, hbase, hsome⟩
    · simp [hsame] at hnone
    · rw [hsame] at hsome
      cases hsome
      exact ⟨hp, hbase⟩
  rcases hr.held?_cases node with ⟨hbare, -⟩ | ⟨-, b, v, -, hheld⟩
  · rw [NodeEntry.isBare, hbase] at hbare
    cases hbare
  · obtain ⟨r', hperform, hagrees⟩ := listen_again hport hsame hheld
    have hcount := hagrees.published.count
    refine ⟨?_, _, hheld, by rw [hperform]⟩
    simp [Command.publishes, hperform, cache, hcount]

/-- A command that fails publishes nothing. -/
theorem Command.publishes_of_error {c : Command} {f : Fault} (hr : r.Represents)
    (h : (c.perform r).1 = .error f) : c.publishes r node = false := by
  have houtcome := perform_outcome hr.noneBare c
  unfold publishes
  generalize c.perform r = x at houtcome h
  cases houtcome with
  | failed _ hagrees =>
    have hcount := hagrees.published.count
    simp [cache, hcount]
  | idle | published | dropped => cases h

/-- As long as there is room, no command fails for the sake of the cache. -/
theorem Represents.not_fromCache_of_error {c : Command} {f : Fault} (hr : r.Represents)
    (hroom : r.published.lastNumber c.node < UInt64.size - 1) (h : (c.perform r).1 = .error f) :
    ¬f.FromCache := by
  have houtcome := perform_outcome hr.noneBare c
  generalize c.perform r = x at houtcome h
  cases houtcome with
  | failed hrefused =>
    cases h
    intro hcache
    obtain ⟨b, hb⟩ := hrefused hcache
    exact hb (hr.accepts_nextVersion hroom b)
  | idle | published | dropped => cases h

/-- What is recorded at the end of a run that does not publish too much. -/
theorem Recorded.run {earlier : List Version} (h : Recorded earlier r node) (hr : r.Represents)
    (commands : List Command)
    (hfew : earlier.length + (publishedVersions node r commands).length ≤ UInt64.size - 1) :
    Recorded (earlier ++ publishedVersions node r commands) (r.run commands) node := by
  -- the versions published so far move from the run to `earlier`, one command at a time
  induction commands generalizing r earlier with
  | nil =>
    rw [publishedVersions, List.append_nil]
    exact h
  | cons c rest ih =>
    rw [publishedVersions] at hfew ⊢
    by_cases hc : c.publishes r node = true
    · rw [if_pos hc] at hfew ⊢
      obtain ⟨b, -, hgains⟩ := hr.gains_of_publishes hc
      have hheld := hgains.held?.trans (if_pos rfl)
      rw [cache, hheld, Option.map_some, Option.toList_some] at hfew ⊢
      rw [List.length_append, ← Nat.add_assoc, List.length_singleton] at hfew
      rw [← List.append_assoc]
      refine ih (h.publish hr (by omega) rfl hgains) (hr.perform c) ?_
      rwa [List.length_append]
    · rw [if_neg hc] at hfew ⊢
      have hlast := hr.lastNumber_perform (eq_false_of_ne_true hc)
      exact ih ⟨hlast.trans h.last, h.bounded⟩ (hr.perform c) hfew

/-- However often nodes fail, are emptied, removed and set up again: as long as versions are
left, whatever is published for a node has a version above all that were published for it
before, only what is published uses up a version, and the cache refuses none. -/
theorem run_versions (node : NodeId) (commands : List Command) (c : Command)
    (hfew : (publishedVersions node {} commands).length < UInt64.size - 1) :
    let r := run {} commands
    let r' := (c.perform r).2
    (c.publishes r node = true → ∃ s, (c.perform r).1 = .ok (some s.version) ∧
      r'.cache.held? node = some s ∧ ∀ w ∈ publishedVersions node {} commands, w < s.version) ∧
    (c.publishes r node = false →
      (r'.published.nextVersion node).1 = (r.published.nextVersion node).1) ∧
    (∀ f, (c.perform r).1 = .error f →
      c.publishes r node = false ∧ (c.node = node → ¬f.FromCache)) ∧
    (∀ port, c = .listen node port → (r.entry node).listenerPort = some port →
      c.publishes r node = false ∧
        ∃ s, r.cache.held? node = some s ∧ (c.perform r).1 = .ok (some s.version)) ∧
    ∀ b, (r.cache.set node (.ofBundle (r.published.nextVersion node).1 b)).1 =
      .ok (.ofBundle (r.published.nextVersion node).1 b) := by
  have hr := run_represents commands
  have hrecorded : Recorded (publishedVersions node {} commands) (run {} commands) node := by
    refine Recorded.run (.empty node) .empty commands ?_
    simpa using Nat.le_of_lt hfew
  have hroom := hrecorded.last ▸ hfew
  refine ⟨fun hc => ?_, hr.nextVersion_perform, fun f hf => ⟨?_, ?_⟩, ?_, fun b => ?_⟩
  · obtain ⟨b, hreply, hgains⟩ := hr.gains_of_publishes hc
    exact ⟨_, hreply, hgains.held?.trans (if_pos rfl), hrecorded.lt_nextVersion hr hfew⟩
  · exact Command.publishes_of_error hr hf
  · rintro rfl
    exact hr.not_fromCache_of_error hroom hf
  · rintro port rfl hsame
    exact hr.publishes_listen_again hsame
  · rw [Cache.set_of_accepts (hr.accepts_nextVersion hroom b)]

theorem run_versions_pets :
    let commands : List Command := [.listen "edge" 8080, .deploy "edge" petsContribution,
      .listen "edge" 0, .remove "edge", .listen "edge" 8080]
    let r := run {} commands
    publishedVersions "edge" {} commands = [⟨1⟩, ⟨2⟩, ⟨3⟩] ∧
    ∃ s, ((Command.deploy "edge" petsContribution).perform r).1 = .ok (some s.version) ∧
      ((Command.deploy "edge" petsContribution).perform r).2.cache.held? "edge" = some s ∧
      ∀ w ∈ publishedVersions "edge" {} commands, w < s.version := by
  refine ⟨by decide +kernel, ?_⟩
  refine (run_versions "edge" [.listen "edge" 8080, .deploy "edge" petsContribution,
    .listen "edge" 0, .remove "edge", .listen "edge" 8080] (.deploy "edge" petsContribution) ?_).1 ?_
  all_goals decide +kernel

end Registry

end GatewayPlane
