import GatewayPlane.Proofs.Stream.Turns

/-!
# What a stream serves

The responses of a stream in the order in which they are sent: each has just what its client
wants then of a snapshot that was published for the node, their versions never go back, and
what is pushed of one kind is newer each time.
-/
namespace GatewayPlane

/-- A response, with the occasion on which it is sent. -/
structure Sending where
  response : DiscoveryResponse
  /-- Whether it is sent for a newer snapshot, and not for a request. -/
  pushed : Bool
  /-- The names that its kind is subscribed to for then. -/
  names : List String

/-- A response has the version of a snapshot, and just the resources of it that are wanted. -/
structure Sending.Serves (x : Sending) (s : Snapshot) : Prop where
  version : x.response.version = s.version
  payloads : x.response.payloads =
    s.encoded x.response.kind (if x.names.contains "*" then [] else x.names)

namespace Session

/-- The names that a kind is subscribed to for. -/
def names (s : Session) (k : Kind) : List String :=
  ((s.subscriptions.get? k).map (·.names)).getD []

/-- The responses of a session, with the occasion on which they are sent. -/
def record (s : Session) (pushed : Bool) (responses : List DiscoveryResponse) : List Sending :=
  responses.map fun r => ⟨r, pushed, s.names r.kind⟩

/-- Only what is pushed counts as such. -/
theorem length_filter_record (s : Session) (pushed : Bool) (responses : List DiscoveryResponse)
    (k : Kind) :
    ((s.record pushed responses).filter fun x => x.pushed && x.response.kind = k).length =
      if pushed then (responses.filter (·.kind = k)).length else 0 := by
  rw [record, List.filter_map, List.length_map]
  cases pushed <;> simp [Function.comp_def]

theorem heed_serves (s : Session) (e : Event) (pushed : Bool) :
    ∀ x ∈ (s.heed e).2.record pushed (s.heed e).1,
      x.pushed = pushed ∧ ∃ current, (s.heed e).2.current = some current ∧ x.Serves current := by
  intro x hx
  obtain ⟨response, hresponse, rfl⟩ := List.mem_map.1 hx
  obtain ⟨current, sub, hcurrent, hsub, hsource⟩ := heed_source s e response hresponse
  refine ⟨rfl, current, hcurrent, ?_, ?_⟩
  · rw [hsource]
    rfl
  · dsimp only
    rw [names, hsub, hsource]
    rfl

end Session

/-- A record of what was sent on the stream of a node up to a current snapshot. -/
structure Orderly (published : List (NodeId × Snapshot)) (node : NodeId)
    (current : Option Snapshot) (log : List Sending) : Prop where
  source : ∀ x ∈ log, ∃ s, (node, s) ∈ published ∧ x.Serves s
  bounded : ∀ x ∈ log, ∃ s, current = some s ∧ x.response.version ≤ s.version
  ordered : log.Pairwise fun x y => x.response.version ≤ y.response.version
  pushed : ∀ k, (log.filter fun x => x.pushed && x.response.kind = k).Pairwise
    fun x y => x.response.version < y.response.version

namespace Orderly
variable {published : List (NodeId × Snapshot)} {node : NodeId} {current : Option Snapshot}
  {log : List Sending}

theorem nil (published : List (NodeId × Snapshot)) (node : NodeId) (current : Option Snapshot) :
    Orderly published node current [] := ⟨nofun, nofun, .nil, fun _ => .nil⟩

theorem mono {published' : List (NodeId × Snapshot)} (h : Orderly published node current log)
    (hsub : published ⊆ published') : Orderly published' node current log :=
  ⟨fun x hx => (h.source x hx).imp fun _ hs => ⟨hsub hs.1, hs.2⟩, h.bounded, h.ordered, h.pushed⟩

/-- Responses from one snapshot can follow when nothing newer was sent before; what is pushed
has to be newer, and of different kinds. -/
theorem append {s : Snapshot} {later : List Sending} (h : Orderly published node current log)
    (hs : (node, s) ∈ published) (hlater : ∀ x ∈ later, x.Serves s)
    (hold : ∀ x ∈ log, x.response.version ≤ s.version)
    (hfresh : ∀ x ∈ later, x.pushed = true → ∀ y ∈ log, y.response.version < s.version)
    (hsingle : ∀ k, (later.filter fun x => x.pushed && x.response.kind = k).length ≤ 1) :
    Orderly published node (some s) (log ++ later) := by
  have hversion (x : Sending) (hx : x ∈ later) : x.response.version = s.version :=
    (hlater x hx).version
  refine ⟨fun x hx => ?_, fun x hx => ⟨s, rfl, ?_⟩, ?_, fun k => ?_⟩
  · rcases List.mem_append.1 hx with hx | hx
    · exact h.source x hx
    · exact ⟨s, hs, hlater x hx⟩
  · rcases List.mem_append.1 hx with hx | hx
    · exact hold x hx
    · rw [hversion x hx]
      exact Version.le_refl _
  · refine List.pairwise_append.2 ⟨h.ordered, ?_, fun x hx y hy => ?_⟩
    · refine List.pairwise_of_forall_mem_list fun x hx y hy => ?_
      rw [hversion x hx, hversion y hy]
      exact Version.le_refl _
    · rw [hversion y hy]
      exact hold x hx
  · rw [List.filter_append]
    refine List.pairwise_append.2 ⟨h.pushed k, ?_, fun x hx y hy => ?_⟩
    · have hsingle := hsingle k
      cases hcase : later.filter fun x => x.pushed && x.response.kind = k with
      | nil => exact .nil
      | cons x rest =>
        rw [hcase, List.length_cons] at hsingle
        rw [List.eq_nil_of_length_eq_zero (by omega : rest.length = 0)]
        exact List.pairwise_singleton _ _
    · obtain ⟨hx, -⟩ := List.mem_filter.1 hx
      obtain ⟨hy, hpushed⟩ := List.mem_filter.1 hy
      rw [hversion y hy]
      exact hfresh y hy (Bool.and_eq_true_iff.1 hpushed).1 x hx

/-- A record stays orderly as long as each snapshot is newer than the one before. -/
theorem heed {s : Session} (h : Orderly published node s.current log) (e : Session.Event)
    (hcurrent : ∀ x, s.current = some x → (node, x) ∈ published)
    (hnewer : ∀ x, e = .snapshot x → (node, x) ∈ published ∧
      ∀ y, s.current = some y → y.version < x.version) :
    Orderly published node (s.heed e).2.current
      (log ++ (s.heed e).2.record e.snapshot?.isSome (s.heed e).1) := by
  have hserves := s.heed_serves e e.snapshot?.isSome
  have hnext := Session.heed_current s e
  cases hcase : (s.heed e).2.current with
  | none =>
    -- without a current snapshot nothing was ever sent, and nothing is
    rw [hcase, eq_comm, Option.or_eq_none_iff] at hnext
    have hnil : log ++ (s.heed e).2.record e.snapshot?.isSome (s.heed e).1 = [] := by
      rw [List.eq_nil_iff_forall_not_mem]
      intro x hx
      rcases List.mem_append.1 hx with hx | hx
      · obtain ⟨y, hy, -⟩ := h.bounded x hx
        rw [hnext.2] at hy
        cases hy
      · obtain ⟨-, y, hy, -⟩ := hserves x hx
        rw [hcase] at hy
        cases hy
    rw [hnil]
    exact nil published node none
  | some x =>
    rw [hcase] at hnext hserves
    have hlater : ∀ y ∈ (s.heed e).2.record e.snapshot?.isSome (s.heed e).1,
        y.pushed = e.snapshot?.isSome ∧ y.Serves x := by
      intro y hy
      obtain ⟨hpushed, z, hz, hserves⟩ := hserves y hy
      cases hz
      exact ⟨hpushed, hserves⟩
    cases e with
    | request r =>
      have hx : s.current = some x := hnext.symm
      refine h.append (hcurrent x hx) (fun y hy => (hlater y hy).2) (fun y hy => ?_)
        (fun y hy hpushed => ?_) (fun k => ?_)
      · obtain ⟨z, hz, hle⟩ := h.bounded y hy
        cases hx.symm.trans hz
        exact hle
      · cases (hlater y hy).1.symm.trans hpushed
      · rw [Session.length_filter_record]
        exact Nat.zero_le 1
    | snapshot x' =>
      obtain rfl : x = x' := Option.some.inj hnext
      obtain ⟨hx, hnewer⟩ := hnewer x rfl
      have hlt (y : Sending) (hy : y ∈ log) : y.response.version < x.version := by
        obtain ⟨z, hz, hle⟩ := h.bounded y hy
        exact Version.lt_of_le_of_lt hle (hnewer z hz)
      refine h.append hx (fun y hy => (hlater y hy).2) (fun y hy => Version.le_of_lt (hlt y hy))
        (fun _ _ _ => hlt) (fun k => ?_)
      rw [Session.length_filter_record]
      exact (s.subscriptions.push_pushed x k).length_le_one

end Orderly

end GatewayPlane
