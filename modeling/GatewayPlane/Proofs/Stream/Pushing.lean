import GatewayPlane.Stream.Subscriptions

/-!
# What subscriptions are sent

What a request makes of the subscription to a kind, and what each kind is sent of a
snapshot: nothing when it is not subscribed to or was sent this version last, and else one
response, in the order in which kinds are pushed.
-/
namespace GatewayPlane

theorem Nonces.text_ne_empty (stream number : Nat) : text stream number ≠ "" := by
  intro h
  have hchars := congrArg String.toList h
  simp [text] at hchars

namespace Subscription
variable {before : Option Subscription} {s sub : Subscription} {r : DiscoveryRequest} {due : Bool}

/-- What a subscription is sent of a snapshot. -/
def response (s : Subscription) (k : Kind) (x : Snapshot) (nonce : String) : DiscoveryResponse :=
  ⟨k, x.version, nonce, x.select k s.wanted⟩

/-- A subscription that was sent a snapshot. -/
def answered (s : Subscription) (x : Snapshot) (nonce : String) : Subscription :=
  { s with lastNonce := some nonce, sent := some x.version }

/-- A request is a fresh subscription, or answers the last response. -/
theorem take?_cases (h : take? before r = some (sub, due)) :
    (r.nonce = "" ∧ due = true ∧ sub = { before.getD {} with names := r.names }) ∨
      ∃ s, before = some s ∧ r.nonce ≠ "" ∧ s.lastNonce = some r.nonce ∧
        due = (s.judge r).2 ∧ sub = { (s.judge r).1 with names := r.names } := by
  unfold take? at h
  split at h
  · next hfresh =>
    cases h
    exact .inl ⟨hfresh, rfl, rfl⟩
  · next hnonce =>
    cases before with
    | none => cases h
    | some s =>
      dsimp only at h
      split at h
      · next hlast =>
        cases h
        exact .inr ⟨s, rfl, hnonce, hlast, rfl, rfl⟩
      · cases h

/-- What is taken is a fresh subscription, or an answer to the last response. -/
theorem take?_isSome_iff : (take? before r).isSome = true ↔
    r.nonce = "" ∨ ∃ s, before = some s ∧ s.lastNonce = some r.nonce := by
  unfold take?
  by_cases hfresh : r.nonce = ""
  · simp [hfresh]
  · cases before with
    | none => simp [hfresh]
    | some s => by_cases hlast : s.lastNonce = some r.nonce <;> simp [hfresh, hlast]

theorem exists_take?_iff : (∃ sub due, take? before r = some (sub, due)) ↔
    r.nonce = "" ∨ before.bind (·.lastNonce) = some r.nonce := by
  rw [Option.bind_eq_some_iff, ← take?_isSome_iff, Option.isSome_iff_exists, Prod.exists]

/-- A rejection is noted, and nothing is due to it. -/
theorem take?_of_error (h : take? before r = some (sub, due)) (hnonce : r.nonce ≠ "")
    (herror : r.error ≠ none) : due = false ∧ sub.rejected = sub.sent := by
  obtain ⟨hfresh, -⟩ | ⟨s, rfl, -, -, rfl, rfl⟩ := take?_cases h
  · exact absurd hfresh hnonce
  · unfold judge
    cases hcase : r.error with
    | none => exact absurd hcase herror
    | some message => exact ⟨rfl, rfl⟩

/-- Whatever a request says, it does not change what was sent. -/
theorem take?_sent (h : take? before r = some (sub, due)) :
    sub.sent = before.bind (·.sent) ∧ sub.lastNonce = before.bind (·.lastNonce) := by
  obtain ⟨-, -, rfl⟩ | ⟨s, rfl, -, -, -, rfl⟩ := take?_cases h
  · cases before <;> exact ⟨rfl, rfl⟩
  · unfold judge
    cases r.error <;> exact ⟨rfl, rfl⟩

/-- A response is due to a fresh subscription, and to one that is accepted with other names. -/
theorem take?_due_iff (h : take? before r = some (sub, due)) :
    due = true ↔ r.nonce = "" ∨ r.error = none ∧
      ∃ s, before = some s ∧ s.lastNonce = some r.nonce ∧ s.names ≠ r.names := by
  obtain ⟨hfresh, rfl, -⟩ | ⟨s, rfl, hnonce, hlast, rfl, -⟩ := take?_cases h
  · exact iff_of_true rfl (.inl hfresh)
  · unfold judge
    cases r.error <;> simp [hnonce, hlast]

end Subscription

namespace Subscriptions
variable {ss : Subscriptions} {j k : Kind} {s : Subscription} {x : Snapshot} {due : Bool}

theorem get?_put (ss : Subscriptions) (j k : Kind) (s : Subscription) :
    (ss.put k s).get? j = if k = j then some s else ss.get? j := by
  by_cases h : k = j
  · rw [if_pos h, ← h]
    exact PerKind.get_set ss.ofKind k (some s)
  · rw [if_neg h]
    exact PerKind.get_set_of_ne ss.ofKind (some s) (Ne.symm h)

theorem refresh_of_none (h : ss.get? k = none) : ss.refresh k x due = (none, ss) := by
  rw [refresh, h]

theorem refresh_of_sent (h : ss.get? k = some s) (hsent : s.sent = some x.version) :
    ss.refresh k x false = (none, ss) := by
  simp [refresh, h, hsent]

/-- A subscription is sent what it wants when that is due or of another version. -/
theorem refresh_of_due (h : ss.get? k = some s) (hdue : due = true ∨ s.sent ≠ some x.version) :
    ∃ nonce ss', nonce ≠ "" ∧ ss.refresh k x due = (some (s.response k x nonce), ss') ∧
      ∀ j, ss'.get? j = if k = j then some (s.answered x nonce) else ss.get? j := by
  have hcond : (due || s.sent != some x.version) = true := by simpa using hdue
  refine ⟨ss.nonces.next.1, (ss.respond k s x).2, Nonces.text_ne_empty _ _, ?_, fun j => ?_⟩
  · rw [refresh, h]
    dsimp only
    rw [if_pos hcond]
    rfl
  · exact get?_put { ss with nonces := ss.nonces.next.2 } j k _

/-- What becomes of the subscription to a kind, and what is sent to it, when there is a
snapshot. -/
inductive Pushed (k : Kind) (x : Snapshot) :
    Option Subscription → List DiscoveryResponse → Option Subscription → Prop
  | passed {before} (sent : ∀ s, before = some s → s.sent = some x.version) :
      Pushed k x before [] before
  | served {s nonce} (unsent : s.sent ≠ some x.version) (nonempty : nonce ≠ "") :
      Pushed k x (some s) [s.response k x nonce] (some (s.answered x nonce))

theorem Pushed.response_version {before after : Option Subscription}
    {sent : List DiscoveryResponse} (h : Pushed k x before sent after) :
    ∀ response ∈ sent, response.version = x.version := by
  cases h with
  | passed => exact nofun
  | served =>
    intro response hresponse
    rw [List.mem_singleton.1 hresponse]
    rfl

theorem Pushed.length_le_one {before after : Option Subscription}
    {sent : List DiscoveryResponse} (h : Pushed k x before sent after) : sent.length ≤ 1 := by
  cases h with
  | passed => exact Nat.zero_le 1
  | served => exact Nat.le_refl 1

theorem Pushed.after_sent {before after : Option Subscription} {sent : List DiscoveryResponse}
    (h : Pushed k x before sent after) : ∀ s, after = some s → s.sent = some x.version := by
  cases h with
  | passed hsent => exact hsent
  | served =>
    rintro _ ⟨⟩
    rfl

/-- Refreshing a kind only touches that kind. -/
theorem refresh_pushed (ss : Subscriptions) (k : Kind) (x : Snapshot) :
    Pushed k x (ss.get? k) (ss.refresh k x false).1.toList ((ss.refresh k x false).2.get? k) ∧
      (∀ response ∈ (ss.refresh k x false).1, response.kind = k) ∧
      ∀ j, j ≠ k → (ss.refresh k x false).2.get? j = ss.get? j := by
  cases h : ss.get? k with
  | none =>
    rw [refresh_of_none h, h]
    exact ⟨.passed nofun, nofun, fun j _ => rfl⟩
  | some s =>
    by_cases hsent : s.sent = some x.version
    · rw [refresh_of_sent h hsent, h]
      refine ⟨.passed ?_, nofun, fun j _ => rfl⟩
      rintro s' ⟨⟩
      exact hsent
    · have hdue : false = true ∨ s.sent ≠ some x.version := .inr hsent
      obtain ⟨nonce, ss', hnonce, hrefresh, hget⟩ := refresh_of_due h hdue
      rw [hrefresh]
      refine ⟨?_, ?_, fun j hj => ?_⟩
      · rw [hget, if_pos rfl]
        exact .served hsent hnonce
      · rintro response ⟨⟩
        rfl
      · rw [hget, if_neg (Ne.symm hj)]

theorem pushKinds_of_notMem {l : List Kind} (h : k ∉ l) (ss : Subscriptions) (x : Snapshot) :
    (pushKinds x l ss).1.filter (·.kind = k) = [] ∧
      (pushKinds x l ss).2.get? k = ss.get? k := by
  induction l generalizing ss with
  | nil => exact ⟨rfl, rfl⟩
  | cons j rest ih =>
    rw [List.mem_cons, not_or] at h
    obtain ⟨-, hkind, hget⟩ := refresh_pushed ss j x
    obtain ⟨hrest, hgetrest⟩ := ih h.2 (ss.refresh j x false).2
    refine ⟨?_, hgetrest.trans (hget k h.1)⟩
    rw [pushKinds, List.filter_append, hrest, List.append_nil, List.filter_eq_nil_iff]
    intro response hresponse
    simpa [hkind response (Option.mem_toList.1 hresponse)] using Ne.symm h.1

theorem pushKinds_pushed {l : List Kind} (hl : l.Nodup) (h : k ∈ l) (ss : Subscriptions)
    (x : Snapshot) :
    Pushed k x (ss.get? k) ((pushKinds x l ss).1.filter (·.kind = k))
      ((pushKinds x l ss).2.get? k) := by
  induction l generalizing ss with
  | nil => cases h
  | cons j rest ih =>
    rw [List.nodup_cons] at hl
    obtain ⟨hpushed, hkind, hget⟩ := refresh_pushed ss j x
    rw [pushKinds, List.filter_append]
    rcases List.mem_cons.1 h with rfl | hmem
    · obtain ⟨hrest, hgetrest⟩ := pushKinds_of_notMem hl.1 (ss.refresh k x false).2 x
      have hfirst : (ss.refresh k x false).1.toList.filter (·.kind = k) =
          (ss.refresh k x false).1.toList := by
        rw [List.filter_eq_self]
        exact fun response hr => decide_eq_true (hkind response (Option.mem_toList.1 hr))
      rw [hrest, hgetrest, hfirst, List.append_nil]
      exact hpushed
    · have hne : k ≠ j := fun heq => hl.1 (heq ▸ hmem)
      have hfirst : (ss.refresh j x false).1.toList.filter (·.kind = k) = [] := by
        rw [List.filter_eq_nil_iff]
        intro response hr
        simpa [hkind response (Option.mem_toList.1 hr)] using Ne.symm hne
      rw [hfirst, List.nil_append, ← hget k hne]
      exact ih hl.2 hmem (ss.refresh j x false).2

theorem push_pushed (ss : Subscriptions) (x : Snapshot) (k : Kind) :
    Pushed k x (ss.get? k) ((ss.push x).1.filter (·.kind = k)) ((ss.push x).2.get? k) :=
  pushKinds_pushed (by decide) k.mem_pushOrder ss x

/-- Whether a kind is subscribed to and was not sent the version of a snapshot last. -/
def awaits (ss : Subscriptions) (x : Snapshot) (k : Kind) : Bool :=
  (ss.get? k).any fun s => s.sent != some x.version

/-- The responses to a snapshot come in the order of the kinds, one for each that awaits it. -/
theorem map_kind_pushKinds {l : List Kind} (hl : l.Nodup) (ss : Subscriptions) (x : Snapshot) :
    (pushKinds x l ss).1.map (·.kind) = l.filter (ss.awaits x) := by
  induction l generalizing ss with
  | nil => rfl
  | cons k rest ih =>
    rw [List.nodup_cons] at hl
    obtain ⟨hpushed, hkind, hget⟩ := refresh_pushed ss k x
    have hrest : rest.filter ((ss.refresh k x false).2.awaits x) = rest.filter (ss.awaits x) := by
      refine List.filter_congr fun j hj => ?_
      rw [awaits, hget j fun heq => hl.1 (heq ▸ hj), awaits]
    rw [pushKinds, List.map_append, ih hl.2, hrest, List.filter_cons, awaits]
    generalize (ss.refresh k x false).2.get? k = after,
      (ss.refresh k x false).1.toList = now, ss.get? k = before at hpushed
    cases hpushed with
    | passed hsent =>
      cases after with
      | none => rfl
      | some s => simp [hsent s rfl]
    | served hunsent => simp [hunsent, Subscription.response]

theorem mem_kinds (ss : Subscriptions) : k ∈ ss.kinds ↔ (ss.get? k).isSome = true := by
  rw [kinds, List.mem_filter]
  exact and_iff_right k.mem_pushOrder

theorem push_kinds (ss : Subscriptions) (x : Snapshot) :
    (ss.push x).1.map (·.kind) = Kind.pushOrder.filter (ss.awaits x) :=
  map_kind_pushKinds (by decide) ss x

theorem push_version (ss : Subscriptions) (x : Snapshot) {response : DiscoveryResponse}
    (h : response ∈ (ss.push x).1) : response.version = x.version :=
  (ss.push_pushed x response.kind).response_version response
    (List.mem_filter.2 ⟨h, decide_eq_true rfl⟩)

/-- No kind awaits a snapshot that was pushed. -/
theorem push_push (ss : Subscriptions) (x : Snapshot) : ((ss.push x).2.push x).1 = [] := by
  rw [← List.map_eq_nil_iff, push_kinds, List.filter_eq_nil_iff]
  intro k _
  rw [awaits, Option.any_eq_true]
  rintro ⟨s, hs, hunsent⟩
  rw [(ss.push_pushed x k).after_sent s hs, bne_self_eq_false] at hunsent
  cases hunsent

end Subscriptions

end GatewayPlane
