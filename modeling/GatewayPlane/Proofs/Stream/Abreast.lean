import GatewayPlane.Proofs.Stream.Turns

/-!
# Streams that keep up

Whatever a stream is told, in whichever order: of each kind that its client has subscribed
to, what was sent last is of the version of the current snapshot. A snapshot of another
version is sent to all of them, each kind after those that it refers to.
-/
namespace GatewayPlane

/-- The last response of a kind that was sent. -/
def lastOf (k : Kind) (log : List DiscoveryResponse) : Option DiscoveryResponse :=
  (log.filter (·.kind = k)).getLast?

theorem lastOf_append (k : Kind) (log later : List DiscoveryResponse) :
    lastOf k (log ++ later) = ((later.filter (·.kind = k)).getLast?).or (lastOf k log) := by
  rw [lastOf, List.filter_append, List.getLast?_append, lastOf]

theorem eq_nil_of_lastOf {log : List DiscoveryResponse} (h : ∀ k, lastOf k log = none) :
    log = [] := by
  rw [List.eq_nil_iff_forall_not_mem]
  intro response hmem
  have hnone := List.getLast?_eq_none_iff.1 (h response.kind)
  simpa using List.filter_eq_nil_iff.1 hnone response hmem

namespace Session
variable {s : Session} {k : Kind} {e : Event}

/-- A request by which a client of a node subscribes to a kind. -/
structure Subscribes (node : NodeId) (k : Kind) (r : DiscoveryRequest) : Prop where
  node : r.node = "" ∨ r.node = node
  kind : Kind.ofTypeUrl? r.typeUrl = some k
  fresh : r.nonce = ""

theorem isForeign_eq_false {r : DiscoveryRequest} {node : NodeId}
    (hnode : s.context.node = some node) :
    s.isForeign r = false ↔ r.node = "" ∨ r.node = node := by
  rw [isForeign, hnode, Bool.and_eq_false_iff]
  refine or_congr (by simp) ?_
  rw [bne_eq_false_iff_eq, Option.some.injEq]
  exact eq_comm

/-- A turn subscribes to a kind when it is a request for that. -/
theorem Turn.subscribed {sent : List DiscoveryResponse} {after : Option Subscription}
    {node : NodeId} (h : Turn s k e sent after) (hnode : s.context.node = some node) :
    after.isSome = true ↔ (s.subscriptions.get? k).isSome = true ∨
      ∃ r, e = .request r ∧ Subscribes node k r := by
  have htaken {r sub due} (htakes : s.Takes k r sub due) :
      (s.subscriptions.get? k).isSome = true ∨ Subscribes node k r := by
    rcases Subscription.take?_cases htakes.taken with ⟨hfresh, -, -⟩ | ⟨b, hb, -⟩
    · exact .inr ⟨(isForeign_eq_false hnode).1 htakes.own, htakes.kind, hfresh⟩
    · exact .inl (by rw [hb]; rfl)
  cases h with
  | @aside r hrefused =>
    refine ⟨.inl, fun h => h.resolve_right ?_⟩
    rintro ⟨r', hr, hsubscribes⟩
    cases hr
    have hsome : (Subscription.take? (s.subscriptions.get? k) r).isSome = true :=
      Subscription.take?_isSome_iff.2 (.inl hsubscribes.fresh)
    obtain ⟨⟨sub, due⟩, htake⟩ := Option.isSome_iff_exists.1 hsome
    exact hrefused ⟨sub, due, (isForeign_eq_false hnode).2 hsubscribes.node, hsubscribes.kind,
      htake⟩
  | noted htakes | answered htakes =>
    refine iff_of_true rfl ?_
    exact (htaken htakes).imp id fun h => ⟨_, rfl, h⟩
  | pushed hpushed =>
    generalize s.subscriptions.get? k = before at hpushed
    cases hpushed <;> simp

/-- A subscription knows of the last response that it was sent. -/
theorem Turn.last {sent : List DiscoveryResponse} {after : Option Subscription}
    (h : Turn s k e sent after) :
    (sent.getLast?.map (·.version)).or ((s.subscriptions.get? k).bind (·.sent)) =
        after.bind (·.sent) ∧
      (sent.getLast?.map (·.nonce)).or ((s.subscriptions.get? k).bind (·.lastNonce)) =
        after.bind (·.lastNonce) := by
  cases h with
  | aside => exact ⟨rfl, rfl⟩
  | noted htakes =>
    obtain ⟨hsent, hnonce⟩ := Subscription.take?_sent htakes.taken
    exact ⟨hsent.symm, hnonce.symm⟩
  | answered => exact ⟨rfl, rfl⟩
  | pushed hpushed =>
    generalize s.subscriptions.get? k = before at hpushed
    cases hpushed <;> exact ⟨rfl, rfl⟩

/-- A subscription that was sent the current snapshot is sent the one that is current next. -/
theorem Turn.upToDate {sent : List DiscoveryResponse} {after : Option Subscription}
    (h : Turn s k e sent after)
    (hs : ∀ sub, s.subscriptions.get? k = some sub → sub.sent = s.current.map (·.version)) :
    ∀ sub, after = some sub → sub.sent = (e.snapshot?.or s.current).map (·.version) := by
  cases h with
  | aside => exact hs
  | @noted r sub due htakes hidle =>
    rintro _ ⟨⟩
    change sub.sent = s.current.map (·.version)
    cases hcurrent : s.current with
    | none =>
      rw [(Subscription.take?_sent htakes.taken).1, Option.map_none, Option.bind_eq_none_iff]
      intro b hb
      rw [hs b hb, hcurrent, Option.map_none]
    | some x => exact (hidle x hcurrent).2
  | answered _ hcurrent =>
    rintro _ ⟨⟩
    simp [Event.snapshot?, hcurrent, Subscription.answered]
  | pushed hpushed => exact hpushed.after_sent

theorem Turn.nonce_ne_empty {sent : List DiscoveryResponse} {after : Option Subscription}
    (h : Turn s k e sent after) : ∀ response ∈ sent, response.nonce ≠ "" := by
  cases h with
  | aside | noted => exact nofun
  | answered _ _ _ hnonce =>
    intro response hresponse
    rwa [List.mem_singleton.1 hresponse]
  | pushed hpushed =>
    generalize s.subscriptions.get? k = before at hpushed
    cases hpushed with
    | passed => exact nofun
    | served _ hnonce =>
      intro response hresponse
      rwa [List.mem_singleton.1 hresponse]

/-- How the events that a session was told, what it has sent, and what it knows belong
together. -/
structure Abreast (node : NodeId) (events : List Event) (log : List DiscoveryResponse)
    (s : Session) : Prop where
  identified : s.context.node = some node
  subscribed : ∀ k, (s.subscriptions.get? k).isSome = true ↔
    ∃ r, .request r ∈ events ∧ Subscribes node k r
  current : ∀ k sub, s.subscriptions.get? k = some sub → sub.sent = s.current.map (·.version)
  last : ∀ k, (lastOf k log).map (·.version) = (s.subscriptions.get? k).bind (·.sent)
  lastNonce : ∀ k, (lastOf k log).map (·.nonce) = (s.subscriptions.get? k).bind (·.lastNonce)
  nonce : ∀ response ∈ log, response.nonce ≠ ""

theorem Abreast.begun (number : Nat) (c : Cache) (node : NodeId) :
    Abreast node [] [] (begun number c node) := by
  refine ⟨rfl, fun k => ?_, fun k sub h => ?_, fun k => ?_, fun k => ?_, nofun⟩
  · simp [get?_begun]
  · rw [get?_begun] at h
    cases h
  · rw [get?_begun]
    rfl
  · rw [get?_begun]
    rfl

section
variable {node : NodeId} {events : List Event} {log : List DiscoveryResponse}

theorem Abreast.heed (h : Abreast node events log s) (e : Event) :
    Abreast node (events ++ [e]) (log ++ (s.heed e).1) (s.heed e).2 := by
  have hturn (k : Kind) := heed_turn s k e
  refine ⟨(heed_node s e).1.trans h.identified, fun k => ?_, fun k => ?_, fun k => ?_,
    fun k => ?_, fun response hresponse => ?_⟩
  · rw [(hturn k).subscribed h.identified, h.subscribed]
    constructor
    · rintro (⟨r, hr, hsubscribes⟩ | ⟨r, rfl, hsubscribes⟩)
      · exact ⟨r, List.mem_append_left _ hr, hsubscribes⟩
      · exact ⟨r, List.mem_append_right _ (List.mem_singleton_self _), hsubscribes⟩
    · rintro ⟨r, hr, hsubscribes⟩
      rcases List.mem_append.1 hr with hr | hr
      · exact .inl ⟨r, hr, hsubscribes⟩
      · exact .inr ⟨r, (List.mem_singleton.1 hr).symm, hsubscribes⟩
  · rw [heed_current]
    exact (hturn k).upToDate (h.current k)
  · rw [lastOf_append, Option.map_or, h.last, (hturn k).last.1]
  · rw [lastOf_append, Option.map_or, h.lastNonce, (hturn k).last.2]
  · rcases List.mem_append.1 hresponse with hbefore | hnow
    · exact h.nonce response hbefore
    · exact (hturn response.kind).nonce_ne_empty response
        (List.mem_filter.2 ⟨hnow, decide_eq_true rfl⟩)

theorem abreast_of_exchange {number : Nat} {c : Cache}
    (h : (begun number c node).exchange events = (log, s)) :
    Abreast node events log s := by
  have hinv := exchange_keeps (P := Abreast node) (fun _ _ _ e h => h.heed e)
    (.begun number c node) events
  rwa [h] at hinv

theorem Abreast.last_version (h : Abreast node events log s) (hk : k ∈ s.subscriptions.kinds) :
    (lastOf k log).map (·.version) = s.current.map (·.version) := by
  obtain ⟨sub, hsub⟩ := Option.isSome_iff_exists.1 (s.subscriptions.mem_kinds.1 hk)
  rw [h.last, hsub, Option.bind_some, h.current k sub hsub]

theorem Abreast.log_eq_nil (h : Abreast node events log s) (hnone : s.current = none) :
    log = [] := by
  refine eq_nil_of_lastOf fun k => ?_
  rw [← Option.map_eq_none_iff (f := (·.version)), h.last, Option.bind_eq_none_iff]
  intro sub hsub
  rw [h.current k sub hsub, hnone, Option.map_none]

/-- Every subscription awaits a snapshot of another version than the current one. -/
theorem Abreast.push_kinds (h : Abreast node events log s) {x : Snapshot}
    (hother : s.current.map (·.version) ≠ some x.version) :
    (s.push x).1.map (·.kind) = Kind.pushOrder.filter (· ∈ s.subscriptions.kinds) := by
  refine (s.subscriptions.push_kinds x).trans (List.filter_congr fun k _ => ?_)
  rw [Bool.eq_iff_iff, decide_eq_true_eq, s.subscriptions.mem_kinds, Subscriptions.awaits,
    Option.any_eq_true, Option.isSome_iff_exists]
  refine exists_congr fun sub => and_iff_left_of_imp fun hsub => ?_
  rw [h.current k sub hsub]
  exact bne_iff_ne.2 hother

end

/-- Between any two events of a stream, what was sent last of each kind that is subscribed to
is of the version of the current snapshot; without one, nothing was sent at all. A snapshot of
another version is sent to every subscription, in the order of the kinds, and only once. -/
theorem exchange_upToDate {number : Nat} {c : Cache} {node : NodeId} {events : List Event}
    {log : List DiscoveryResponse} (h : (begun number c node).exchange events = (log, s)) :
    (∀ k, k ∈ s.subscriptions.kinds ↔ ∃ r, .request r ∈ events ∧ Subscribes node k r) ∧
      (∀ x, s.current = some x → ∀ k ∈ s.subscriptions.kinds,
        (lastOf k log).map (·.version) = some x.version) ∧
      (s.current = none → log = []) ∧
      (∀ x, s.current.map (·.version) ≠ some x.version →
        (s.push x).1.map (·.kind) =
            [.cluster, .endpoint, .route, .listener].filter (· ∈ s.subscriptions.kinds) ∧
          ∀ response ∈ (s.push x).1, response.version = x.version) ∧
      ∀ x, ((s.push x).2.push x).1 = [] := by
  have hinv := abreast_of_exchange h
  refine ⟨fun k => ?_, fun x hcurrent k hk => ?_, hinv.log_eq_nil, fun x hother => ?_,
    s.subscriptions.push_push⟩
  · exact s.subscriptions.mem_kinds.trans (hinv.subscribed k)
  · rw [hinv.last_version hk, hcurrent, Option.map_some]
  · exact ⟨hinv.push_kinds hother, fun _ => s.subscriptions.push_version x⟩

/-- Listeners are subscribed to before there is a snapshot, and clusters after it; the listeners
are rejected. -/
def lateSubscriptions : List Event :=
  [.request { typeUrl := TypeUrl.listener }, .snapshot (.blank ⟨1⟩),
    .request { typeUrl := TypeUrl.cluster, names := ["*"] },
    .request { typeUrl := TypeUrl.listener, nonce := "7-0", error := some "no such socket" }]

theorem exchange_upToDate_lateSubscriptions :
    let (log, s) := (begun 7 {} "edge").exchange lateSubscriptions
    s.subscriptions.kinds = [.cluster, .listener] ∧
      (lastOf .listener log).map (·.version) = some ⟨1⟩ ∧
      (s.push (.blank ⟨2⟩)).1.map (·.kind) = [.cluster, .listener] ∧
      ((s.push (.blank ⟨2⟩)).2.push (.blank ⟨2⟩)).1 = [] := by
  have hstate : ((begun 7 {} "edge").exchange lateSubscriptions).2.subscriptions.kinds =
        [.cluster, .listener] ∧
      ((begun 7 {} "edge").exchange lateSubscriptions).2.current.map (·.version) = some ⟨1⟩ := by
    decide +kernel
  rcases h : (begun 7 {} "edge").exchange lateSubscriptions with ⟨log, s⟩
  rw [h] at hstate
  obtain ⟨hkinds, hcurrent⟩ := hstate
  obtain ⟨x, hx, hversion⟩ := Option.map_eq_some_iff.1 hcurrent
  obtain ⟨-, hlast, -, hpush, hagain⟩ := exchange_upToDate h
  refine ⟨hkinds, ?_, ?_, hagain _⟩
  · rw [hlast x hx .listener (by rw [hkinds]; decide), hversion]
  · rw [(hpush (.blank ⟨2⟩) (by rw [hcurrent]; decide)).1, hkinds]
    decide

end Session

end GatewayPlane
