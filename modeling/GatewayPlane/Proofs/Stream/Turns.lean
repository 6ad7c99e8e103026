import GatewayPlane.Proofs.Stream.Pushing
import GatewayPlane.Stream.Session

/-!
# The turns of a stream

What a session that knows its node is told, one request or newer snapshot after the other,
and all that can come of one such event: for each kind at most one response, and what
becomes of the subscription to it.
-/
namespace GatewayPlane

namespace Session

/-- What a session that knows its node is told. -/
inductive Event where
  | request (r : DiscoveryRequest)
  /-- There is a newer snapshot. -/
  | snapshot (x : Snapshot)

def Event.snapshot? : Event → Option Snapshot
  | request _ => none
  | snapshot x => some x

/-- What a session sends when it is told something, and the session after it: once it knows
its node, a request is received as here (`receive_of_watch`), and a snapshot pushed. -/
def heed (s : Session) : Event → List DiscoveryResponse × Session
  | .request r => if s.isForeign r then ([], s) else ((s.answer r).1.toList, (s.answer r).2)
  | .snapshot x => s.push x

/-- What a session sends in the course of events, and the session after them. -/
def exchange (s : Session) : List Event → List DiscoveryResponse × Session
  | [] => ([], s)
  | e :: rest =>
    let (now, s) := s.heed e
    let (later, s) := s.exchange rest
    (now ++ later, s)

/-- A session that has just been told its node. -/
def begun (number : Nat) (c : Cache) (node : NodeId) : Session :=
  ((numbered number).identify c node).1

theorem get?_begun (number : Nat) (c : Cache) (node : NodeId) (k : Kind) :
    (begun number c node).subscriptions.get? k = none := by
  cases k <;> rfl

/-- A session takes a request for a kind, after which a response may be due. -/
structure Takes (s : Session) (k : Kind) (r : DiscoveryRequest) (sub : Subscription)
    (due : Bool) : Prop where
  own : s.isForeign r = false
  kind : Kind.ofTypeUrl? r.typeUrl = some k
  taken : Subscription.take? (s.subscriptions.get? k) r = some (sub, due)

/-- All that one event can mean for a kind: what is sent of it, and the subscription to it
after that. -/
inductive Turn (s : Session) (k : Kind) :
    Event → List DiscoveryResponse → Option Subscription → Prop
  | aside {r} (refused : ¬∃ sub due, s.Takes k r sub due) :
      Turn s k (.request r) [] (s.subscriptions.get? k)
  | noted {r sub due} (takes : s.Takes k r sub due)
      (idle : ∀ x, s.current = some x → due = false ∧ sub.sent = some x.version) :
      Turn s k (.request r) [] (some sub)
  | answered {r sub due x nonce} (takes : s.Takes k r sub due) (current : s.current = some x)
      (due : due = true ∨ sub.sent ≠ some x.version) (nonempty : nonce ≠ "") :
      Turn s k (.request r) [sub.response k x nonce] (some (sub.answered x nonce))
  | pushed {x sent after} (pushed : Subscriptions.Pushed k x (s.subscriptions.get? k) sent after) :
      Turn s k (.snapshot x) sent after

variable {s : Session} {k : Kind} {r : DiscoveryRequest}

/-- A request that is taken for no kind is as if it had not come. -/
theorem answer_of_aside (h : ¬∃ k sub due, s.Takes k r sub due) (hown : s.isForeign r = false) :
    (s.answer r).1 = none ∧ (s.answer r).2.subscriptions = s.subscriptions := by
  have hreceive : s.subscriptions.receive? r s.current = none := by
    unfold Subscriptions.receive?
    cases hkind : Kind.ofTypeUrl? r.typeUrl with
    | none => rfl
    | some k =>
      cases htake : Subscription.take? (s.subscriptions.get? k) r with
      | none => simp [htake]
      | some p => exact absurd ⟨k, p.1, p.2, hown, hkind, htake⟩ h
  rw [answer, hreceive]
  exact ⟨rfl, rfl⟩

/-- A request that is taken is noted, and answered from the current snapshot if that is due
or of another version. -/
theorem answer_of_takes {sub : Subscription} {due : Bool} (h : s.Takes k r sub due) :
    ((∀ x, s.current = some x → due = false ∧ sub.sent = some x.version) ∧
      (s.answer r).1 = none ∧ (s.answer r).2.subscriptions = s.subscriptions.put k sub) ∨
    ∃ x nonce, s.current = some x ∧ (due = true ∨ sub.sent ≠ some x.version) ∧ nonce ≠ "" ∧
      (s.answer r).1 = some (sub.response k x nonce) ∧
      ∀ j, (s.answer r).2.subscriptions.get? j =
        if k = j then some (sub.answered x nonce) else s.subscriptions.get? j := by
  cases hcurrent : s.current with
  | none =>
    have hreceive : s.subscriptions.receive? r s.current =
        some (none, s.subscriptions.put k sub) := by
      simp [Subscriptions.receive?, h.kind, h.taken, hcurrent]
    rw [answer, hreceive]
    exact .inl ⟨nofun, rfl, rfl⟩
  | some x =>
    have hreceive : s.subscriptions.receive? r s.current =
        some ((s.subscriptions.put k sub).refresh k x due) := by
      simp [Subscriptions.receive?, h.kind, h.taken, hcurrent]
    have hself : (s.subscriptions.put k sub).get? k = some sub := by
      rw [Subscriptions.get?_put, if_pos rfl]
    rw [answer, hreceive]
    by_cases hdue : due = true ∨ sub.sent ≠ some x.version
    · obtain ⟨nonce, ss', hnonce, hrefresh, hget⟩ := Subscriptions.refresh_of_due hself hdue
      rw [hrefresh]
      refine .inr ⟨x, nonce, rfl, hdue, hnonce, rfl, fun j => (hget j).trans ?_⟩
      by_cases hkj : k = j
      · rw [if_pos hkj, if_pos hkj]
      · rw [if_neg hkj, if_neg hkj, Subscriptions.get?_put, if_neg hkj]
    · obtain ⟨rfl, hsent⟩ : due = false ∧ sub.sent = some x.version := by simpa using hdue
      rw [Subscriptions.refresh_of_sent hself hsent]
      refine .inl ⟨?_, rfl, rfl⟩
      rintro y ⟨⟩
      exact ⟨rfl, hsent⟩

theorem request_turn (s : Session) (k : Kind) (r : DiscoveryRequest)
    (hown : s.isForeign r = false) :
    Turn s k (.request r) ((s.answer r).1.toList.filter (·.kind = k))
      ((s.answer r).2.subscriptions.get? k) := by
  by_cases htakes : ¬∃ j sub due, s.Takes j r sub due
  · obtain ⟨hnone, hkept⟩ := answer_of_aside htakes hown
    rw [hnone, hkept]
    exact .aside fun ⟨sub, due, h⟩ => htakes ⟨k, sub, due, h⟩
  obtain ⟨j, sub, due, htakes⟩ := Classical.not_not.1 htakes
  -- nothing happens to the kinds that the request is not for
  have hother (hne : j ≠ k) : ¬∃ sub due, s.Takes k r sub due := by
    rintro ⟨sub', due', h⟩
    exact hne (Option.some.inj (htakes.kind.symm.trans h.kind))
  rcases answer_of_takes htakes with ⟨hidle, hnone, hsubs⟩ |
    ⟨x, nonce, hcurrent, hdue, hnonce, hresponse, hget⟩
  · rw [hnone, hsubs, Subscriptions.get?_put]
    by_cases hjk : j = k
    · subst hjk
      rw [if_pos rfl]
      exact .noted htakes hidle
    · rw [if_neg hjk]
      exact .aside (hother hjk)
  · rw [hresponse, hget]
    by_cases hjk : j = k
    · subst hjk
      rw [if_pos rfl]
      simpa [Subscription.response] using Turn.answered htakes hcurrent hdue hnonce
    · rw [if_neg hjk]
      simpa [Subscription.response, hjk] using Turn.aside (hother hjk)

theorem heed_turn (s : Session) (k : Kind) (e : Event) :
    Turn s k e ((s.heed e).1.filter (·.kind = k)) ((s.heed e).2.subscriptions.get? k) := by
  cases e with
  | request r =>
    rw [heed]
    by_cases hforeign : s.isForeign r = true
    · rw [if_pos hforeign]
      refine .aside ?_
      rintro ⟨sub, due, h⟩
      rw [h.own] at hforeign
      cases hforeign
    · rw [if_neg hforeign]
      exact request_turn s k r (eq_false_of_ne_true hforeign)
  | snapshot x => exact .pushed (s.subscriptions.push_pushed x k)

/-- What is sent is what the subscription then wants of the snapshot that is then current. -/
theorem Turn.source {e : Event} {sent : List DiscoveryResponse} {after : Option Subscription}
    (h : Turn s k e sent after) : ∀ response ∈ sent, ∃ x sub,
      e.snapshot?.or s.current = some x ∧ after = some sub ∧
      response = sub.response k x response.nonce := by
  cases h with
  | aside | noted => exact nofun
  | answered _ hcurrent =>
    intro response hresponse
    rw [List.mem_singleton.1 hresponse]
    exact ⟨_, _, hcurrent, rfl, rfl⟩
  | pushed hpushed =>
    generalize s.subscriptions.get? k = before at hpushed
    cases hpushed with
    | passed => exact nofun
    | served =>
      intro response hresponse
      rw [List.mem_singleton.1 hresponse]
      exact ⟨_, _, rfl, rfl, rfl⟩

/-- Requests are answered from the snapshot that is current, until there is another. -/
theorem heed_current (s : Session) (e : Event) :
    (s.heed e).2.current = (e.snapshot?).or s.current := by
  cases e with
  | request r =>
    rw [heed]
    split
    · rfl
    · unfold answer
      cases s.subscriptions.receive? r s.current <;> rfl
  | snapshot x => rfl

theorem heed_source (s : Session) (e : Event) : ∀ response ∈ (s.heed e).1, ∃ x sub,
    (s.heed e).2.current = some x ∧
      (s.heed e).2.subscriptions.get? response.kind = some sub ∧
      response = sub.response response.kind x response.nonce := by
  intro response hresponse
  rw [heed_current]
  exact (heed_turn s response.kind e).source response
    (List.mem_filter.2 ⟨hresponse, decide_eq_true rfl⟩)

/-- A session stays with its node and the watch of it. -/
theorem heed_node (s : Session) (e : Event) :
    (s.heed e).2.context.node = s.context.node ∧ (s.heed e).2.watch = s.watch := by
  cases e with
  | request r =>
    rw [heed]
    split
    · exact ⟨rfl, rfl⟩
    · unfold answer
      cases s.subscriptions.receive? r s.current <;> exact ⟨rfl, rfl⟩
  | snapshot x => exact ⟨rfl, rfl⟩

/-! The requests that a session receives are those that it heeds, from the first one on that
names a node. -/

theorem receive_of_unnamed (c : Cache) (hwatch : s.watch = none) (hr : r.node = "") :
    s.receive c r = (.error .unnamed, c) := by
  simp [receive, hwatch, hr]

theorem receive_first (c : Cache) (hwatch : s.watch = none) (hr : r.node ≠ "") :
    ∃ response, response.toList = ((s.identify c r.node).1.heed (.request r)).1 ∧
      s.receive c r = (.ok (response, ((s.identify c r.node).1.heed (.request r)).2),
        (s.identify c r.node).2) := by
  have hown : (s.identify c r.node).1.isForeign r = false := by
    simp [isForeign, identify, StreamContext.identify, StreamContext.advance]
  refine ⟨((s.identify c r.node).1.answer r).1, ?_, ?_⟩
  · rw [heed, hown]
    rfl
  · rw [heed, hown, receive, hwatch]
    simp [hr]

theorem receive_of_watch {id : Nat} (c : Cache) (hwatch : s.watch = some id)
    (r : DiscoveryRequest) : ∃ response, response.toList = (s.heed (.request r)).1 ∧
      s.receive c r = (.ok (response, (s.heed (.request r)).2), c) := by
  rw [heed, receive, hwatch]
  by_cases hforeign : s.isForeign r = true
  · exact ⟨none, by simp [hforeign]⟩
  · exact ⟨(s.answer r).1, by simp [hforeign]⟩

/-- What one event keeps, a whole exchange keeps. -/
theorem exchange_keeps {P : List Event → List DiscoveryResponse → Session → Prop}
    (hstep : ∀ events log s e, P events log s →
      P (events ++ [e]) (log ++ (s.heed e).1) (s.heed e).2)
    (h : P [] [] s) (events : List Event) :
    P events (s.exchange events).1 (s.exchange events).2 := by
  -- the events heeded so far, and what was sent in the course of them
  have hrest (rest : List Event) : ∀ done log s, P done log s →
      P (done ++ rest) (log ++ (s.exchange rest).1) (s.exchange rest).2 := by
    induction rest with
    | nil =>
      intro done log s h
      simpa [exchange] using h
    | cons e rest ih =>
      intro done log s h
      simpa [exchange] using ih _ _ _ (hstep done log s e h)
  simpa using hrest events [] [] s h

theorem exchange_append (s : Session) (events later : List Event) :
    s.exchange (events ++ later) =
      ((s.exchange events).1 ++ ((s.exchange events).2.exchange later).1,
        ((s.exchange events).2.exchange later).2) := by
  induction events generalizing s with
  | nil => rfl
  | cons e rest ih => simp only [List.cons_append, exchange, ih, List.append_assoc]

/-- The current snapshot is the last one that the session was told of. -/
theorem exchange_current (s : Session) (events : List Event) :
    (s.exchange events).2.current =
      (s.current.toList ++ events.filterMap Event.snapshot?).getLast? := by
  refine exchange_keeps (P := fun events _ s' => s'.current =
    (s.current.toList ++ events.filterMap Event.snapshot?).getLast?)
    (fun events _ s' e h => ?_) ?_ events
  · rw [heed_current, h, List.filterMap_append, ← List.append_assoc]
    cases e <;> simp [Event.snapshot?]
  · cases s.current <;> rfl

end Session

end GatewayPlane
