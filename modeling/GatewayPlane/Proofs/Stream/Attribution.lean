import GatewayPlane.Proofs.Stream.Abreast
import GatewayPlane.Proofs.Text.Digits
import Mathlib.Data.List.Induction
import Mathlib.Data.List.Nodup

/-!
# Which response an answer is about

What a client accepts or rejects is the response that has the nonce of its request. Which
version that response had is not looked up, but taken from what was sent last; it is the same
one, since requests with any other nonce are put aside and no nonce is issued twice. This holds
whatever the snapshot is from which each request is answered.
-/
namespace GatewayPlane

/-- The last member of a list that has a property, which may depend on what stands before it. -/
inductive Latest {α : Type} (P : List α → α → Prop) : List α → α → Prop
  | last {l a} (has : P l a) : Latest P (l ++ [a]) a
  | earlier {l a b} (lacks : ¬P l b) (latest : Latest P l a) : Latest P (l ++ [b]) a

section Latest
variable {α : Type} {P : List α → α → Prop} {l : List α} {a b : α}

theorem not_latest_nil : ¬Latest P [] a := by
  generalize hl : ([] : List α) = l
  rintro (_ | _) <;> exact absurd hl.symm (by simp)

theorem latest_append_singleton :
    Latest P (l ++ [b]) a ↔ P l b ∧ a = b ∨ ¬P l b ∧ Latest P l a := by
  constructor
  · generalize hl : l ++ [b] = l'
    rintro (hhas | ⟨hlacks, hlatest⟩) <;> obtain ⟨rfl, heq⟩ := List.append_inj' hl rfl <;>
      cases heq
    · exact .inl ⟨hhas, rfl⟩
    · exact .inr ⟨hlacks, hlatest⟩
  · rintro (⟨hhas, rfl⟩ | ⟨hlacks, hlatest⟩)
    · exact .last hhas
    · exact .earlier hlacks hlatest

theorem latest_append_of (h : P l b) : Latest P (l ++ [b]) a ↔ a = b := by
  rw [latest_append_singleton, and_iff_right h]
  exact or_iff_left fun hlater => hlater.1 h

theorem latest_append_of_not (h : ¬P l b) : Latest P (l ++ [b]) a ↔ Latest P l a := by
  rw [latest_append_singleton, and_iff_right h]
  exact or_iff_right fun hnow => h hnow.1

theorem Latest.exists_has (h : Latest P l a) : ∃ before, P before a := by
  induction h with
  | last hhas => exact ⟨_, hhas⟩
  | earlier _ _ ih => exact ih

end Latest

theorem mem_of_lastOf {k : Kind} {log : List DiscoveryResponse} {response : DiscoveryResponse}
    (h : lastOf k log = some response) : response ∈ log ∧ response.kind = k := by
  simpa using List.mem_filter.1 (List.mem_of_getLast? h)

/-- What the answer to a response says of it. -/
inductive Verdict where
  | accepted
  | rejected
  deriving DecidableEq

/-- What a request says of the response that it answers; nothing when it answers none. -/
def DiscoveryRequest.verdict? (r : DiscoveryRequest) : Option Verdict :=
  if r.nonce = "" then none else some (if r.error = none then .accepted else .rejected)

/-- The version of which a subscription has noted a verdict last. -/
def Subscription.judged (s : Subscription) : Verdict → Option Version
  | .accepted => s.accepted
  | .rejected => s.rejected

/-- A verdict is noted of what was sent last, and the other one stays. -/
theorem Subscription.take?_judged {before : Option Subscription} {sub : Subscription} {due : Bool}
    {r : DiscoveryRequest} (h : take? before r = some (sub, due)) (v : Verdict) :
    sub.judged v =
      if r.verdict? = some v then before.bind (·.sent) else before.bind (·.judged v) := by
  rw [DiscoveryRequest.verdict?]
  obtain ⟨hfresh, -, rfl⟩ | ⟨s, rfl, hnonce, -, -, rfl⟩ := take?_cases h
  · rw [if_pos hfresh]
    cases before <;> cases v <;> rfl
  · rw [if_neg hnonce]
    unfold judge
    cases r.error <;> cases v <;> rfl

namespace Nonces

theorem text_injective {stream a b : Nat} (h : text stream a = text stream b) : a = b := by
  have hdigits : Nat.toDigits 10 a = Nat.toDigits 10 b := by
    simpa using List.append_cancel_left (String.ofList_injective h)
  rw [← Text.digitsValue_toDigits a, hdigits, Text.digitsValue_toDigits]

/-- From some nonces to later ones, after responses that each had the next of them. -/
structure Counts (n : Nonces) (log : List DiscoveryResponse) (n' : Nonces) : Prop where
  issued : log.map (·.nonce) = (List.range' n.issued log.length).map (text n.stream)
  later : n' = { n with issued := n.issued + log.length }

variable {n n' n'' : Nonces} {log log' : List DiscoveryResponse}

theorem Counts.nil (n : Nonces) : n.Counts [] n := ⟨rfl, rfl⟩

theorem Counts.next {response : DiscoveryResponse} (h : response.nonce = n.next.1) :
    n.Counts [response] n.next.2 := by
  refine ⟨?_, rfl⟩
  rw [List.map_singleton, h]
  rfl

theorem Counts.append (h : n.Counts log n') (h' : n'.Counts log' n'') :
    n.Counts (log ++ log') n'' := by
  obtain ⟨hissued, rfl⟩ := h
  obtain ⟨hissued', rfl⟩ := h'
  refine ⟨?_, ?_⟩
  · rw [List.map_append, hissued, hissued', List.length_append, ← List.range'_append_1,
      List.map_append]
  · rw [List.length_append, ← Nat.add_assoc]

theorem Counts.nodup (h : n.Counts log n') : (log.map (·.nonce)).Nodup := by
  rw [h.issued]
  exact List.Nodup.map (fun _ _ => text_injective) List.nodup_range'

/-- A response is known by its nonce. -/
theorem Counts.eq_of_nonce (h : n.Counts log n') {x y : DiscoveryResponse} (hx : x ∈ log)
    (hy : y ∈ log) (heq : x.nonce = y.nonce) : x = y :=
  List.inj_on_of_nodup_map h.nodup hx hy heq

end Nonces

/-- A request says something of the last response of a kind that was sent. -/
structure DiscoveryRequest.Judges (r : DiscoveryRequest) (log : List DiscoveryResponse) (k : Kind)
    (v : Verdict) : Prop where
  kind : Kind.ofTypeUrl? r.typeUrl = some k
  verdict : r.verdict? = some v
  timely : (lastOf k log).map (·.nonce) = some r.nonce

/-- A verdict is noted of what was sent last, as soon as a request says it; nothing else changes
what is noted. -/
theorem Session.Turn.judged {s : Session} {k : Kind} {e : Session.Event}
    {log sent : List DiscoveryResponse} {after : Option Subscription} (h : Turn s k e sent after)
    (hlast : (lastOf k log).map (·.nonce) = (s.subscriptions.get? k).bind (·.lastNonce))
    (v : Verdict) :
    (∃ r, e = .request r ∧ s.isForeign r = false ∧ r.Judges log k v) ∧
        after.bind (·.judged v) = (s.subscriptions.get? k).bind (·.sent) ∨
      (∀ r, e = .request r → s.isForeign r = false → ¬r.Judges log k v) ∧
        after.bind (·.judged v) = (s.subscriptions.get? k).bind (·.judged v) := by
  have htaken {r sub due} (htakes : s.Takes k r sub due) :
      r.Judges log k v ∧ sub.judged v = (s.subscriptions.get? k).bind (·.sent) ∨
        ¬r.Judges log k v ∧ sub.judged v = (s.subscriptions.get? k).bind (·.judged v) := by
    rw [Subscription.take?_judged htakes.taken]
    by_cases hverdict : r.verdict? = some v
    · refine .inl ⟨⟨htakes.kind, hverdict, ?_⟩, if_pos hverdict⟩
      obtain ⟨hfresh, -⟩ | ⟨b, hb, -, hnonce, -⟩ := Subscription.take?_cases htakes.taken
      · rw [DiscoveryRequest.verdict?, if_pos hfresh] at hverdict
        cases hverdict
      · rw [hlast, hb, Option.bind_some, hnonce]
    · exact .inr ⟨fun hjudges => hverdict hjudges.verdict, if_neg hverdict⟩
  cases h with
  | @aside r hrefused =>
    -- a request that says something of the last response would have been taken
    refine .inr ⟨?_, rfl⟩
    rintro _ ⟨⟩ hown hjudges
    obtain ⟨sub, due, htake⟩ :=
      Subscription.exists_take?_iff.2 (.inr (hlast.symm.trans hjudges.timely))
    exact hrefused ⟨sub, due, hown, hjudges.kind, htake⟩
  | @noted r sub due htakes | @answered r sub due x nonce htakes =>
    rcases htaken htakes with ⟨hjudges, hnoted⟩ | ⟨hnot, hkept⟩
    · exact .inl ⟨⟨r, rfl, htakes.own, hjudges⟩, by cases v <;> exact hnoted⟩
    · refine .inr ⟨?_, by cases v <;> exact hkept⟩
      rintro _ ⟨⟩ -
      exact hnot
  | pushed hpushed =>
    refine .inr ⟨nofun, ?_⟩
    generalize s.subscriptions.get? k = before at hpushed
    cases hpushed with
    | passed => rfl
    | served => cases v <;> rfl

namespace Subscriptions

/-- What subscriptions are told: a request, with the snapshot from which it is answered, or
that there is another snapshot. -/
inductive Event where
  | request (r : DiscoveryRequest) (current : Option Snapshot)
  | snapshot (x : Snapshot)

/-- What is sent when subscriptions are told something, and the subscriptions after it. -/
def heed (ss : Subscriptions) : Event → List DiscoveryResponse × Subscriptions
  | .request r current =>
    match ss.receive? r current with
    | none => ([], ss)
    | some (response, ss) => (response.toList, ss)
  | .snapshot x => ss.push x

/-- What is sent in the course of events, and the subscriptions after them. -/
def exchange (ss : Subscriptions) (events : List Event) :
    List DiscoveryResponse × Subscriptions :=
  events.foldl (fun (log, ss) e => (log ++ (ss.heed e).1, (ss.heed e).2)) ([], ss)

/-- The subscriptions of a new stream. -/
def numbered (number : Nat) : Subscriptions := { nonces := { stream := number } }

variable {ss : Subscriptions} {number : Nat} {k : Kind} {v : Verdict} {r : DiscoveryRequest}
  {current : Option Snapshot} {events : List Event} {log : List DiscoveryResponse}

theorem exchange_append_singleton (ss : Subscriptions) (events : List Event) (e : Event) :
    ss.exchange (events ++ [e]) =
      ((ss.exchange events).1 ++ ((ss.exchange events).2.heed e).1,
        ((ss.exchange events).2.heed e).2) := by
  rw [exchange, List.foldl_append]
  rfl

/-! ## Nonces -/

theorem refresh_counts (ss : Subscriptions) (k : Kind) (x : Snapshot) (due : Bool) :
    ss.nonces.Counts (ss.refresh k x due).1.toList (ss.refresh k x due).2.nonces := by
  unfold refresh
  cases ss.get? k with
  | none => exact .nil _
  | some s =>
    dsimp only
    split
    · exact .next rfl
    · exact .nil _

theorem pushKinds_counts (ss : Subscriptions) (x : Snapshot) (kinds : List Kind) :
    ss.nonces.Counts (pushKinds x kinds ss).1 (pushKinds x kinds ss).2.nonces := by
  induction kinds generalizing ss with
  | nil => exact .nil _
  | cons k rest ih => exact (ss.refresh_counts k x false).append (ih _)

theorem receive?_counts {response : Option DiscoveryResponse} {ss' : Subscriptions}
    (h : ss.receive? r current = some (response, ss')) :
    ss.nonces.Counts response.toList ss'.nonces := by
  unfold receive? at h
  simp only [Option.bind_eq_bind, Option.bind_eq_some_iff] at h
  obtain ⟨k, -, ⟨s, due⟩, -, h⟩ := h
  cases current with
  | none =>
    cases h
    exact .nil _
  | some x =>
    have hrefresh := (ss.put k s).refresh_counts k x due
    rwa [Option.some.inj h] at hrefresh

theorem heed_counts (ss : Subscriptions) (e : Event) :
    ss.nonces.Counts (ss.heed e).1 (ss.heed e).2.nonces := by
  cases e with
  | snapshot x => exact ss.pushKinds_counts x Kind.pushOrder
  | request r current =>
    rw [heed]
    cases h : ss.receive? r current with
    | none => exact .nil _
    | some p => exact receive?_counts h

/-! ## Turns -/

/-- An event, as it is told to a session. -/
def Event.told : Event → Session.Event
  | request r _ => .request r
  | snapshot x => .snapshot x

/-- A session that has these subscriptions, and to which an event is told. -/
def session (ss : Subscriptions) : Event → Session
  | .request r current =>
    { context := { node := some r.node }, subscriptions := ss, current := current }
  | .snapshot _ => { subscriptions := ss }

theorem session_subscriptions (ss : Subscriptions) (e : Event) :
    (ss.session e).subscriptions = ss := by
  cases e <;> rfl

theorem session_isForeign (ss : Subscriptions) (r : DiscoveryRequest) (current : Option Snapshot) :
    (ss.session (.request r current)).isForeign r = false := by
  simp [Session.isForeign, session]

theorem heed_turn (ss : Subscriptions) (e : Event) (k : Kind) :
    (ss.session e).Turn k e.told ((ss.heed e).1.filter (·.kind = k)) ((ss.heed e).2.get? k) := by
  cases e with
  | snapshot x => exact .pushed (ss.push_pushed x k)
  | request r current =>
    have hturn := Session.request_turn _ k r (ss.session_isForeign r current)
    have hanswer : ((ss.session (.request r current)).answer r).1.toList =
          (ss.heed (.request r current)).1 ∧
        ((ss.session (.request r current)).answer r).2.subscriptions =
          (ss.heed (.request r current)).2 := by
      rw [Session.answer, heed]
      cases h : ss.receive? r current with
      | none => simp [session, h]
      | some p => simp [session, h]
    rwa [hanswer.1, hanswer.2] at hturn

/-- A subscription knows of the last response that it was sent. -/
theorem heed_last (ss : Subscriptions) (e : Event) (k : Kind) :
    (((ss.heed e).1.filter (·.kind = k)).getLast?.map (·.version)).or
        ((ss.get? k).bind (·.sent)) = ((ss.heed e).2.get? k).bind (·.sent) ∧
      (((ss.heed e).1.filter (·.kind = k)).getLast?.map (·.nonce)).or
        ((ss.get? k).bind (·.lastNonce)) = ((ss.heed e).2.get? k).bind (·.lastNonce) := by
  have hlast := (ss.heed_turn e k).last
  rwa [session_subscriptions] at hlast

/-! ## Attribution -/

/-- An event is a request that says something of the last response of a kind. -/
def Judgement (number : Nat) (k : Kind) (v : Verdict) (before : List Event) : Event → Prop
  | .request r _ => r.Judges ((numbered number).exchange before).1 k v
  | .snapshot _ => False

/-- How what was told, what was sent and what is noted belong together. -/
structure Attributes (number : Nat) (events : List Event) (log : List DiscoveryResponse)
    (ss : Subscriptions) : Prop where
  counts : (numbered number).nonces.Counts log ss.nonces
  sent : ∀ k, (lastOf k log).map (·.version) = (ss.get? k).bind (·.sent)
  lastNonce : ∀ k, (lastOf k log).map (·.nonce) = (ss.get? k).bind (·.lastNonce)
  judged : ∀ k v r current, Latest (Judgement number k v) events (.request r current) →
    ∃ response ∈ log, response.kind = k ∧ response.nonce = r.nonce ∧
      (ss.get? k).bind (·.judged v) = some response.version
  unjudged : ∀ k v, (∀ e, ¬Latest (Judgement number k v) events e) →
    (ss.get? k).bind (·.judged v) = none

namespace Attributes

theorem empty (number : Nat) : Attributes number [] [] (numbered number) where
  counts := .nil _
  sent k := by cases k <;> rfl
  lastNonce k := by cases k <;> rfl
  judged _ _ _ _ h := absurd h not_latest_nil
  unjudged k v _ := by cases k <;> rfl

/-- A request that answers another response than the last is as if it had not come. -/
theorem heed_stale (h : Attributes number events log ss) (hnonce : r.nonce ≠ "")
    (hstale : ∀ k, Kind.ofTypeUrl? r.typeUrl = some k →
      (lastOf k log).map (·.nonce) ≠ some r.nonce) :
    ss.heed (.request r current) = ([], ss) := by
  have hreceive : ss.receive? r current = none := by
    unfold receive?
    cases hkind : Kind.ofTypeUrl? r.typeUrl with
    | none => rfl
    | some k =>
      have htake : Subscription.take? (ss.get? k) r = none := by
        rw [Option.eq_none_iff_forall_ne_some]
        intro ⟨sub, due⟩ htake
        rcases Subscription.exists_take?_iff.1 ⟨sub, due, htake⟩ with hfresh | hlast
        · exact hnonce hfresh
        · exact hstale k hkind ((h.lastNonce k).trans hlast)
      simp [htake]
  rw [heed, hreceive]

/-- What becomes of the verdicts on a kind with one event. -/
theorem heed_judged (h : Attributes number events log ss)
    (hlog : ((numbered number).exchange events).1 = log) (e : Event) (k : Kind) (v : Verdict) :
    Judgement number k v events e ∧
        ((ss.heed e).2.get? k).bind (·.judged v) = (lastOf k log).map (·.version) ∨
      ¬Judgement number k v events e ∧
        ((ss.heed e).2.get? k).bind (·.judged v) = (ss.get? k).bind (·.judged v) := by
  have hlast : (lastOf k log).map (·.nonce) =
      ((ss.session e).subscriptions.get? k).bind (·.lastNonce) := by
    rw [session_subscriptions, h.lastNonce]
  have hturn := (ss.heed_turn e k).judged hlast v
  rw [session_subscriptions, ← h.sent] at hturn
  cases e with
  | snapshot x => exact .inr ⟨id, (hturn.resolve_left fun ⟨⟨_, hr, _⟩, _⟩ => by cases hr).2⟩
  | request r current =>
    rw [Judgement, hlog]
    refine hturn.imp (fun ⟨⟨_, hr, _, hjudges⟩, hnoted⟩ => ?_) fun ⟨hnot, hkept⟩ => ?_
    · cases hr
      exact ⟨hjudges, hnoted⟩
    · exact ⟨hnot r rfl (ss.session_isForeign r current), hkept⟩

theorem heed (h : Attributes number events log ss)
    (hlog : ((numbered number).exchange events).1 = log) (e : Event) :
    Attributes number (events ++ [e]) (log ++ (ss.heed e).1) (ss.heed e).2 where
  counts := h.counts.append (ss.heed_counts e)
  sent k := by rw [lastOf_append, Option.map_or, h.sent, (ss.heed_last e k).1]
  lastNonce k := by rw [lastOf_append, Option.map_or, h.lastNonce, (ss.heed_last e k).2]
  judged k v r current hlatest := by
    rcases latest_append_singleton.1 hlatest with ⟨hjudges, rfl⟩ | ⟨hnot, hlatest⟩
    · rcases h.heed_judged hlog _ k v with ⟨-, hnoted⟩ | ⟨hnot, -⟩
      · have htimely := hjudges.timely
        rw [hlog, Option.map_eq_some_iff] at htimely
        obtain ⟨response, hresponse, hnonce⟩ := htimely
        obtain ⟨hmem, hkind⟩ := mem_of_lastOf hresponse
        exact ⟨response, List.mem_append_left _ hmem, hkind, hnonce, by rw [hnoted, hresponse]; rfl⟩
      · exact absurd hjudges hnot
    · obtain ⟨response, hmem, hkind, hnonce, hversion⟩ := h.judged k v r current hlatest
      rcases h.heed_judged hlog e k v with ⟨hjudges, -⟩ | ⟨-, hkept⟩
      · exact absurd hjudges hnot
      · exact ⟨response, List.mem_append_left _ hmem, hkind, hnonce, hkept.trans hversion⟩
  unjudged k v hnone := by
    rcases h.heed_judged hlog e k v with ⟨hjudges, -⟩ | ⟨hnot, hkept⟩
    · exact absurd (.last hjudges) (hnone e)
    · exact hkept.trans (h.unjudged k v fun e' hlatest => hnone e' (.earlier hnot hlatest))

theorem run (number : Nat) (events : List Event) :
    Attributes number events ((numbered number).exchange events).1
      ((numbered number).exchange events).2 := by
  induction events using List.reverseRecOn with
  | nil => exact empty number
  | append_singleton events e ih =>
    rw [exchange_append_singleton]
    exact ih.heed rfl e

/-- A version is noted when it is that of the response which the latest verdict was on. -/
theorem judged_iff (h : Attributes number events log ss) {version : Version} :
    (ss.get? k).bind (·.judged v) = some version ↔
      ∃ r current, Latest (Judgement number k v) events (.request r current) ∧
        ∃ response ∈ log, response.kind = k ∧ response.nonce = r.nonce ∧
          response.version = version := by
  constructor
  · intro hversion
    by_cases hsome : ∃ e, Latest (Judgement number k v) events e
    · obtain ⟨e, hlatest⟩ := hsome
      cases e with
      | snapshot x =>
        obtain ⟨_, hjudges⟩ := hlatest.exists_has
        cases hjudges
      | request r current =>
        obtain ⟨response, hmem, hkind, hnonce, hjudged⟩ := h.judged k v r current hlatest
        exact ⟨r, current, hlatest, response, hmem, hkind, hnonce,
          Option.some.inj (hjudged.symm.trans hversion)⟩
    · rw [h.unjudged k v (not_exists.1 hsome)] at hversion
      cases hversion
  · rintro ⟨r, current, hlatest, response, hmem, -, hnonce, rfl⟩
    obtain ⟨response', hmem', -, hnonce', hjudged⟩ := h.judged k v r current hlatest
    rw [hjudged, h.counts.eq_of_nonce hmem hmem' (hnonce.trans hnonce'.symm)]

end Attributes

/-- Whatever requests and snapshots there are, in any order, and whatever is current when a
request comes: a request that answers another response than the last one of its kind is not
answered and changes nothing; and the version that counts as accepted, or as rejected, is that
of the response which was accepted, or rejected, last. Nonces tell responses apart. -/
theorem exchange_attributes (number : Nat) (events : List Event) :
    let log := ((numbered number).exchange events).1
    let ss := ((numbered number).exchange events).2
    (log.map (·.nonce)).Nodup ∧
    (∀ r current, r.nonce ≠ "" →
      (∀ k, Kind.ofTypeUrl? r.typeUrl = some k → (lastOf k log).map (·.nonce) ≠ some r.nonce) →
      ss.heed (.request r current) = ([], ss)) ∧
    ∀ k version,
      (ss.accepted? k = some version ↔
        ∃ r current, Latest (Judgement number k .accepted) events (.request r current) ∧
          ∃ response ∈ log, response.kind = k ∧ response.nonce = r.nonce ∧
            response.version = version) ∧
      (ss.rejected? k = some version ↔
        ∃ r current, Latest (Judgement number k .rejected) events (.request r current) ∧
          ∃ response ∈ log, response.kind = k ∧ response.nonce = r.nonce ∧
            response.version = version) := by
  intro log ss
  have h : Attributes number events log ss := .run number events
  exact ⟨h.counts.nodup, fun r current => h.heed_stale, fun k version =>
    ⟨h.judged_iff (v := .accepted), h.judged_iff (v := .rejected)⟩⟩

/-- Clusters are sent three times: the second response is rejected and the third accepted. -/
def rejectedOnce : List Event :=
  [.request { typeUrl := TypeUrl.cluster } (some (.blank ⟨1⟩)), .snapshot (.blank ⟨2⟩),
    .request { typeUrl := TypeUrl.cluster, nonce := "7-1", error := some "no such socket" } none,
    .snapshot (.blank ⟨3⟩), .request { typeUrl := TypeUrl.cluster, nonce := "7-2" } none]

/-- What answers the first of these responses comes too late. -/
theorem exchange_attributes_rejectedOnce :
    let log := ((numbered 7).exchange rejectedOnce).1
    let ss := ((numbered 7).exchange rejectedOnce).2
    ss.heed (.request { typeUrl := TypeUrl.cluster, nonce := "7-0" } none) = ([], ss) ∧
      (∃ r current, Latest (Judgement 7 .cluster .accepted) rejectedOnce (.request r current) ∧
        ∃ response ∈ log, response.kind = .cluster ∧ response.nonce = r.nonce ∧
          response.version = ⟨3⟩) ∧
      ∃ r current, Latest (Judgement 7 .cluster .rejected) rejectedOnce (.request r current) ∧
        ∃ response ∈ log, response.kind = .cluster ∧ response.nonce = r.nonce ∧
          response.version = ⟨2⟩ := by
  intro log ss
  obtain ⟨-, hstale, hjudged⟩ := exchange_attributes 7 rejectedOnce
  refine ⟨hstale _ none (by decide) fun k hk => ?_, (hjudged .cluster ⟨3⟩).1.1 ?_,
    (hjudged .cluster ⟨2⟩).2.1 ?_⟩
  · have hkind : k = .cluster := Option.some.inj (hk.symm.trans (by decide))
    subst hkind
    decide +kernel
  · decide +kernel
  · decide +kernel

end Subscriptions

end GatewayPlane
