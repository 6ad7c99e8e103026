import GatewayPlane.Proofs.Stream.Abreast

/-!
# Rejected versions

A client that rejects a response is sent nothing for it. The same version comes again all the
same when it is still current and the client subscribes afresh, or accepts what it rejected
and asks for other names; in no other way.
-/
namespace GatewayPlane

namespace Session
variable {s : Session} {k : Kind} {node : NodeId} {r : DiscoveryRequest}

/-- A request by which a client of a node rejects a response. -/
structure Rejects (node : NodeId) (response : DiscoveryResponse) (r : DiscoveryRequest) :
    Prop where
  node : r.node = "" ∨ r.node = node
  kind : Kind.ofTypeUrl? r.typeUrl = some response.kind
  nonce : r.nonce = response.nonce
  error : r.error ≠ none

/-- A request that a client of a node is sent a kind for, whatever it was sent before: it
subscribes afresh, or accepts what was sent last and asks for other names. -/
structure Renews (node : NodeId) (k : Kind) (before : Option Subscription)
    (r : DiscoveryRequest) : Prop where
  node : r.node = "" ∨ r.node = node
  kind : Kind.ofTypeUrl? r.typeUrl = some k
  due : r.nonce = "" ∨ r.error = none ∧
    ∃ sub, before = some sub ∧ sub.lastNonce = some r.nonce ∧ sub.names ≠ r.names

theorem renews_iff (hnode : s.context.node = some node) :
    Renews node k (s.subscriptions.get? k) r ↔ ∃ sub, s.Takes k r sub true := by
  constructor
  · intro h
    have hsome : (Subscription.take? (s.subscriptions.get? k) r).isSome = true := by
      rw [Subscription.take?_isSome_iff]
      exact h.due.imp id fun ⟨_, sub, hsub, hlast, _⟩ => ⟨sub, hsub, hlast⟩
    obtain ⟨⟨sub, due⟩, htake⟩ := Option.isSome_iff_exists.1 hsome
    rw [(Subscription.take?_due_iff htake).2 h.due] at htake
    exact ⟨sub, (isForeign_eq_false hnode).2 h.node, h.kind, htake⟩
  · rintro ⟨sub, h⟩
    exact ⟨(isForeign_eq_false hnode).1 h.own, h.kind, (Subscription.take?_due_iff h.taken).1 rfl⟩

/-- A rejection is taken, but it is not answered. -/
theorem heed_rejection {events : List Event} {log : List DiscoveryResponse}
    {response : DiscoveryResponse} (h : Abreast node events log s)
    (hlast : lastOf response.kind log = some response) (hr : Rejects node response r) :
    (s.heed (.request r)).1 = [] ∧
      (s.heed (.request r)).2.subscriptions.rejected? response.kind = some response.version := by
  have hown : s.isForeign r = false := (isForeign_eq_false h.identified).2 hr.node
  have hnonce : r.nonce ≠ "" := by
    rw [hr.nonce]
    exact h.nonce response (List.mem_filter.1 (List.mem_of_getLast? hlast)).1
  obtain ⟨b, hb, hsent, hlastNonce⟩ : ∃ b, s.subscriptions.get? response.kind = some b ∧
      b.sent = some response.version ∧ b.lastNonce = some r.nonce := by
    have hsent := (h.last response.kind).symm
    have hlastNonce := (h.lastNonce response.kind).symm
    rw [hlast, Option.map_some, Option.bind_eq_some_iff] at hsent hlastNonce
    obtain ⟨b, hb, hsent⟩ := hsent
    obtain ⟨b', hb', hlastNonce⟩ := hlastNonce
    cases hb.symm.trans hb'
    exact ⟨b, hb, hsent, hlastNonce.trans (congrArg some hr.nonce.symm)⟩
  obtain ⟨⟨sub, due⟩, htake⟩ := Option.isSome_iff_exists.1
    (Subscription.take?_isSome_iff.2 (.inr ⟨b, hb, hlastNonce⟩))
  obtain ⟨rfl, hrejected⟩ := Subscription.take?_of_error htake hnonce hr.error
  have hkept : sub.sent = some response.version := by
    rw [(Subscription.take?_sent htake).1, hb, Option.bind_some, hsent]
  rw [heed, if_neg (by simp [hown])]
  rcases answer_of_takes ⟨hown, hr.kind, htake⟩ with ⟨-, hnone, hsubs⟩ |
    ⟨x, nonce, hcurrent, hdue, -⟩
  · rw [hnone, hsubs, Subscriptions.rejected?, Subscriptions.get?_put, if_pos rfl]
    exact ⟨rfl, hrejected.trans hkept⟩
  · -- what was sent last is of the current version
    rcases hdue with hdue | hunsent
    · cases hdue
    · rw [hkept, ← hsent, h.current _ b hb, hcurrent] at hunsent
      exact absurd rfl hunsent

/-- A renewal is sent whatever is current; no other request is sent what it was sent before. -/
theorem heed_request_iff {events : List Event} {log : List DiscoveryResponse}
    (h : Abreast node events log s) (q : DiscoveryRequest) :
    (∃ response ∈ (s.heed (.request q)).1, response.kind = k) ↔
      s.current.isSome = true ∧ Renews node k (s.subscriptions.get? k) q := by
  have hturn := heed_turn s k (.request q)
  have hmem : (∃ response ∈ (s.heed (.request q)).1, response.kind = k) ↔
      (s.heed (.request q)).1.filter (·.kind = k) ≠ [] := by
    rw [Ne, List.filter_eq_nil_iff]
    simp
  rw [hmem, renews_iff h.identified]
  generalize (s.heed (.request q)).1.filter (·.kind = k) = sent,
    (s.heed (.request q)).2.subscriptions.get? k = after at hturn
  cases hturn with
  | aside hrefused =>
    refine iff_of_false (fun h => h rfl) ?_
    rintro ⟨-, sub, htakes⟩
    exact hrefused ⟨sub, true, htakes⟩
  | noted htakes hidle =>
    refine iff_of_false (fun h => h rfl) ?_
    rintro ⟨hcurrent, sub, hrenewed⟩
    obtain ⟨x, hx⟩ := Option.isSome_iff_exists.1 hcurrent
    cases (htakes.taken.symm.trans hrenewed.taken)
    cases (hidle x hx).1
  | @answered _ sub due x nonce htakes hcurrent hdue _ =>
    refine iff_of_true (by simp) ⟨by rw [hcurrent]; rfl, sub, ?_⟩
    rcases hdue with rfl | hunsent
    · exact htakes
    · -- what was sent before is of the current version, so that there is no such thing
      rcases Subscription.take?_cases htakes.taken with ⟨-, rfl, -⟩ | ⟨b, hb, -⟩
      · exact htakes
      · rw [(Subscription.take?_sent htakes.taken).1, hb, Option.bind_some, h.current k b hb,
          hcurrent] at hunsent
        exact absurd rfl hunsent

/-- What was sent last is of the version of a snapshot that the session was told of. -/
theorem exists_snapshot_of_lastOf {number : Nat} {c : Cache} {events : List Event}
    {log : List DiscoveryResponse} {response : DiscoveryResponse}
    (h : (begun number c node).exchange events = (log, s)) (hlast : lastOf k log = some response) :
    ∃ x ∈ (begun number c node).current.toList ++ events.filterMap Event.snapshot?,
      x.version = response.version := by
  have hinv := abreast_of_exchange h
  have hcurrent := exchange_current (begun number c node) events
  rw [h] at hcurrent
  have hsent := hinv.last k
  rw [hlast, Option.map_some, eq_comm, Option.bind_eq_some_iff] at hsent
  obtain ⟨sub, hsub, hsent⟩ := hsent
  rw [hinv.current k sub hsub, Option.map_eq_some_iff] at hsent
  obtain ⟨x, hx, hversion⟩ := hsent
  exact ⟨x, List.mem_of_getLast? (hcurrent.symm.trans hx), hversion⟩

/-- On a stream whose snapshots are ever newer, a client that rejects what it was sent last is
sent nothing for that, and its rejection is noted. After whatever comes next, it is sent that
version again exactly when it renews its subscription while that version is still current. -/
theorem rejected_again_iff {number : Nat} {c : Cache} {before between : List Event} {e : Event}
    {s' : Session} {log : List DiscoveryResponse} {response : DiscoveryResponse}
    (hbefore : (begun number c node).exchange before = (log, s))
    (hlast : lastOf response.kind log = some response) (hr : Rejects node response r)
    (hbetween : (s.exchange (.request r :: between)).2 = s')
    (hnewer : ((begun number c node).current.toList ++
      (before ++ .request r :: between ++ [e]).filterMap Event.snapshot?).Pairwise
        fun x y => x.version < y.version) :
    (s.heed (.request r)).1 = [] ∧
      (s.heed (.request r)).2.subscriptions.rejected? response.kind = some response.version ∧
      ((∃ again ∈ (s'.heed e).1,
          again.kind = response.kind ∧ again.version = response.version) ↔
        s'.current.map (·.version) = some response.version ∧ ∃ q, e = .request q ∧
          Renews node response.kind (s'.subscriptions.get? response.kind) q) := by
  have hrejected := heed_rejection (abreast_of_exchange hbefore) hlast hr
  refine ⟨hrejected.1, hrejected.2, ?_⟩
  have hexchange : (begun number c node).exchange (before ++ .request r :: between) =
      (log ++ (s.exchange (.request r :: between)).1, s') := by
    rw [exchange_append, hbefore, hbetween]
  have hinv := abreast_of_exchange hexchange
  -- whatever is sent now is of the version that is then current
  have hversion : ∀ again ∈ (s'.heed e).1,
      ((e.snapshot?).or s'.current).map (·.version) = some again.version := by
    intro again hagain
    obtain ⟨x, sub, hx, -, hsource⟩ := heed_source s' e again hagain
    rw [← heed_current, hx, hsource]
    rfl
  cases e with
  | request q =>
    constructor
    · rintro ⟨again, hagain, hkind, hsame⟩
      refine ⟨hsame ▸ hversion again hagain, q, rfl, ?_⟩
      exact ((heed_request_iff hinv q).1 ⟨again, hagain, hkind⟩).2
    · rintro ⟨hcurrent, _, ⟨⟩, hrenews⟩
      have hsome : s'.current.isSome = true := by
        rw [← Option.isSome_map, hcurrent, Option.isSome_some]
      obtain ⟨again, hagain, hkind⟩ := (heed_request_iff hinv q).2 ⟨hsome, hrenews⟩
      refine ⟨again, hagain, hkind, Option.some.inj ?_⟩
      exact (hversion again hagain).symm.trans hcurrent
  | snapshot x =>
    refine iff_of_false ?_ (by rintro ⟨-, q, ⟨⟩, -⟩)
    rintro ⟨again, hagain, -, hsame⟩
    obtain ⟨y, hy, hyversion⟩ := exists_snapshot_of_lastOf hbefore hlast
    have hlt : y.version < x.version := by
      rw [List.filterMap_append, List.filterMap_append, ← List.append_assoc, ← List.append_assoc,
        List.pairwise_append] at hnewer
      exact hnewer.2.2 y (List.mem_append_left _ hy) x (List.mem_singleton_self x)
    rw [hyversion, ← hsame, s'.subscriptions.push_version x hagain] at hlt
    exact Version.lt_irrefl _ hlt

/-- The clusters of the first version are sent. -/
def firstClusters : List Event :=
  [.snapshot (.blank ⟨1⟩), .request { typeUrl := TypeUrl.cluster }]

/-- The answer to them. -/
def clustersRejected : DiscoveryRequest :=
  { typeUrl := TypeUrl.cluster, nonce := "7-0", error := some "no such socket" }

/-- A client that has rejected the clusters is sent them again when it subscribes afresh, and
not when it rejects them once more. -/
theorem rejected_again_clusters :
    let s := ((begun 7 {} "edge").exchange firstClusters).2
    let s' := (s.exchange [.request clustersRejected]).2
    (s.heed (.request clustersRejected)).1 = [] ∧
      (∃ again ∈ (s'.heed (.request { typeUrl := TypeUrl.cluster })).1,
        again.kind = .cluster ∧ again.version = ⟨1⟩) ∧
      ¬∃ again ∈ (s'.heed (.request clustersRejected)).1,
        again.kind = .cluster ∧ again.version = ⟨1⟩ := by
  have hlast : (lastOf .cluster ((begun 7 {} "edge").exchange firstClusters).1).map
      (fun r => (r.kind, r.nonce, r.version)) = some (.cluster, "7-0", ⟨1⟩) := by
    decide +kernel
  have hcurrent : (((begun 7 {} "edge").exchange firstClusters).2.exchange
      [.request clustersRejected]).2.current.map (·.version) = some ⟨1⟩ := by
    decide +kernel
  have hnewer (q : DiscoveryRequest) : ((begun 7 {} "edge").current.toList ++
      (firstClusters ++ [.request clustersRejected] ++ [.request q] : List Event).filterMap
        Event.snapshot?).Pairwise fun x y => x.version < y.version :=
    List.pairwise_singleton _ _
  rcases hbefore : (begun 7 {} "edge").exchange firstClusters with ⟨log, s⟩
  rw [hbefore] at hlast hcurrent
  obtain ⟨response, hlast, hresponse⟩ := Option.map_eq_some_iff.1 hlast
  simp only [Prod.mk.injEq] at hresponse
  obtain ⟨hkind, hnonce, hversion⟩ := hresponse
  rw [← hkind] at hlast
  have hr : Rejects "edge" response clustersRejected :=
    ⟨.inl rfl, by rw [hkind]; decide, hnonce.symm, nofun⟩
  have hagain (q : DiscoveryRequest) :=
    rejected_again_iff (e := .request q) hbefore hlast hr rfl (hnewer q)
  simp only [hkind, hversion, hcurrent, true_and] at hagain
  refine ⟨(hagain default).1, (hagain _).2.2.2 ⟨_, rfl, .inl rfl, by decide, .inl rfl⟩, ?_⟩
  rw [(hagain clustersRejected).2.2]
  rintro ⟨_, ⟨⟩, -, -, hdue⟩
  rcases hdue with hfresh | ⟨haccepts, -⟩
  · exact absurd hfresh (by decide)
  · cases haccepts

/-- A version that was rejected is sent again to a client that subscribes afresh, and to one
that then accepts it and asks for other names. -/
theorem not_never_again :
    let (log, s) := (begun 7 {} "edge").exchange firstClusters
    let s' := (s.heed (.request clustersRejected)).2
    (lastOf .cluster log).map (fun r => (r.nonce, r.version)) =
        some (clustersRejected.nonce, ⟨1⟩) ∧
      s'.subscriptions.rejected? .cluster = some ⟨1⟩ ∧
      (s'.heed (.request { typeUrl := TypeUrl.cluster })).1.map (fun r => (r.kind, r.version)) =
        [(.cluster, ⟨1⟩)] ∧
      (s'.heed (.request { typeUrl := TypeUrl.cluster, nonce := "7-0", names := ["books"] })).1.map
          (fun r => (r.kind, r.version)) =
        [(.cluster, ⟨1⟩)] := by
  decide +kernel

end Session

end GatewayPlane
