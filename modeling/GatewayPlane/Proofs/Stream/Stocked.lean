import GatewayPlane.Proofs.Stream.Rejection
import GatewayPlane.Proofs.Stream.Serving
import GatewayPlane.NameMap.Lemmas

/-!
# What clients hold

A client holds what it was sent last of a kind. That is just what it asked for last, of the
current snapshot, although names are also noted from requests that are not answered: such a
request either names the same resources as before, or rejects the current version.
-/
namespace GatewayPlane

/-- A response has the resources of its kind that names stand for in a snapshot, each once and
in the order of their names. -/
def DiscoveryResponse.Selects (response : DiscoveryResponse) (x : Snapshot)
    (names : List String) : Prop :=
  ∃ entries : List (String × Resource), response.resources = entries.map (·.2) ∧
    entries.Pairwise (fun a b => a.1 < b.1) ∧
    ∀ name y, (name, y) ∈ entries ↔ (x.ofKind response.kind).get? name = some y ∧
      (names = [] ∨ "*" ∈ names ∨ name ∈ names)

theorem Subscription.response_selects (s : Subscription) (k : Kind) (x : Snapshot)
    (nonce : String) : (s.response k x nonce).Selects x s.names := by
  refine ⟨(x.ofKind k).entries.filter fun e => s.wanted.isEmpty || s.wanted.contains e.1, rfl,
    (x.ofKind k).sorted.filter _, fun name y => ?_⟩
  rw [List.mem_filter, NameMap.mem_entries_iff]
  refine and_congr_right fun _ => ?_
  unfold wanted wildcard
  by_cases hwildcard : "*" ∈ s.names
  · simp [hwildcard]
  · simp [hwildcard]

/-- What is taken is for the names of the request. -/
theorem Subscription.take?_names {before : Option Subscription} {sub : Subscription} {due : Bool}
    {r : DiscoveryRequest} (h : take? before r = some (sub, due)) : sub.names = r.names := by
  obtain ⟨-, -, rfl⟩ | ⟨s, -, -, -, -, rfl⟩ := take?_cases h <;> rfl

namespace Session
variable {s : Session} {k : Kind} {node : NodeId} {r : DiscoveryRequest} {e : Event}
  {heard : List Event} {log sent : List DiscoveryResponse} {after : Option Subscription}
  {x : Snapshot}

/-- A request by which a client of a node asks for a kind: it subscribes, or answers the last
response of that kind. -/
structure Asks (node : NodeId) (log : List DiscoveryResponse) (k : Kind) (r : DiscoveryRequest) :
    Prop where
  node : r.node = "" ∨ r.node = node
  kind : Kind.ofTypeUrl? r.typeUrl = some k
  timely : r.nonce = "" ∨ (lastOf k log).map (·.nonce) = some r.nonce

theorem asks_iff (h : Abreast node heard log s) :
    Asks node log k r ↔ ∃ sub due, s.Takes k r sub due := by
  have htimely : (∃ sub due, Subscription.take? (s.subscriptions.get? k) r = some (sub, due)) ↔
      r.nonce = "" ∨ (lastOf k log).map (·.nonce) = some r.nonce := by
    rw [h.lastNonce, Subscription.exists_take?_iff]
  constructor
  · intro hasks
    obtain ⟨sub, due, htake⟩ := htimely.2 hasks.timely
    exact ⟨sub, due, (isForeign_eq_false h.identified).2 hasks.node, hasks.kind, htake⟩
  · rintro ⟨sub, due, htakes⟩
    exact ⟨(isForeign_eq_false h.identified).1 htakes.own, htakes.kind,
      htimely.1 ⟨sub, due, htakes.taken⟩⟩

/-! ## Names -/

/-- The names of a kind are those of the last request that asks for it. -/
theorem Turn.names (h : Turn s k e sent after) :
    (∃ r sub due, e = .request r ∧ s.Takes k r sub due ∧ after.map (·.names) = some r.names) ∨
      (¬∃ r sub due, e = .request r ∧ s.Takes k r sub due) ∧
        after.map (·.names) = (s.subscriptions.get? k).map (·.names) := by
  cases h with
  | @aside r hrefused =>
    refine .inr ⟨?_, rfl⟩
    rintro ⟨_, sub, due, ⟨⟩, htakes⟩
    exact hrefused ⟨sub, due, htakes⟩
  | noted htakes | answered htakes =>
    have hnames := Subscription.take?_names htakes.taken
    exact .inl ⟨_, _, _, rfl, htakes, congrArg some hnames⟩
  | pushed hpushed =>
    refine .inr ⟨nofun, ?_⟩
    generalize s.subscriptions.get? k = before at hpushed
    cases hpushed <;> rfl

theorem heed_names (h : Abreast node heard log s) (k : Kind) (e : Event) :
    (∃ r, e = .request r ∧ Asks node log k r ∧
        ((s.heed e).2.subscriptions.get? k).map (·.names) = some r.names) ∨
      (∀ r, e = .request r → ¬Asks node log k r) ∧
        ((s.heed e).2.subscriptions.get? k).map (·.names) =
          (s.subscriptions.get? k).map (·.names) := by
  refine (heed_turn s k e).names.imp ?_ ?_
  · rintro ⟨r, sub, due, rfl, htakes, hnames⟩
    exact ⟨r, rfl, (asks_iff h).2 ⟨sub, due, htakes⟩, hnames⟩
  · rintro ⟨hnone, hnames⟩
    refine ⟨fun r hr hasks => hnone ?_, hnames⟩
    obtain ⟨sub, due, htakes⟩ := (asks_iff h).1 hasks
    exact ⟨r, sub, due, hr, htakes⟩

/-! ## Resources -/

/-- What was sent last of each kind is what its client wants of the current snapshot, unless it
has rejected the version of that. -/
def Stocked (log : List DiscoveryResponse) (s : Session) : Prop :=
  ∀ k sub x, s.subscriptions.get? k = some sub → s.current = some x →
    sub.rejected = some x.version ∨ ∃ nonce, lastOf k log = some (sub.response k x nonce)

theorem Turn.stocked (h : Turn s k e sent after) (hstocked : Stocked log s)
    (hcurrent : ∀ sub, s.subscriptions.get? k = some sub → sub.sent = s.current.map (·.version))
    (hnewer : ∀ x y, e = .snapshot x → s.current = some y → y.version < x.version) :
    ∀ sub x, after = some sub → e.snapshot?.or s.current = some x →
      sub.rejected = some x.version ∨
        ∃ nonce, sent.getLast?.or (lastOf k log) = some (sub.response k x nonce) := by
  cases h with
  | aside => exact fun sub x => hstocked k sub x
  | @noted r sub due htakes hidle =>
    rintro _ x ⟨⟩ hx
    have hx : s.current = some x := hx
    obtain ⟨rfl, hsent⟩ := hidle x hx
    obtain ⟨-, hdue, -⟩ | ⟨b, hb, -, -, hdue, rfl⟩ := Subscription.take?_cases htakes.taken
    · cases hdue
    unfold Subscription.judge at hdue hsent ⊢
    cases herror : r.error with
    | some message =>
      -- what was sent last, and is rejected, is of the current version
      rw [herror] at hsent
      exact .inl hsent
    | none =>
      rw [herror] at hdue
      have hnames : b.names = r.names := by simpa using hdue.symm
      rcases hstocked k b x hb hx with hrejected | ⟨nonce, hlast⟩
      · exact .inl hrejected
      · refine .inr ⟨nonce, hlast.trans ?_⟩
        simp [Subscription.response, Subscription.wanted, hnames]
  | answered _ hx =>
    rintro _ y ⟨⟩ hy
    cases hx.symm.trans hy
    exact .inr ⟨_, rfl⟩
  | @pushed x _ _ hpushed =>
    rintro sub _ hsub ⟨⟩
    generalize hbefore : s.subscriptions.get? k = before at hpushed
    cases hpushed with
    | passed hsent =>
      -- what was sent last is older than the snapshot
      have hold := hcurrent sub (hbefore.trans hsub)
      rw [hsent sub hsub, eq_comm, Option.map_eq_some_iff] at hold
      obtain ⟨y, hy, hversion⟩ := hold
      have hlt := hnewer x y rfl hy
      rw [hversion] at hlt
      exact absurd hlt (Version.lt_irrefl _)
    | served =>
      cases hsub
      exact .inr ⟨_, rfl⟩

theorem Stocked.heed (habreast : Abreast node heard log s) (h : Stocked log s) (e : Event)
    (hnewer : ∀ x y, e = .snapshot x → s.current = some y → y.version < x.version) :
    Stocked (log ++ (s.heed e).1) (s.heed e).2 := by
  intro k sub x hsub hx
  rw [heed_current] at hx
  rw [lastOf_append]
  exact (heed_turn s k e).stocked h (habreast.current k) hnewer sub x hsub hx

/-! ## Answers -/

/-- A request for a kind is answered with one response of that kind, or not at all. -/
theorem heed_request_cases (hkind : Kind.ofTypeUrl? r.typeUrl = some k) :
    (s.heed (.request r)).1 = [] ∨
      ∃ response, (s.heed (.request r)).1 = [response] ∧ response.kind = k := by
  rw [heed]
  by_cases hforeign : s.isForeign r = true
  · exact .inl (by rw [if_pos hforeign])
  rw [if_neg hforeign]
  by_cases htakes : ∃ j sub due, s.Takes j r sub due
  · obtain ⟨j, sub, due, htakes⟩ := htakes
    cases htakes.kind.symm.trans hkind
    rcases answer_of_takes htakes with ⟨-, hnone, -⟩ | ⟨x, nonce, -, -, -, hsome, -⟩
    · exact .inl (by rw [hnone]; rfl)
    · exact .inr ⟨_, by rw [hsome]; rfl, rfl⟩
  · obtain ⟨hnone, -⟩ := answer_of_aside htakes (eq_false_of_ne_true hforeign)
    exact .inl (by rw [hnone]; rfl)

/-- A client that asks for a kind is answered when it subscribes, or accepts what it was sent and
asks for other names than before. -/
theorem heed_asks_iff (h : Abreast node heard log s) (hasks : Asks node log k r)
    (hcurrent : s.current.isSome = true) :
    (∃ response, (s.heed (.request r)).1 = [response] ∧ response.kind = k) ↔
      r.nonce = "" ∨ r.error = none ∧ r.names ≠ s.names k := by
  have hanswered : (∃ response, (s.heed (.request r)).1 = [response] ∧ response.kind = k) ↔
      ∃ response ∈ (s.heed (.request r)).1, response.kind = k := by
    rcases heed_request_cases (s := s) hasks.kind with hnone | ⟨response, hone, hkind⟩
    · simp [hnone]
    · simp [hone]
  rw [hanswered, heed_request_iff h, and_iff_right hcurrent]
  constructor
  · rintro ⟨-, -, hdue⟩
    refine hdue.imp id ?_
    rintro ⟨haccepts, sub, hsub, -, hnames⟩
    refine ⟨haccepts, ?_⟩
    rw [names, hsub]
    exact hnames.symm
  · intro hdue
    refine ⟨hasks.node, hasks.kind, ?_⟩
    rcases hdue with hfresh | ⟨haccepts, hnames⟩
    · exact .inl hfresh
    rcases hasks.timely with hfresh | htimely
    · exact .inl hfresh
    rw [h.lastNonce, Option.bind_eq_some_iff] at htimely
    obtain ⟨sub, hsub, hlast⟩ := htimely
    rw [names, hsub] at hnames
    exact .inr ⟨haccepts, sub, hsub, hlast, hnames.symm⟩

end Session

end GatewayPlane
