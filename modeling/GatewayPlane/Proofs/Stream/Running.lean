import GatewayPlane.Proofs.Cache.Beginning
import GatewayPlane.Proofs.Stream.Attending
import GatewayPlane.Proofs.Stream.Attribution
import GatewayPlane.Proofs.Stream.Stocked

/-!
# A stream and what its client holds

A stream from its beginning on, served from a cache to which others do whatever they like, with
notifications that may come late. The snapshots that the stream finds are newer each time, so
that its client holds just what it asked for last of the current one.
-/
namespace GatewayPlane

namespace Cache
variable {c : Cache} {published : List (NodeId × Snapshot)}

/-- The watch that an action is done to. -/
def Action.watch? : Action → Option Nat
  | latest id | poll id | drop id => some id
  | _ => none

/-- Whatever is done to a cache, the watches of others go on. -/
theorem Tracks.advancesAt (h : c.Tracks published) {a : Action} {id : Nat}
    (hother : a.watch? ≠ some id) : c.watches.AdvancesAt id (a.apply c).watches := by
  have hsee {other : Nat} (hne : some other ≠ some id) :
      (c.watches.see other).get? id = c.watches.get? id := by
    rw [Watches.get?_see, if_neg fun heq => hne (congrArg some heq.symm)]
  cases a with
  | set node s =>
    by_cases haccepts : accepts (c.held? node) s = true
    · rw [Action.apply, set_of_accepts haccepts]
      exact ((h.watches.mono (List.subset_cons_self (node, s) _)).notify List.mem_cons_self).2 id
    · obtain ⟨f, hset⟩ := set_of_not_accepts haccepts
      rw [Action.apply, hset]
      exact Watches.Advances.refl _ id
  | get node => exact Watches.advancesAt_of_get? (by rw [Action.apply, get_watches])
  | clear node => exact Watches.advancesAt_of_get? (by rw [Action.apply, clear_watches])
  | remove node =>
    rw [Action.apply, removeNode_watches]
    exact (h.watches.close node).2 id
  | watch node => exact (watch_sound h.watches (h.held node)).2.1 id
  | latest other => exact Watches.advancesAt_of_get? (hsee hother)
  | poll other =>
    refine Watches.advancesAt_of_get? ?_
    change (c.watches.poll other).2.get? id = _
    unfold Watches.poll
    split
    · rfl
    · exact hsee hother
  | drop other =>
    refine Watches.advancesAt_of_get? ((c.watches.get?_drop other id).trans (if_neg fun heq => ?_))
    exact hother (congrArg some heq.symm)

theorem Tracks.leave (h : c.Tracks published) (s : Session) : (s.leave c).Tracks published := by
  rw [Session.leave]
  split
  · exact h
  · exact ⟨h.watches.drop _, h.held⟩

end Cache

/-- A stream, the cache from which it is served, and what was sent on it. -/
structure LiveStream where
  cache : Cache := {}
  session : Session := {}
  isOver : Bool := false
  log : List DiscoveryResponse := []

namespace LiveStream

/-- What can happen next. -/
inductive Event where
  /-- Others do something to the cache. -/
  | elsewhere (a : Cache.Action)
  /-- A snapshot takes its place in the cache, of which the watches are not told yet. -/
  | store (node : NodeId) (x : Snapshot)
  /-- The watches of a node are told of a snapshot, maybe late. -/
  | notice (node : NodeId) (x : Snapshot)
  /-- The stream receives a request. -/
  | request (r : DiscoveryRequest)
  /-- The stream looks for a newer snapshot. -/
  | wake

/-- The stream ends. -/
def finish (st : LiveStream) : LiveStream :=
  { st with cache := st.session.leave st.cache, isOver := true }

/-- The stream sends responses. -/
def send (st : LiveStream) (session : Session) (responses : List DiscoveryResponse) : LiveStream :=
  { st with session := session, log := st.log ++ responses }

def withCache (st : LiveStream) (cache : Cache) : LiveStream := { st with cache := cache }

def step (st : LiveStream) : Event → LiveStream
  | .elsewhere a =>
    -- no one else has the watch of the stream
    if a.watch?.isSome ∧ a.watch? = st.session.watch then st else st.withCache (a.apply st.cache)
  | .store node x =>
    if Cache.accepts (st.cache.held? node) x then st.withCache (st.cache.store node x) else st
  | .notice node x => st.withCache (st.cache.announce node x)
  | .request r =>
    if st.isOver then st
    else
      match st.session.receive st.cache r with
      | (.error _, cache) => (st.withCache cache).finish
      | (.ok (response, session), cache) => (st.withCache cache).send session response.toList
  | .wake =>
    if st.isOver then st
    else
      match st.session.wake st.cache with
      | none => st
      | some (.error _, cache) => (st.withCache cache).finish
      | some (.ok (responses, session), cache) => (st.withCache cache).send session responses

/-- A stream after all that has happened to it and to its cache. -/
def run (number : Nat) (events : List Event) : LiveStream :=
  events.foldl step { session := .numbered number }

/-- An event is a request by which the client of a node asks for a kind on a stream that is not
over. -/
def IsAsked (number : Nat) (node : NodeId) (k : Kind) (before : List Event) : Event → Prop
  | .request r => (run number before).isOver = false ∧
      Session.Asks node (run number before).log k r
  | _ => False

variable {number : Nat} {node : NodeId} {events : List Event} {st : LiveStream} {k : Kind}
  {s : Session} {log : List DiscoveryResponse} {r : DiscoveryRequest}

theorem run_append_singleton (number : Nat) (events : List Event) (e : Event) :
    run number (events ++ [e]) = (run number events).step e := by
  rw [run, List.foldl_append]
  rfl

/-! ## What the client holds -/

/-- How what has happened, what was sent on the stream of a node, and what its session knows
belong together. -/
structure Holds (number : Nat) (node : NodeId) (events : List Event)
    (log : List DiscoveryResponse) (s : Session) : Prop where
  abreast : ∃ heard, Session.Abreast node heard log s
  stocked : Session.Stocked log s
  names : ∀ k names, (s.subscriptions.get? k).map (·.names) = some names ↔
    ∃ r, Latest (IsAsked number node k) events (.request r) ∧ r.names = names

theorem Holds.begun (number : Nat) (c : Cache) (node : NodeId)
    (hunasked : ∀ k e, ¬Latest (IsAsked number node k) events e) :
    Holds number node events [] (.begun number c node) := by
  refine ⟨⟨[], .begun number c node⟩, fun k sub x hsub => ?_, fun k names => ?_⟩
  · rw [Session.get?_begun] at hsub
    cases hsub
  · rw [Session.get?_begun]
    exact iff_of_false nofun fun ⟨r, hlatest, _⟩ => hunasked k _ hlatest

/-- What holds goes on to hold when nothing is asked and the session is told nothing. -/
theorem Holds.skip (h : Holds number node events log s) {e : Event}
    (hunasked : ∀ k, ¬IsAsked number node k events e) :
    Holds number node (events ++ [e]) log s where
  abreast := h.abreast
  stocked := h.stocked
  names k names := by
    rw [h.names]
    exact exists_congr fun r => and_congr_left fun _ => (latest_append_of_not (hunasked k)).symm

/-- What holds goes on to hold when the session is told something: of requests those that the
stream receives, and of snapshots newer ones only. -/
theorem Holds.heed (h : Holds number node events log s) {e : Event} {e' : Session.Event}
    (hrequest : ∀ r, e' = .request r → e = .request r)
    (hasked : ∀ k, IsAsked number node k events e ↔
      ∃ r, e' = .request r ∧ Session.Asks node log k r)
    (hnewer : ∀ x y, e' = .snapshot x → s.current = some y → y.version < x.version) :
    Holds number node (events ++ [e]) (log ++ (s.heed e').1) (s.heed e').2 := by
  obtain ⟨heard, habreast⟩ := h.abreast
  refine ⟨⟨_, habreast.heed e'⟩, h.stocked.heed habreast e' hnewer, fun k names => ?_⟩
  rcases Session.heed_names habreast k e' with ⟨r, he', hasks, hnames⟩ | ⟨hnot, hnames⟩
  · have hnow : IsAsked number node k events e := (hasked k).2 ⟨r, he', hasks⟩
    obtain rfl := hrequest r he'
    simp [hnames, latest_append_of hnow]
  · have hunasked : ¬IsAsked number node k events e := by
      rw [hasked]
      rintro ⟨r, he', hasks⟩
      exact hnot r he' hasks
    rw [hnames, h.names]
    exact exists_congr fun r => and_congr_left fun _ => (latest_append_of_not hunasked).symm

/-! ## The life of a stream -/

/-- How far a stream has come: it waits for a first request, or serves the node that this has
named, or is over, maybe before it has begun to serve one. -/
inductive Stage (number : Nat) (events : List Event) (published : List (NodeId × Snapshot))
    (st : LiveStream) : Prop
  | waiting (going : st.isOver = false) (session : st.session = .numbered number)
      (silent : st.log = []) (unasked : ∀ node k e, ¬Latest (IsAsked number node k) events e)
  | serving {n : NodeId} (going : st.isOver = false)
      (attends : st.session.Attends st.cache.watches n published)
      (holds : Holds number n events st.log st.session)
  | refused (isOver : st.isOver = true) (session : st.session = .numbered number)
  | ended {n : NodeId} (isOver : st.isOver = true) (holds : Holds number n events st.log st.session)

/-- What holds whatever has happened. -/
def Inv (number : Nat) (events : List Event) (st : LiveStream) : Prop :=
  ∃ published, st.cache.Tracks published ∧ Stage number events published st

theorem Inv.start (number : Nat) : Inv number [] (run number []) :=
  ⟨[], .empty, .waiting rfl rfl rfl fun _ _ _ => not_latest_nil⟩

/-- A stream stays where it is while others do something to the cache. -/
theorem Stage.elsewhere {published published' : List (NodeId × Snapshot)} {e : Event} {c : Cache}
    (h : Stage number events published st) (hunasked : ∀ node k, ¬IsAsked number node k events e)
    (hpublished : published ⊆ published')
    (hadvances : ∀ id, st.session.watch = some id → st.cache.watches.AdvancesAt id c.watches) :
    Stage number (events ++ [e]) published' (st.withCache c) := by
  cases h with
  | waiting hgoing hsession hsilent hnone =>
    refine .waiting hgoing hsession hsilent fun node k e' => ?_
    rw [latest_append_of_not (hunasked node k)]
    exact hnone node k e'
  | serving hgoing hattends hholds =>
    exact .serving hgoing (hattends.elsewhere hpublished hadvances) (hholds.skip (hunasked _))
  | refused hover hsession => exact .refused hover hsession
  | ended hover hholds => exact .ended hover (hholds.skip (hunasked _))

theorem Stage.idle {published : List (NodeId × Snapshot)} {e : Event}
    (h : Stage number events published st) (hunasked : ∀ node k, ¬IsAsked number node k events e) :
    Stage number (events ++ [e]) published st :=
  h.elsewhere hunasked (List.Subset.refl _) fun id _ => Watches.Advances.refl _ id

theorem Inv.elsewhere (h : Inv number events st) (a : Cache.Action) :
    Inv number (events ++ [.elsewhere a]) (st.step (.elsewhere a)) := by
  obtain ⟨published, htracks, hstage⟩ := h
  rw [step]
  split
  · exact ⟨published, htracks, hstage.idle fun _ _ => id⟩
  · next hother =>
    obtain ⟨published', hsub, htracks'⟩ := htracks.apply a
    refine ⟨published', htracks', hstage.elsewhere (fun _ _ => id) hsub fun id hid => ?_⟩
    exact htracks.advancesAt fun hwatch => hother (by simp [hwatch, hid])

theorem Inv.store (h : Inv number events st) (node : NodeId) (x : Snapshot) :
    Inv number (events ++ [.store node x]) (st.step (.store node x)) := by
  obtain ⟨published, htracks, hstage⟩ := h
  rw [step]
  split
  · have hsub : published ⊆ (node, x) :: published := List.subset_cons_self _ _
    refine ⟨_, ⟨htracks.watches.mono hsub, fun other y hy => ?_⟩,
      hstage.elsewhere (fun _ _ => id) hsub fun id _ => Watches.Advances.refl _ id⟩
    have hget : (st.cache.store node x).held? other =
        if node = other then some x else st.cache.held? other := NameMap.get?_insert _ _ _ _
    rw [withCache, hget] at hy
    split at hy
    · next heq =>
      cases hy
      exact heq ▸ List.mem_cons_self
    · exact hsub (htracks.held other y hy)
  · exact ⟨published, htracks, hstage.idle fun _ _ => id⟩

theorem Inv.notice (h : Inv number events st) (node : NodeId) (x : Snapshot) :
    Inv number (events ++ [.notice node x]) (st.step (.notice node x)) := by
  obtain ⟨published, htracks, hstage⟩ := h
  have hsub : published ⊆ (node, x) :: published := List.subset_cons_self _ _
  obtain ⟨hsound, hadvances⟩ := (htracks.watches.mono hsub).notify (s := x) List.mem_cons_self
  exact ⟨_, ⟨hsound, fun other y hy => hsub (htracks.held other y hy)⟩,
    hstage.elsewhere (fun _ _ => id) hsub fun id _ => hadvances id⟩

/-- A stream that is not over heeds a request in a session that knows its node, unless no node
was ever named. -/
theorem Stage.request {published : List (NodeId × Snapshot)}
    (h : Stage number events published st) (htracks : st.cache.Tracks published)
    (hgoing : st.isOver = false) (r : DiscoveryRequest) :
    st.session = .numbered number ∧ st.step (.request r) = st.finish ∨
      ∃ node s c, c.Tracks published ∧ s.Attends c.watches node published ∧
        Holds number node events st.log s ∧ s.subscriptions = st.session.subscriptions ∧
        st.step (.request r) =
          (st.withCache c).send (s.heed (.request r)).2 (s.heed (.request r)).1 := by
  cases h with
  | waiting _ hsession hsilent hnone =>
    have hunwatched : st.session.watch = none := by rw [hsession]; rfl
    by_cases hr : r.node = ""
    · refine .inl ⟨hsession, ?_⟩
      rw [step, hgoing, Session.receive_of_unnamed st.cache hunwatched hr]
      rfl
    · -- the request names the node, which the session watches from now on
      obtain ⟨response, hresponse, hreceive⟩ := Session.receive_first st.cache hunwatched hr
      obtain ⟨hsnapshots, hsound, hattends⟩ :=
        st.session.identify_attends htracks.watches (htracks.held r.node)
      refine .inr ⟨r.node, _, _, ⟨hsound, fun other x hx => htracks.held other x ?_⟩, hattends,
        ?_, rfl, ?_⟩
      · rwa [Cache.held?, ← hsnapshots]
      · rw [hsilent, hsession]
        exact .begun number st.cache r.node fun k => hnone r.node k
      · simp [step, hgoing, hreceive, hresponse]
  | @serving node _ hattends hholds =>
    obtain ⟨id, -, hwatch, -⟩ := hattends.watch
    obtain ⟨response, hresponse, hreceive⟩ := Session.receive_of_watch st.cache hwatch r
    refine .inr ⟨node, _, _, htracks, hattends, hholds, rfl, ?_⟩
    simp [step, hgoing, hreceive, hresponse]
  | refused hover | ended hover =>
    rw [hgoing] at hover
    cases hover

theorem Inv.request (h : Inv number events (run number events)) (r : DiscoveryRequest) :
    Inv number (events ++ [.request r]) ((run number events).step (.request r)) := by
  obtain ⟨published, htracks, hstage⟩ := h
  cases hover : (run number events).isOver with
  | true =>
    have hstep : (run number events).step (.request r) = run number events := by simp [step, hover]
    rw [hstep]
    exact ⟨published, htracks, hstage.idle fun node k => by simp [IsAsked, hover]⟩
  | false =>
    rcases hstage.request htracks hover r with ⟨hsession, hstep⟩ |
      ⟨node, s, c, htracks', hattends, hholds, -, hstep⟩ <;> rw [hstep]
    · exact ⟨published, htracks.leave _, .refused rfl hsession⟩
    · refine ⟨published, htracks', .serving hover (hattends.heed_request r) ?_⟩
      refine hholds.heed (fun _ => ?_) (fun k => ?_) nofun
      · rintro ⟨⟩
        rfl
      · simp [IsAsked, hover]

theorem Inv.wake (h : Inv number events st) : Inv number (events ++ [.wake]) (st.step .wake) := by
  obtain ⟨published, htracks, hstage⟩ := h
  have hidle (hstep : st.step .wake = st) : Inv number (events ++ [.wake]) (st.step .wake) := by
    rw [hstep]
    exact ⟨published, htracks, hstage.idle fun _ _ => id⟩
  cases hstage with
  | waiting hgoing hsession hsilent hnone =>
    exact hidle (by simp [step, hgoing, hsession, Session.wake, Session.numbered])
  | serving hgoing hattends hholds =>
    rcases hattends.wake htracks.watches with hwake | ⟨c, hsnapshots, hsound, hnews⟩
    · exact hidle (by simp [step, hgoing, hwake])
    have htracks' : c.Tracks published :=
      ⟨hsound, fun other x hx => htracks.held other x (by rwa [Cache.held?, ← hsnapshots])⟩
    rcases hnews with ⟨e, hwake⟩ | ⟨x, hwake, -, hnewer, hattends'⟩
    · have hstep : st.step .wake = (st.withCache c).finish := by simp [step, hgoing, hwake]
      rw [hstep]
      exact ⟨published, htracks'.leave _, .ended rfl (hholds.skip fun _ => id)⟩
    · have hstep : st.step .wake = (st.withCache c).send (st.session.heed (.snapshot x)).2
          (st.session.heed (.snapshot x)).1 := by
        simp [step, hgoing, hwake]
      rw [hstep]
      refine ⟨published, htracks', .serving hgoing hattends' ?_⟩
      refine hholds.heed ?_ (fun k => iff_of_false id ?_) ?_
      · rintro _ ⟨⟩
      · rintro ⟨_, ⟨⟩, -⟩
      · rintro _ y ⟨⟩ hy
        exact hnewer y hy
  | refused hover | ended hover => exact hidle (by simp [step, hover])

theorem run_inv (number : Nat) (events : List Event) :
    Inv number events (run number events) := by
  induction events using List.reverseRecOn with
  | nil => exact .start number
  | append_singleton events e ih =>
    rw [run_append_singleton]
    cases e with
    | elsewhere a => exact ih.elsewhere a
    | store node x => exact ih.store node x
    | notice node x => exact ih.notice node x
    | request r => exact ih.request r
    | wake => exact ih.wake

/-- A stream that has a current snapshot serves a node, or has served it. -/
theorem Inv.holds (h : Inv number events st) (hcurrent : st.session.current.isSome = true) :
    ∃ node, st.session.context.node = some node ∧
      Holds number node events st.log st.session := by
  obtain ⟨published, -, hstage⟩ := h
  cases hstage with
  | waiting _ hsession | refused _ hsession =>
    rw [hsession] at hcurrent
    cases hcurrent
  | serving _ _ hholds | ended _ hholds =>
    obtain ⟨heard, habreast⟩ := hholds.abreast
    exact ⟨_, habreast.identified, hholds⟩

/-- Of a kind whose current version it has not rejected, a client holds what it asked for last. -/
theorem Holds.selects (h : Holds number node events log s) {x : Snapshot}
    (hx : s.current = some x) (hk : k ∈ s.subscriptions.kinds)
    (hrejected : s.subscriptions.rejected? k ≠ some x.version) :
    ∃ response r, lastOf k log = some response ∧ response.version = x.version ∧
      Latest (IsAsked number node k) events (.request r) ∧ response.Selects x r.names := by
  obtain ⟨sub, hsub⟩ := Option.isSome_iff_exists.1 (s.subscriptions.mem_kinds.1 hk)
  rw [Subscriptions.rejected?, hsub, Option.bind_some] at hrejected
  obtain ⟨nonce, hlast⟩ := (h.stocked k sub x hsub hx).resolve_left hrejected
  obtain ⟨r, hlatest, hnames⟩ := (h.names k sub.names).1 (by rw [hsub]; rfl)
  refine ⟨_, r, hlast, rfl, hlatest, ?_⟩
  rw [hnames]
  exact sub.response_selects k x nonce

/-- A request for a kind is answered when it subscribes, or accepts what was sent last and asks
for other names. -/
theorem Inv.answers (h : Inv number events st) (hgoing : st.isOver = false)
    (hasks : Session.Asks node st.log k r)
    (hnode : (st.step (.request r)).session.context.node = some node)
    (hcurrent : (st.step (.request r)).session.current.isSome = true) :
    if r.nonce = "" ∨ r.error = none ∧ r.names ≠ st.session.names k then
      ∃ response, (st.step (.request r)).log = st.log ++ [response] ∧ response.kind = k
    else (st.step (.request r)).log = st.log := by
  obtain ⟨published, htracks, hstage⟩ := h
  rcases hstage.request htracks hgoing r with ⟨hsession, hstep⟩ |
    ⟨n, s, c, -, -, hholds, hsubs, hstep⟩ <;> rw [hstep] at hnode hcurrent ⊢
  · rw [finish, hsession] at hnode
    cases hnode
  · change (s.heed (.request r)).2.context.node = some node at hnode
    change (s.heed (.request r)).2.current.isSome = true at hcurrent
    obtain ⟨heard, habreast⟩ := hholds.abreast
    rw [(Session.heed_node s _).1, habreast.identified] at hnode
    obtain rfl : n = node := Option.some.inj hnode
    rw [Session.heed_current] at hcurrent
    have hanswered := Session.heed_asks_iff habreast hasks hcurrent
    rw [Session.names, hsubs, ← Session.names] at hanswered
    change if _ then ∃ response, st.log ++ (s.heed (.request r)).1 = _ ∧ _
      else st.log ++ (s.heed (.request r)).1 = _
    split
    · next hdue =>
      obtain ⟨response, hone, hkind⟩ := hanswered.2 hdue
      exact ⟨response, by rw [hone], hkind⟩
    · next hidle =>
      rcases Session.heed_request_cases (s := s) hasks.kind with hnone | hone
      · rw [hnone, List.append_nil]
      · exact absurd (hanswered.1 hone) hidle

/-- Whatever has happened to a stream and to its cache, in any order: of each kind that its client
has subscribed to, and whose current version it has not rejected, it was last sent that version,
with just those resources that the last request for the kind asks for. A request for a kind
is answered, with one response, when it subscribes or accepts what was sent last and asks for
other names than before; else nothing is sent. -/
theorem run_stocked (number : Nat) (events : List Event) :
    let st := run number events
    (∀ x, st.session.current = some x → ∃ node, st.session.context.node = some node ∧
      ∀ k ∈ st.session.subscriptions.kinds,
        st.session.subscriptions.rejected? k ≠ some x.version →
        ∃ response r, lastOf k st.log = some response ∧ response.version = x.version ∧
          Latest (IsAsked number node k) events (.request r) ∧ response.Selects x r.names) ∧
    ∀ node k r, IsAsked number node k events (.request r) →
      let next := st.step (.request r)
      next.session.context.node = some node → next.session.current.isSome = true →
      if r.nonce = "" ∨ r.error = none ∧ r.names ≠ st.session.names k then
        ∃ response, next.log = st.log ++ [response] ∧ response.kind = k
      else next.log = st.log := by
  intro st
  have hinv : Inv number events st := run_inv number events
  constructor
  · intro x hx
    obtain ⟨node, hnode, hholds⟩ := hinv.holds (by rw [hx]; rfl)
    exact ⟨node, hnode, fun k => hholds.selects hx⟩
  · intro node k r hasked next hnode hcurrent
    exact hinv.answers hasked.1 hasked.2 hnode hcurrent

/-- Pets are asked for before there are any; then books instead of them. -/
def booksForPets : List Event :=
  [.request { node := "edge", typeUrl := TypeUrl.cluster, names := ["pets"] },
    .elsewhere (.set "edge"
      (.ofBundle ⟨1⟩ { clusters := [{ name := "pets" }, { name := "books" }] })),
    .wake, .request { typeUrl := TypeUrl.cluster, names := ["books"], nonce := "7-0" }]

/-- A client that asks for books and has got them is sent nothing when it accepts them. -/
theorem run_stocked_booksForPets :
    let st := run 7 booksForPets
    let accepts : DiscoveryRequest :=
      { typeUrl := TypeUrl.cluster, names := ["books"], nonce := "7-1" }
    st.log.map (fun r => (r.version, r.resources.map (·.name))) =
        [(⟨1⟩, ["pets"]), (⟨1⟩, ["books"])] ∧
      (∃ x response r, st.session.current = some x ∧ lastOf .cluster st.log = some response ∧
        Latest (IsAsked 7 "edge" .cluster) booksForPets (.request r) ∧
        response.Selects x r.names) ∧
      (st.step (.request accepts)).log = st.log := by
  intro st accepts
  obtain ⟨hholds, hanswers⟩ := run_stocked 7 booksForPets
  have hcurrent : st.session.current.map (·.version) = some ⟨1⟩ := by decide +kernel
  obtain ⟨x, hx, hversion⟩ := Option.map_eq_some_iff.1 hcurrent
  refine ⟨by decide +kernel, ?_, ?_⟩
  · obtain ⟨node, hnode, hserved⟩ := hholds x hx
    obtain rfl : node = "edge" := Option.some.inj (hnode.symm.trans (by decide +kernel))
    obtain ⟨response, r, hlast, -, hlatest, hselects⟩ :=
      hserved .cluster (by decide +kernel) (by rw [hversion]; decide +kernel)
    exact ⟨x, response, r, hx, hlast, hlatest, hselects⟩
  · have hasked : IsAsked 7 "edge" .cluster booksForPets (.request accepts) :=
      ⟨by decide +kernel, .inl rfl, by decide, .inr (by decide +kernel)⟩
    have hidle := hanswers "edge" .cluster accepts hasked (by decide +kernel) (by decide +kernel)
    rwa [if_neg (by decide +kernel)] at hidle

end LiveStream

end GatewayPlane
