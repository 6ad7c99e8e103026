import GatewayPlane.Proofs.ControlPlane.Atomicity
import GatewayPlane.Proofs.Stream.Attending
import GatewayPlane.Proofs.Stream.Serving

/-!
# What a control plane feeds a stream

A control plane that takes commands, and one stream of a gateway node that it feeds, in any
interleaving. The stream looks for news whenever it gets to it, so that it may skip versions,
and notifications may come late and out of order; what it sends is still in order, and each
response comes from a snapshot that was published for its node.
-/
namespace GatewayPlane

namespace Registry
variable {r : Registry}

/-- What a command does to the watches: nothing, or it tells those of a node what is held of
that from now on, or it closes them. -/
theorem perform_watches (hr : r.NoneBare) (c : Command) :
    (c.perform r).2.cache.watches = r.cache.watches ∨
      (∃ node s, (c.perform r).2.cache.held? node = some s ∧
        (c.perform r).2.cache.watches = (r.cache.watches.notify node s).2) ∨
      ∃ node, (c.perform r).2.cache.watches = r.cache.watches.close node := by
  have houtcome := perform_outcome hr c
  generalize c.perform r = x at houtcome
  cases houtcome with
  | failed _ hagrees | idle _ _ hagrees => exact .inl hagrees.published.watches
  | published _ _ _ _ hgains =>
    exact .inr (.inl ⟨c.node, _, hgains.held?.trans (if_pos rfl), hgains.watches⟩)
  | dropped _ _ _ hloses => exact hloses.watches.imp id fun h => .inr ⟨c.node, h⟩

end Registry

/-- The control plane with another cache. -/
def ControlPlane.withCache (c : ControlPlane) (cache : Cache) : ControlPlane :=
  { c with
    registry := { c.registry with published := { c.registry.published with cache := cache } } }

/-- A control plane and one of its streams. -/
structure Feed where
  plane : ControlPlane := {}
  session : Session := {}
  /-- Whether the stream has ended. -/
  isOver : Bool := false
  /-- The snapshots that were published, each with the node that it was published for. -/
  published : List (NodeId × Snapshot) := []
  sent : List Sending := []

namespace Feed

/-- What can happen next. -/
inductive Event where
  | command (x : ControlPlane.Command)
  /-- Another stream begins to watch a node. -/
  | watch (node : NodeId)
  /-- The watches of a node are told, late, of a snapshot that was published some time ago. -/
  | notice (i : Nat)
  /-- The stream receives a request. -/
  | request (r : DiscoveryRequest)
  /-- The stream looks for a newer snapshot. -/
  | wake

def Event.request? : Event → Option DiscoveryRequest
  | request r => some r
  | _ => none

def cache (f : Feed) : Cache := f.plane.registry.cache

def withCache (f : Feed) (cache : Cache) : Feed := { f with plane := f.plane.withCache cache }

/-- The stream sends responses. -/
def send (f : Feed) (session : Session) (pushed : Bool) (responses : List DiscoveryResponse) :
    Feed :=
  { f with session := session, sent := f.sent ++ session.record pushed responses }

/-- The stream ends. -/
def finish (f : Feed) : Feed := { f.withCache (f.session.leave f.cache) with isOver := true }

def step (f : Feed) : Event → Feed
  | .command x =>
    let plane := (x.perform f.plane).2
    { f with
      plane := plane
      published := f.published ++ plane.registry.cache.snapshots.entries }
  | .watch node => f.withCache (f.cache.watch node).2
  | .notice i =>
    match f.published[i]? with
    | none => f
    | some (node, s) =>
      f.withCache { f.cache with watches := (f.cache.watches.notify node s).2 }
  | .request r =>
    if f.isOver then f
    else
      match f.session.receive f.cache r with
      | (.error _, cache) => (f.withCache cache).finish
      | (.ok (response, session), cache) =>
        (f.withCache cache).send session false response.toList
  | .wake =>
    if f.isOver then f
    else
      match f.session.wake f.cache with
      | none => f
      | some (.error _, cache) => (f.withCache cache).finish
      | some (.ok (responses, session), cache) => (f.withCache cache).send session true responses

/-- A control plane and a stream of it after all that has happened to them. -/
def run (gateway : StrategySettings) (number : Nat) (events : List Event) : Feed :=
  events.foldl step { plane := { gateway := gateway }, session := .numbered number }

/-- How far a stream has come: it waits for a first request, or serves the node that this has
named, or is over. -/
inductive Stage (first : Option DiscoveryRequest) (f : Feed) : Prop
  | waiting (first : first = none) (going : f.isOver = false) (unwatched : f.session.watch = none)
      (silent : f.sent = [])
  | serving {r} (first : first = some r) (going : f.isOver = false)
      (attends : f.session.Attends f.cache.watches r.node f.published)
      (orderly : Orderly f.published r.node f.session.current f.sent)
  | ended {r current} (first : first = some r) (isOver : f.isOver = true)
      (orderly : Orderly f.published r.node current f.sent)

/-- What holds whatever has happened. -/
structure Inv (events : List Event) (f : Feed) : Prop where
  noneBare : f.plane.registry.NoneBare
  held : ∀ node s, f.cache.held? node = some s → (node, s) ∈ f.published
  sound : f.cache.watches.Sound f.published
  stage : Stage (events.findSome? Event.request?) f

variable {f : Feed} {events : List Event}

/-- A stream stays where it is while others do something to the watches. -/
theorem Stage.elsewhere {first : Option DiscoveryRequest} {f' : Feed} (h : Stage first f)
    (hsession : f'.session = f.session) (hover : f'.isOver = f.isOver) (hsent : f'.sent = f.sent)
    (hpublished : f.published ⊆ f'.published)
    (hadvances : f.cache.watches.Advances f'.cache.watches) : Stage first f' := by
  cases h with
  | waiting hfirst hgoing hunwatched hsilent =>
    exact .waiting hfirst (hover.trans hgoing) (hsession ▸ hunwatched) (hsent.trans hsilent)
  | serving hfirst hgoing hattends horderly =>
    rw [← hsession] at hattends horderly
    rw [← hsent] at horderly
    exact .serving hfirst (hover.trans hgoing)
      (hattends.elsewhere hpublished fun id _ => hadvances id) (horderly.mono hpublished)
  | ended hfirst hover' horderly =>
    rw [← hsent] at horderly
    exact .ended hfirst (hover.trans hover') (horderly.mono hpublished)

theorem findSome?_append_of_none {e : Event} (h : e.request? = none) :
    (events ++ [e]).findSome? Event.request? = events.findSome? Event.request? := by
  simp [List.findSome?_append, h]

theorem Inv.empty (gateway : StrategySettings) (number : Nat) :
    Inv [] (run gateway number []) where
  noneBare := Registry.Represents.empty.noneBare
  held _ _ := nofun
  sound := .empty
  stage := .waiting rfl rfl rfl rfl

/-- Whatever is done to the watches alone. -/
theorem Inv.watches {e : Event} {c : Cache} (h : Inv events f) (he : e.request? = none)
    (hsnapshots : c.snapshots = f.cache.snapshots) (hsound : c.watches.Sound f.published)
    (hadvances : f.cache.watches.Advances c.watches) : Inv (events ++ [e]) (f.withCache c) where
  noneBare := h.noneBare
  held node s hs := h.held node s (by rwa [Cache.held?, ← hsnapshots])
  sound := hsound
  stage := by
    rw [findSome?_append_of_none he]
    exact h.stage.elsewhere rfl rfl rfl (List.Subset.refl _) hadvances

theorem Inv.command (h : Inv events f) (x : ControlPlane.Command) :
    Inv (events ++ [.command x]) (f.step (.command x)) := by
  have hpublished : f.published ⊆ (f.step (.command x)).published :=
    List.subset_append_left _ _
  have hheld (node : NodeId) (s : Snapshot)
      (hs : (f.step (.command x)).cache.held? node = some s) :
      (node, s) ∈ (f.step (.command x)).published :=
    List.mem_append_right _ (NameMap.mem_entries_iff.2 hs)
  have hsound := h.sound.mono hpublished
  have hplane : (f.step (.command x)).plane.registry.NoneBare ∧
      (f.step (.command x)).cache.watches.Sound (f.step (.command x)).published ∧
      f.cache.watches.Advances (f.step (.command x)).cache.watches := by
    rcases ControlPlane.perform_cases f.plane x with ⟨fault, hx⟩ | ⟨y, -, hx⟩
    · have hsame : (f.step (.command x)).plane = f.plane := congrArg Prod.snd hx
      rw [cache, hsame]
      exact ⟨h.noneBare, hsound, .refl _⟩
    · have hregistry : (f.step (.command x)).plane.registry = (y.perform f.plane.registry).2 :=
        congrArg (·.2.registry) hx
      rw [cache, hregistry] at hheld ⊢
      refine ⟨h.noneBare.perform y, ?_⟩
      rcases Registry.perform_watches h.noneBare y with
        hsame | ⟨node, s, hs, hnotify⟩ | ⟨node, hclose⟩
      · rw [hsame]
        exact ⟨hsound, .refl _⟩
      · rw [hnotify]
        exact hsound.notify (hheld node s hs)
      · rw [hclose]
        exact hsound.close node
  refine ⟨hplane.1, hheld, hplane.2.1, ?_⟩
  rw [findSome?_append_of_none rfl]
  exact h.stage.elsewhere rfl rfl rfl hpublished hplane.2.2

theorem Inv.notice (h : Inv events f) (i : Nat) :
    Inv (events ++ [.notice i]) (f.step (.notice i)) := by
  rw [step]
  cases hentry : f.published[i]? with
  | none => exact h.watches rfl rfl h.sound (.refl _)
  | some entry =>
    obtain ⟨hsound, hadvances⟩ := h.sound.notify (List.mem_of_getElem? hentry)
    exact h.watches rfl rfl hsound hadvances

theorem Inv.watch (h : Inv events f) (node : NodeId) :
    Inv (events ++ [.watch node]) (f.step (.watch node)) := by
  obtain ⟨hsound, hadvances, -⟩ := Cache.watch_sound h.sound (h.held node)
  exact h.watches rfl (Cache.watch_snapshots _ _) hsound hadvances

/-- A stream that serves goes on to serve what it heeds. -/
theorem Inv.send {c : Cache} {r : DiscoveryRequest} {e : Session.Event} {s : Session}
    {later : List Event} (h : Inv events f)
    (hfirst : later.findSome? Event.request? = some r) (hgoing : f.isOver = false)
    (hsnapshots : c.snapshots = f.cache.snapshots) (hsound : c.watches.Sound f.published)
    (hattends : (s.heed e).2.Attends c.watches r.node f.published)
    (horderly : Orderly f.published r.node (s.heed e).2.current
      (f.sent ++ (s.heed e).2.record e.snapshot?.isSome (s.heed e).1)) :
    Inv later ((f.withCache c).send (s.heed e).2 e.snapshot?.isSome (s.heed e).1) where
  noneBare := h.noneBare
  held node x hx := h.held node x (by rwa [Cache.held?, ← hsnapshots])
  sound := hsound
  stage := .serving hfirst hgoing hattends horderly

theorem Inv.finish {c : Cache} {r : DiscoveryRequest} {current : Option Snapshot}
    {later : List Event} (h : Inv events f)
    (hfirst : later.findSome? Event.request? = some r)
    (hsnapshots : c.snapshots = f.cache.snapshots) (hsound : c.watches.Sound f.published)
    (horderly : Orderly f.published r.node current f.sent) :
    Inv later (f.withCache c).finish := by
  have hleave : ((f.withCache c).session.leave (f.withCache c).cache).snapshots = c.snapshots ∧
      ((f.withCache c).session.leave (f.withCache c).cache).watches.Sound f.published := by
    rw [Session.leave]
    split
    · exact ⟨rfl, hsound⟩
    · exact ⟨rfl, hsound.drop _⟩
  exact ⟨h.noneBare, fun node x hx => h.held node x
    (by rwa [Cache.held?, ← hsnapshots, ← hleave.1]), hleave.2, .ended hfirst rfl horderly⟩

theorem Inv.request (h : Inv events f) (r : DiscoveryRequest) :
    Inv (events ++ [.request r]) (f.step (.request r)) := by
  have hfirst' : (events ++ [Event.request r]).findSome? Event.request? =
      (events.findSome? Event.request?).or (some r) := List.findSome?_append ..
  cases h.stage with
  | waiting hfirst hgoing hunwatched hsilent =>
    rw [hfirst, Option.none_or] at hfirst'
    by_cases hr : r.node = ""
    · have hstep : f.step (.request r) = (f.withCache f.cache).finish := by
        simp [step, hgoing, Session.receive_of_unnamed f.cache hunwatched hr]
      rw [hstep]
      have horderly : Orderly f.published r.node none f.sent := by
        rw [hsilent]
        exact .nil _ _ _
      exact h.finish hfirst' rfl h.sound horderly
    · obtain ⟨response, hresponse, hreceive⟩ := Session.receive_first f.cache hunwatched hr
      obtain ⟨hsnapshots, hsound, hattends⟩ :=
        f.session.identify_attends h.sound (h.held r.node)
      have hstep : f.step (.request r) =
          (f.withCache (f.session.identify f.cache r.node).2).send
            ((f.session.identify f.cache r.node).1.heed (.request r)).2 false
            ((f.session.identify f.cache r.node).1.heed (.request r)).1 := by
        simp [step, hgoing, hreceive, hresponse]
      rw [hstep]
      refine h.send (e := .request r) hfirst' hgoing hsnapshots hsound (hattends.heed_request r) ?_
      refine Orderly.heed ?_ (.request r) hattends.current nofun
      rw [hsilent]
      exact .nil _ _ _
  | serving hfirst hgoing hattends horderly =>
    rw [hfirst, Option.some_or] at hfirst'
    obtain ⟨id, -, hwatch, -⟩ := hattends.watch
    obtain ⟨response, hresponse, hreceive⟩ := Session.receive_of_watch f.cache hwatch r
    have hstep : f.step (.request r) =
        (f.withCache f.cache).send (f.session.heed (.request r)).2 false
          (f.session.heed (.request r)).1 := by
      simp [step, hgoing, hreceive, hresponse]
    rw [hstep]
    exact h.send (e := .request r) hfirst' hgoing rfl h.sound (hattends.heed_request r)
      (horderly.heed (.request r) hattends.current nofun)
  | ended hfirst hover horderly =>
    rw [hfirst, Option.some_or] at hfirst'
    have hstep : f.step (.request r) = f := by simp [step, hover]
    rw [hstep]
    exact ⟨h.noneBare, h.held, h.sound, .ended hfirst' hover horderly⟩

theorem Inv.wake (h : Inv events f) : Inv (events ++ [.wake]) (f.step .wake) := by
  have hsame : (events ++ [Event.wake]).findSome? Event.request? =
      events.findSome? Event.request? := findSome?_append_of_none rfl
  have hidle (hstep : f.step .wake = f) : Inv (events ++ [.wake]) (f.step .wake) := by
    rw [hstep]
    exact ⟨h.noneBare, h.held, h.sound, hsame ▸ h.stage⟩
  cases h.stage with
  | waiting hfirst hgoing hunwatched hsilent =>
    exact hidle (by simp [step, hgoing, Session.wake, hunwatched])
  | serving hfirst hgoing hattends horderly =>
    rw [← hsame] at hfirst
    rcases hattends.wake h.sound with hwake | ⟨c, hsnapshots, hsound, hnews⟩
    · exact hidle (by simp [step, hgoing, hwake])
    rcases hnews with ⟨e, hwake⟩ | ⟨x, hwake, hx, hnewer, hattends'⟩
    · have hstep : f.step .wake = (f.withCache c).finish := by simp [step, hgoing, hwake]
      rw [hstep]
      exact h.finish hfirst hsnapshots hsound horderly
    · have hstep : f.step .wake = (f.withCache c).send (f.session.heed (.snapshot x)).2 true
          (f.session.heed (.snapshot x)).1 := by
        simp [step, hgoing, hwake]
      rw [hstep]
      refine h.send (e := .snapshot x) hfirst hgoing hsnapshots hsound hattends' ?_
      refine horderly.heed (.snapshot x) hattends.current ?_
      rintro _ ⟨⟩
      exact ⟨hx, hnewer⟩
  | ended hfirst hover horderly => exact hidle (by simp [step, hover])

theorem Inv.step (h : Inv events f) (e : Event) : Inv (events ++ [e]) (f.step e) := by
  cases e with
  | command x => exact h.command x
  | watch node => exact h.watch node
  | notice i => exact h.notice i
  | request r => exact h.request r
  | wake => exact h.wake

/-- What is put on record was held when it was. -/
theorem mem_step_published {node : NodeId} {s : Snapshot} {e : Event}
    (h : (node, s) ∈ (f.step e).published) :
    (node, s) ∈ f.published ∨ (f.step e).cache.held? node = some s := by
  cases e with
  | command x => exact (List.mem_append.1 h).imp id NameMap.mem_entries_iff.1
  | watch node => exact .inl h
  | notice i =>
    left
    rw [step] at h
    split at h <;> exact h
  | request r =>
    left
    rw [step] at h
    split at h
    · exact h
    · split at h <;> exact h
  | wake =>
    left
    rw [step] at h
    split at h
    · exact h
    · split at h <;> exact h

/-- What each step keeps, a whole run keeps. -/
theorem run_keeps {P : List Event → Feed → Prop} (gateway : StrategySettings) (number : Nat)
    (h : P [] (run gateway number []))
    (hstep : ∀ events e, P events (run gateway number events) →
      P (events ++ [e]) ((run gateway number events).step e)) (events : List Event) :
    P events (run gateway number events) := by
  have hrest (rest : List Event) : ∀ done, P done (run gateway number done) →
      P (done ++ rest) (run gateway number (done ++ rest)) := by
    induction rest with
    | nil =>
      intro done h
      rwa [List.append_nil]
    | cons e rest ih =>
      intro done h
      have hnext : run gateway number (done ++ [e]) = (run gateway number done).step e := by
        rw [run, List.foldl_append]
        rfl
      rw [List.append_cons]
      exact ih _ (hnext ▸ hstep done e h)
  exact hrest events [] h

theorem run_inv (gateway : StrategySettings) (number : Nat) (events : List Event) :
    Inv events (run gateway number events) :=
  run_keeps gateway number (.empty gateway number) (fun _ e h => h.step e) events

/-- Whatever is on record was held in the cache at some time. -/
theorem exists_held_of_mem_published {gateway : StrategySettings} {number : Nat} {node : NodeId}
    {s : Snapshot} {events : List Event} (h : (node, s) ∈ (run gateway number events).published) :
    ∃ earlier, earlier <+: events ∧ (run gateway number earlier).cache.held? node = some s := by
  refine run_keeps (P := fun events f => (node, s) ∈ f.published → ∃ earlier,
    earlier <+: events ∧ (run gateway number earlier).cache.held? node = some s)
    gateway number nofun (fun events e ih hmem => ?_) events h
  rcases mem_step_published hmem with hbefore | hnow
  · obtain ⟨earlier, hprefix, hheld⟩ := ih hbefore
    exact ⟨earlier, hprefix.trans (List.prefix_append _ _), hheld⟩
  · refine ⟨events ++ [e], List.prefix_rfl, ?_⟩
    rw [run, List.foldl_append]
    exact hnow

/-- A request that names another node changes nothing. -/
theorem step_of_foreign {r : DiscoveryRequest} {ws : Watches} {node : NodeId}
    (h : f.session.Attends ws node f.published) (hgoing : f.isOver = false) (hr : r.node ≠ "")
    (hother : r.node ≠ node) : f.step (.request r) = f := by
  have hforeign : f.session.isForeign r = true := by
    simp [Session.isForeign, h.identified, hr, Ne.symm hother]
  obtain ⟨id, -, hwatch, -⟩ := h.watch
  have hreceive : f.session.receive f.cache r = (.ok (none, f.session), f.cache) := by
    simp [Session.receive, hwatch, hforeign]
  have hstep : f.step (.request r) = (f.withCache f.cache).send f.session false [] := by
    simp [step, hgoing, hreceive]
  rw [hstep, send, Session.record, List.map_nil, List.append_nil]
  rfl

/-- However commands, late notifications, requests and looking for news alternate: what the
stream of a node sends has the version of a snapshot that the cache has held for the node, and
of its resources just those that are subscribed to then. The versions of a kind never go back,
and those that are pushed only go up. Requests for other nodes are as if they had not come. -/
theorem run_serves (gateway : StrategySettings) (number : Nat) (events : List Event)
    {node : NodeId}
    (hfirst : (events.findSome? Event.request?).map (·.node) = some node) :
    let f := run gateway number events
    (∀ x ∈ f.sent, ∃ earlier s, earlier <+: events ∧
      (run gateway number earlier).cache.held? node = some s ∧
      x.response.version = s.version ∧
      x.response.version.text = toString s.version.number.toNat ∧
      x.response.payloads =
        s.encoded x.response.kind (if x.names.contains "*" then [] else x.names)) ∧
    (∀ k, (f.sent.filter (·.response.kind = k)).Pairwise
      fun x y => x.response.version ≤ y.response.version) ∧
    (∀ k, (f.sent.filter fun x => x.pushed && x.response.kind = k).Pairwise
      fun x y => x.response.version < y.response.version) ∧
    ∀ r : DiscoveryRequest, r.node ≠ "" → r.node ≠ node → f.step (.request r) = f := by
  intro f
  obtain ⟨⟨current, horderly⟩, hforeign⟩ : (∃ current, Orderly f.published node current f.sent) ∧
      ∀ r : DiscoveryRequest, r.node ≠ "" → r.node ≠ node → f.step (.request r) = f := by
    cases (run_inv gateway number events).stage with
    | waiting hnone =>
      rw [hnone] at hfirst
      cases hfirst
    | serving hsome hgoing hattends horderly =>
      rw [hsome] at hfirst
      cases hfirst
      exact ⟨⟨_, horderly⟩, fun r => step_of_foreign hattends hgoing⟩
    | ended hsome hover horderly =>
      rw [hsome] at hfirst
      cases hfirst
      exact ⟨⟨_, horderly⟩, fun r _ _ => by rw [step, if_pos hover]⟩
  refine ⟨fun x hx => ?_, fun k => horderly.ordered.filter _, horderly.pushed, hforeign⟩
  obtain ⟨s, hs, hversion, hpayloads⟩ := horderly.source x hx
  obtain ⟨earlier, hprefix, hheld⟩ := exists_held_of_mem_published hs
  exact ⟨earlier, s, hprefix, hheld, hversion, by rw [hversion, Version.text], hpayloads⟩

/-- A stream that subscribes to clusters and listeners before there is a second version. -/
def servedBooks : List Event :=
  [.command (.listen "edge" 8080),
    .request { node := "edge", typeUrl := TypeUrl.cluster, names := ["*"] },
    .request { typeUrl := TypeUrl.listener },
    .command (.deploy (ControlPlane.booksDeployment "books" false) ControlPlane.booksApi),
    .notice 0, .wake]

theorem run_serves_books :
    let f := run {} 7 servedBooks
    f.sent.map (fun x => (x.response.kind, x.response.version, x.pushed)) =
      [(.cluster, ⟨1⟩, false), (.listener, ⟨1⟩, false), (.cluster, ⟨2⟩, true),
        (.listener, ⟨2⟩, true)] ∧
    (∀ x ∈ f.sent, ∃ earlier s, earlier <+: servedBooks ∧
      (run {} 7 earlier).cache.held? "edge" = some s ∧ x.response.version = s.version ∧
      x.response.payloads =
        s.encoded x.response.kind (if x.names.contains "*" then [] else x.names)) ∧
    f.step (.request { node := "elsewhere", typeUrl := TypeUrl.cluster }) = f := by
  have hsent : (run {} 7 servedBooks).sent.map
      (fun x => (x.response.kind, x.response.version, x.pushed)) =
        [(.cluster, ⟨1⟩, false), (.listener, ⟨1⟩, false), (.cluster, ⟨2⟩, true),
          (.listener, ⟨2⟩, true)] := by
    decide +kernel
  have hfirst : (servedBooks.findSome? Event.request?).map (·.node) = some "edge" := rfl
  obtain ⟨hserved, -, -, hforeign⟩ := run_serves {} 7 servedBooks hfirst
  refine ⟨hsent, fun x hx => ?_, hforeign _ (by decide) (by decide)⟩
  obtain ⟨earlier, s, hprefix, hheld, hversion, -, hpayloads⟩ := hserved x hx
  exact ⟨earlier, s, hprefix, hheld, hversion, hpayloads⟩

end Feed

end GatewayPlane
