import GatewayPlane.Proofs.ControlPlane.Listing

/-!
# Calls that fail

A call that fails leaves the control plane as it was, but for the counters of its cache. The
reason is that no node is ever kept of which nothing is known, so that forgetting such a
node after a failure cannot take away one that was there before.
-/
namespace GatewayPlane

namespace Registry
variable {r r' : Registry}

/-- The registry with other counters. -/
def withStats (r : Registry) (stats : CacheStats) : Registry :=
  { r with published := { r.published with cache := { r.cache with stats := stats } } }

theorem Agrees.eq_withStats (h : r.Agrees r') : r' = r.withStats r'.cache.stats := by
  obtain ⟨nodes, ⟨snapshots, watches, stats⟩, versions⟩ := r
  obtain ⟨nodes', ⟨snapshots', watches', stats'⟩, versions'⟩ := r'
  obtain ⟨hnodes, hsnapshots, hversions, -, hwatches⟩ := h
  dsimp only at hnodes hsnapshots hversions hwatches
  rw [hnodes, hsnapshots, hversions, hwatches]
  rfl

theorem NoneBare.perform (hr : r.NoneBare) (c : Command) : (c.perform r).2.NoneBare := by
  intro node e he
  have houtcome := perform_outcome hr c
  generalize c.perform r = x at houtcome he
  cases houtcome with
  | failed _ hagrees | idle _ _ hagrees =>
    rw [hagrees.nodes] at he
    exact hr node e he
  | published _ hknown _ hnodes _ =>
    rw [hnodes, NameMap.get?_insert] at he
    split at he
    · cases he
      exact hknown
    · exact hr node e he
  | dropped _ _ hnodes _ =>
    rw [hnodes, NameMap.get?_erase] at he
    split at he
    · cases he
    · exact hr node e he

/-- A command that fails changes nothing that is known, held or watched. -/
theorem agrees_of_error (hr : r.NoneBare) {c : Command} {f : Fault}
    (h : (c.perform r).1 = .error f) : r.Agrees (c.perform r).2 := by
  have houtcome := perform_outcome hr c
  generalize c.perform r = x at houtcome h
  cases houtcome with
  | failed _ hagrees => exact hagrees
  | idle | published | dropped => cases h

end Registry

namespace ControlPlane

/-- What happens to a control plane in the course of time. -/
inductive Event where
  | command (x : Command)
  /-- Its registry is given a command of its own, with resources from anywhere. -/
  | registry (x : Registry.Command)
  /-- Something is done to its cache, as by those who read or watch it. -/
  | cache (work : Cache → Cache)

def Event.apply : Event → ControlPlane → ControlPlane
  | command x, c => (x.perform c).2
  | registry x, c => { c with registry := (x.perform c.registry).2 }
  | cache work, c => { c with registry := (c.registry.onCache fun k => ((), work k)).2 }

/-- The control plane of a gateway after all that has happened to it. -/
def reach (gateway : StrategySettings) (events : List Event) : ControlPlane :=
  events.foldl (fun c e => e.apply c) { gateway := gateway }

/-- The control plane with other counters. -/
def withStats (c : ControlPlane) (stats : CacheStats) : ControlPlane :=
  { c with registry := c.registry.withStats stats }

theorem Event.apply_noneBare {c : ControlPlane} (e : Event) (h : c.registry.NoneBare) :
    (e.apply c).registry.NoneBare := by
  cases e with
  | command x =>
    rcases perform_cases c x with ⟨f, hx⟩ | ⟨y, -, hx⟩
    · rw [apply, hx]
      exact h
    · rw [apply, hx]
      exact h.perform y
  | registry x => exact h.perform x
  -- whatever is done to the cache, the nodes stay the same
  | cache work => exact h

theorem reach_noneBare (gateway : StrategySettings) (events : List Event) :
    (reach gateway events).registry.NoneBare :=
  List.foldlRecOn (motive := fun c : ControlPlane => c.registry.NoneBare) events _
    Registry.Represents.empty.noneBare fun _ h e _ => e.apply_noneBare h

/-- Whatever has happened to a control plane before, a call that fails, at whichever point,
changes no more than counters: neither the nodes and their deployments, nor the snapshots
that are held, nor the versions that come next, nor what the watches have to deliver. -/
theorem reach_atomic (gateway : StrategySettings) (events : List Event) (x : Command) {f : Fault}
    (h : (x.perform (reach gateway events)).1 = .error f) :
    let c := reach gateway events
    let c' := (x.perform c).2
    c' = c.withStats c'.registry.cache.stats ∧
    c'.registry.listNodes = c.registry.listNodes ∧
    (∀ node, c'.registry.listDeployments node = c.registry.listDeployments node) ∧
    (∀ node, c'.registry.cache.held? node = c.registry.cache.held? node) ∧
    (∀ node, (c'.registry.published.nextVersion node).1 =
      (c.registry.published.nextVersion node).1) ∧
    ∀ id, (c'.registry.cache.watches.poll id).1 = (c.registry.cache.watches.poll id).1 ∧
      (c'.registry.cache.watches.latest id).1 = (c.registry.cache.watches.latest id).1 := by
  intro c c'
  have hagrees : c.registry.Agrees c'.registry ∧ c'.gateway = c.gateway := by
    rcases perform_cases c x with ⟨g, hx⟩ | ⟨y, -, hx⟩
    · rw [show c' = c from congrArg Prod.snd hx]
      exact ⟨.refl _, rfl⟩
    · rw [show c' = _ from congrArg Prod.snd hx]
      have hreply : (y.perform c.registry).1 = .error f := (congrArg Prod.fst hx).symm.trans h
      exact ⟨Registry.agrees_of_error (reach_noneBare gateway events) hreply, rfl⟩
  obtain ⟨hagrees, hgateway⟩ := hagrees
  refine ⟨?_, ?_, fun node => ?_, hagrees.published.held?, hagrees.published.nextVersion,
    fun id => ?_⟩
  · have hregistry := hagrees.eq_withStats
    rw [withStats, ← hregistry, ← hgateway]
  · rw [Registry.listNodes, hagrees.nodes, Registry.listNodes]
  · rw [Registry.listDeployments, hagrees.nodes, Registry.listDeployments]
  · rw [Registry.cache, hagrees.published.watches, Registry.cache]
    exact ⟨rfl, rfl⟩

/-- A deployment on the node "edge", which may ask for a listener of its own. -/
def booksDeployment (id : String) (ownListener : Bool) : Deployment := .ofInfo id default {
  name := id
  version := "v1"
  backend := { host := "books.internal", port := 8080 }
  gateway := { nodeId := "edge", port := 8080, dedicatedListener := ownListener } }

def booksApi : Api where
  info := { name := "books", version := "v1", basePath := some "/books" }
  operations := [{ id := "list", method := "GET", pathPattern := "/items" }]

/-- A node that listens, has a deployment, and is watched. -/
def watchedBooks : List Event :=
  [.command (.listen "edge" 8080), .command (.deploy (booksDeployment "books" false) booksApi),
    .cache fun k => (k.watch "edge").2]

/-- A second deployment wants to listen where the node listens already. -/
theorem reach_atomic_books :
    let c := reach {} watchedBooks
    let x := Command.deploy (booksDeployment "journals" true) booksApi
    let c' := (x.perform c).2
    (x.perform c).1 = .error (.consistency "edge"
      "listeners flowc_default_listener and journals-v1-listener both bind 0.0.0.0:8080") ∧
    c.registry.listNodes = ["edge"] ∧ c'.registry.listNodes = c.registry.listNodes ∧
    (c.registry.cache.held? "edge").map (·.version) = some ⟨2⟩ ∧
    c'.registry.cache.held? "edge" = c.registry.cache.held? "edge" ∧
    (c.registry.cache.watches.latest 0).1.map (·.version) = some ⟨2⟩ ∧
    (c'.registry.cache.watches.latest 0).1 = (c.registry.cache.watches.latest 0).1 := by
  have hreply : ((Command.deploy (booksDeployment "journals" true) booksApi).perform
      (reach {} watchedBooks)).1 = .error (.consistency "edge"
        "listeners flowc_default_listener and journals-v1-listener both bind 0.0.0.0:8080") := by
    decide +kernel
  have hbefore : (reach {} watchedBooks).registry.listNodes = ["edge"] ∧
      ((reach {} watchedBooks).registry.cache.held? "edge").map (·.version) = some ⟨2⟩ ∧
      ((reach {} watchedBooks).registry.cache.watches.latest 0).1.map (·.version) = some ⟨2⟩ := by
    decide +kernel
  obtain ⟨hlisted, hversion, hlatest⟩ := hbefore
  obtain ⟨-, hnodes, -, hheld, -, hwatches⟩ := reach_atomic {} watchedBooks _ hreply
  exact ⟨hreply, hlisted, hnodes, hversion, hheld "edge", hlatest, (hwatches 0).2⟩

end ControlPlane

end GatewayPlane
