import GatewayPlane.Proofs.Provision.Settings
import GatewayPlane.Provision.Phases
import Mathlib.Data.List.Forall2
import Mathlib.Data.List.Nodup

/-!
# Routes as the image of an API

Each operation of an API has one route, which says what a gateway has to know of it: which
requests it takes, where they go and in which shares, how long they may take, what is upgraded
and what is tried again. Routes are made in one phase and given their retries in another; the
phases after that leave them as they are.
-/
namespace GatewayPlane
open Checks

/-! ## What a route has to say -/

/-- Whether requests are forwarded as an operation, its deployment and settings ask. -/
structure Forwarding.Mirrors (s : ResolvedSettings) (d : Deployment) (target : ClusterSpecifier)
    (a : Forwarding) (o : Operation) : Prop where
  specifier : a.specifier = some target
  timeout : Option.Rel WireDuration.Writes a.timeout (o.timeout <|>
    (if o.interaction ∈ [.grpcServerStream, .grpcClientStream, .grpcBidirectional,
      .graphqlSubscription, .websocket, .sse] then some .zero else none) <|> d.backend.timeout)
  upgrades : a.upgrades = if o.interaction = .websocket then [⟨"websocket", some true⟩] else []
  retry : s.retry.Grants a.retry
  hashPolicies : s.loadBalancing.Hashes a.hashPolicies

/-- Whether a route is that of an operation, below a base path and for a version. -/
structure Route.Mirrors (s : ResolvedSettings) (version : String) (d : Deployment) (base : String)
    (target : ClusterSpecifier) (route : Route) (o : Operation) : Prop where
  name : route.name = s!"{d.name}-{d.version}-{o.id}"
  criteria : ∃ m, route.criteria = some m ∧
    s.routeMatching.Asks version (Path.join base o.pathPattern) o.method m
  forwards : ∃ a, route.action = some (.forward a) ∧ a.Mirrors s d target o

/-- Whether the routes of a bundle are the image of an API, which settings spread over the
clusters of the bundle: there is one for each operation, in their order, all below the path at
which the API is mounted, and no two have one name. -/
def Bundle.Mirrors (s : ResolvedSettings) (version : String) (d : Deployment) (api : Api)
    (b : Bundle) : Prop :=
  ∃ base target routes, d.MountsAt api base ∧
    s.deployment.Spreads d (b.clusters.map (·.name)) target ∧
    b.routes = [⟨
      if d.gateway.dedicatedListener then s!"{d.name}-{d.version}-route"
        else "flowc_default_route",
      [⟨d.gateway.virtualHostName.getD s!"{d.name}-{d.version}-vhost",
        if d.gateway.domains.isEmpty then ["*"] else d.gateway.domains, routes⟩]⟩] ∧
    List.Forall₂ (Route.Mirrors s version d base target) routes api.operations ∧
    (routes.map (·.name)).Nodup

section Unique
variable {s : ResolvedSettings} {version : String} {d : Deployment} {o : Operation}

theorem Forwarding.Mirrors.unique {target : ClusterSpecifier} {a a' : Forwarding}
    (h : a.Mirrors s d target o) (h' : a'.Mirrors s d target o) : a = a' := by
  have htimeout := (WireDuration.rel_writes_iff.1 h.timeout).trans
    (WireDuration.rel_writes_iff.1 h'.timeout).symm
  cases a
  cases a'
  rw [Forwarding.mk.injEq]
  exact ⟨h.specifier.trans h'.specifier.symm, htimeout, h.retry.unique h'.retry,
    h.hashPolicies.unique h'.hashPolicies, h.upgrades.trans h'.upgrades.symm⟩

theorem Route.Mirrors.unique {base : String} {target : ClusterSpecifier} {route route' : Route}
    (h : route.Mirrors s version d base target o)
    (h' : route'.Mirrors s version d base target o) : route = route' := by
  obtain ⟨m, hm, hasks⟩ := h.criteria
  obtain ⟨m', hm', hasks'⟩ := h'.criteria
  obtain ⟨a, ha, hmirrors⟩ := h.forwards
  obtain ⟨a', ha', hmirrors'⟩ := h'.forwards
  rw [← hasks.unique hasks'] at hm'
  rw [← hmirrors.unique hmirrors'] at ha'
  cases route
  cases route'
  rw [Route.mk.injEq]
  exact ⟨h.name.trans h'.name.symm, hm.trans hm'.symm, ha.trans ha'.symm⟩

/-- Nothing of the routes is left open. -/
theorem Bundle.Mirrors.routes_eq {api : Api} {b b' : Bundle} (h : b.Mirrors s version d api)
    (h' : b'.Mirrors s version d api) : b.routes = b'.routes := by
  obtain ⟨base, target, routes, hmounts, hspreads, hroutes, himage, -⟩ := h
  obtain ⟨base', target', routes', hmounts', hspreads', hroutes', himage', -⟩ := h'
  obtain rfl : base = base' :=
    (Provisioner.mountsAt_iff.1 hmounts).trans (Provisioner.mountsAt_iff.1 hmounts').symm
  obtain rfl : target = target' := (hspreads.unique hspreads').2
  have hunique : Relator.LeftUnique (Route.Mirrors s version d base target) :=
    fun _ _ _ h h' => h.unique h'
  rw [hroutes, hroutes', List.left_unique_forall₂' hunique himage himage']

end Unique

namespace Provisioner
variable {p : Provisioner} {r : Rollout} {s : ResolvedSettings} {d₀ d : Deployment} {api : Api}
  {b : Bundle}

theorem timeout_eq (d : Deployment) (o : Operation) : timeout d o = (o.timeout <|>
    (if o.interaction ∈ [.grpcServerStream, .grpcClientStream, .grpcBidirectional,
      .graphqlSubscription, .websocket, .sse] then some .zero else none) <|>
    d.backend.timeout) := by
  unfold timeout
  cases o.timeout with
  | some limit => rfl
  | none => cases o.interaction <;> rfl

theorem forwarding_mirrors (hp : p.ChosenBy r s d₀) (d : Deployment) (o : Operation) :
    { p.forwarding d o with retry := p.retrying.policy? }.Mirrors s d (r.target d).specifier o := by
  constructor
  case specifier =>
    change some (p.deployment.target d).specifier = _
    rw [hp.deployment]
    rfl
  case timeout =>
    rw [← timeout_eq]
    exact WireDuration.rel_writes_iff.2 rfl
  case upgrades =>
    change (if o.interaction.isWebsocket then [Upgrade.websocket true] else []) = _
    simp [Interaction.isWebsocket, Upgrade.websocket]
  case retry => exact Retrying.grants_of_ofSettings hp.retrying
  case hashPolicies => exact Balancing.hashes_of_ofSettings hp.balancing

theorem apply_route_mirrors (hp : p.ChosenBy r s d₀) (d : Deployment) (base : String)
    (o : Operation) : (p.retrying.apply (p.route d base o)).Mirrors s d₀.version d base
      (r.target d).specifier o := by
  rw [apply_route, criteria, Matching.criteria_toUpper]
  refine ⟨rfl, ⟨_, rfl, ?_⟩, _, rfl, forwarding_mirrors hp d o⟩
  exact Matching.asks_of_ofSettings hp.matching (Path.join base o.pathPattern) o.method

theorem mirrors_of_provision (hp : p.ChosenBy r s d₀) (h : p.provision d api = .ok b) :
    b.Mirrors s d₀.version d api := by
  have hr := Rollout.ofSettings_checked hp.rollout
  obtain ⟨-, routes, -, hroutes, -, hconfigurations⟩ := provision_eq_ok h
  obtain ⟨-, hapi, -⟩ := (exists_provision_iff hp.deployment hr).1 ⟨b, h⟩
  rw [routes_eq_map hroutes, List.map_map] at hconfigurations
  refine ⟨basePath d api, (r.target d).specifier, _, mountsAt_iff.2 rfl, ?_, hconfigurations,
    ?_, ?_⟩
  · rw [clusterNames_of_provision hp.deployment h]
    exact Rollout.spreads_of_ofSettings hp.rollout d
  · rw [List.forall₂_map_left_iff, List.forall₂_same]
    exact fun o _ => apply_route_mirrors hp d (basePath d api) o
  · have hnames : (api.operations.map (p.retrying.apply ∘ p.route d (basePath d api))).map
        (·.name) = (api.operations.map (·.id)).map fun id => s!"{d.name}-{d.version}-{id}" := by
      rw [List.map_map, List.map_map]
      exact List.map_congr_left fun o _ => (apply_route_mirrors hp d (basePath d api) o).name
    rw [hnames]
    exact List.Nodup.map (fun id id' hid => by simpa [toString] using hid) hapi.distinct

end Provisioner

/-! ## The later phases -/

/-- The route without the retries of its requests. -/
def Route.withoutRetry (r : Route) : Route :=
  match r.action with
  | some (.forward a) => { r with action := some (.forward { a with retry := none }) }
  | _ => r

theorem Retrying.withoutRetry_apply (retrying : Retrying) (r : Route) :
    (retrying.apply r).withoutRetry = r.withoutRetry := by
  obtain ⟨name, criteria, action⟩ := r
  unfold apply
  cases retrying.policy? with
  | none => rfl
  | some policy =>
    cases action with
    | none => rfl
    | some action => cases action <;> rfl

theorem Bundle.mapRoutes_mapRoutes (f g : Route → Route) (b : Bundle) :
    (b.mapRoutes f).mapRoutes g = b.mapRoutes (g ∘ f) := by
  simp [mapRoutes, Function.comp_def]

namespace Provisioner

theorem retried_withoutRetry (p : Provisioner) (b : Bundle) :
    (p.retried b).mapRoutes .withoutRetry = b.mapRoutes .withoutRetry := by
  rw [retried, Bundle.mapRoutes_mapRoutes]
  exact congrArg b.mapRoutes (funext p.retrying.withoutRetry_apply)

theorem limited_eq (p : Provisioner) (b : Bundle) : p.limited b = b := by
  obtain ⟨clusters, endpoints, listeners, routes⟩ := b
  unfold limited
  cases p.rateLimiting
  cases listeners <;> rfl

theorem observed_eq (p : Provisioner) (b : Bundle) : p.observed b = b := by
  obtain ⟨clusters, endpoints, listeners, routes⟩ := b
  unfold observed
  cases p.observing
  cases listeners <;> rfl

/-- Provisioning is one phase after the other. -/
theorem provision_eq_phases (p : Provisioner) (d : Deployment) (api : Api) :
    p.provision d api =
      (p.drafted d api).map fun b => p.observed (p.limited (listening d (p.retried b))) := by
  unfold provision drafted routeConfiguration
  cases p.check d api with
  | error => rfl
  | ok =>
    cases p.clusters d with
    | error => rfl
    | ok clusters =>
      cases p.routes d (basePath d api) [] api.operations with
      | error => rfl
      | ok routes =>
        -- nothing can fail any more
        simp only [observed_eq, limited_eq]
        rfl

/-- The later phases change nothing but the listeners and the retries of the routes. -/
theorem exists_drafted {p : Provisioner} {d : Deployment} {api : Api} {b : Bundle}
    (h : p.provision d api = .ok b) :
    ∃ draft, p.drafted d api = .ok draft ∧
      p.observed (p.limited (listening d (p.retried draft))) = b ∧
      b.mapRoutes .withoutRetry =
        { draft.mapRoutes .withoutRetry with listeners := listeners d } := by
  have hlisteners := listeners_of_provision h
  rw [provision_eq_phases, map_eq_ok] at h
  obtain ⟨draft, hdraft, hb⟩ := h
  refine ⟨draft, hdraft, hb, ?_⟩
  have hlater : b = listening d (p.retried draft) := by
    rw [← hb, observed_eq, limited_eq]
  calc b.mapRoutes .withoutRetry
      = { (p.retried draft).mapRoutes .withoutRetry with listeners := b.listeners } := by
        rw [hlater]
        rfl
    _ = { draft.mapRoutes .withoutRetry with listeners := listeners d } := by
        rw [retried_withoutRetry, hlisteners]

end Provisioner

/-- Strategies chosen by settings make a provisioner whose routes are the image of the API, and no
others are: one for each operation, as the operation, its deployment and the settings ask. All
that is done after the routes are made is to give them their retries, and to make a listener. -/
theorem StrategySet.mirrors {s : ResolvedSettings} {d₀ : Deployment} {strategies : StrategySet}
    (h : StrategySet.ofSettings s d₀ = .ok strategies) :
    ∃ p, Provisioner.ofStrategies strategies = .ok p ∧ ∀ d api b, p.provision d api = .ok b →
      b.Mirrors s d₀.version d api ∧
      (∀ b' : Bundle, b'.Mirrors s d₀.version d api → b'.routes = b.routes) ∧
      ∃ draft, p.drafted d api = .ok draft ∧
        p.observed (p.limited (Provisioner.listening d (p.retried draft))) = b ∧
        b.mapRoutes .withoutRetry =
          { draft.mapRoutes .withoutRetry with listeners := Provisioner.listeners d } := by
  obtain ⟨p, r, hmade, hchosen⟩ := exists_chosen h
  refine ⟨p, hmade, fun d api b hb => ?_⟩
  have hmirrors := Provisioner.mirrors_of_provision hchosen hb
  exact ⟨hmirrors, fun b' hb' => hb'.routes_eq hmirrors, Provisioner.exists_drafted hb⟩

/-- Three in ten requests try the next version. All say which version they are for, and some are
tried again. -/
def cautiousSettings : ResolvedSettings :=
  { ResolvedSettings.builtin with
    deployment := { type := "Canary", canary := some ⟨"v1", "v2", 30⟩ }
    routeMatching := { type := " Header_Versioned ", caseSensitive := false }
    retry := {
      type := "custom"
      maxRetries := some 2
      retryOn := some "5xx, reset"
      perTryTimeout := some (.ofMillis 250)
      statusCodes := [503] } }

def shelfDeployment : Deployment := .ofInfo "books" default {
  name := "books"
  version := "v1"
  context := "shelf/"
  backend := { host := "books.internal", port := 8080, timeout := some (.ofSeconds 9) }
  gateway := { nodeId := "edge", domains := ["books.example"] } }

def readOnShelf : Operation := .ofPattern "read" "get" "/\x7bisbn\x7d"

def watchOnShelf : Operation :=
  { Operation.ofPattern "watch" "get" "/\x7bisbn\x7d/readers" with interaction := .websocket }

/-- Books that can be read, and watched while they are. -/
def shelfApi (own : Option String) : Api where
  info := { name := "books", version := "v1", basePath := own }
  operations := [readOnShelf, watchOnShelf]

def shelfRoute (id path : String) (timeout : WireDuration) (upgrades : List Upgrade) : Route where
  name := s!"books-v1-{id}"
  criteria := some ⟨some (.startsWith path), some false,
    [⟨":method", some "GET"⟩, ⟨"x-api-version", some "v1"⟩]⟩
  action := some (.forward {
    specifier := some (.weighted [⟨"books-v1-cluster", some 70⟩, ⟨"books-v2-cluster", some 30⟩])
    timeout := some timeout
    retry := some {
      retryOn := "5xx, reset,retriable-status-codes"
      numRetries := some 2
      perTryTimeout := some ⟨0, 250000000⟩
      statusCodes := [503] }
    upgrades := upgrades })

/-- What serves them below a path. -/
def shelfBundle (base : String) : Bundle where
  clusters := [.ofBackend "books-v1-cluster" "books.internal" 8080 .http,
    .ofBackend "books-v2-cluster" "books.internal" 8080 .http]
  routes := [⟨"flowc_default_route", [⟨"books-v1-vhost", ["books.example"],
    [shelfRoute "read" (base ++ "/\x7bisbn\x7d") ⟨9, 0⟩ [],
      shelfRoute "watch" (base ++ "/\x7bisbn\x7d/readers") ⟨0, 0⟩
        [⟨"websocket", some true⟩]]⟩]⟩]

theorem shelfRoute_mirrors {o : Operation} {limit : Span} (base : String)
    (hmethod : o.method.toUpper = "GET")
    (hlimit : Provisioner.timeout shelfDeployment o = some limit) :
    (shelfRoute o.id (Path.join base o.pathPattern) (.ofSpan limit)
      (if o.interaction = .websocket then [⟨"websocket", some true⟩] else [])).Mirrors
        cautiousSettings "v1" shelfDeployment base
        (.weighted [⟨"books-v1-cluster", some 70⟩, ⟨"books-v2-cluster", some 30⟩]) o := by
  have hmatching : Choice.spelling cautiousSettings.routeMatching.type = "header-versioned" := by
    decide +kernel
  have hheader : cautiousSettings.routeMatching.VersionHeader "x-api-version" :=
    .usual (by simp [cautiousSettings])
  have hretry : Choice.spelling cautiousSettings.retry.type = "custom" := by decide +kernel
  refine ⟨rfl, ⟨_, rfl, ?_⟩, _, rfl, ?_⟩
  · rw [← hmethod]
    exact .versioned hmatching hheader
  constructor
  case specifier => rfl
  case timeout =>
    rw [← Provisioner.timeout_eq, hlimit]
    exact WireDuration.rel_writes_iff.2 rfl
  case upgrades => rfl
  case retry =>
    refine .custom hretry ?_
    constructor
    case numRetries => exact ⟨2, rfl, rfl⟩
    case asked =>
      rw [← CustomRetry.lists_iff]
      decide +kernel
    case added => exact fun _ _ => rfl
    case perTryTimeout => exact WireDuration.rel_writes_iff.2 rfl
    case hostPredicates | statusCodes | backOff => rfl
  case hashPolicies => exact .nothing (by decide +kernel)

/-- They are mounted under the path of the API, or that of the shelf when it is blank. -/
theorem StrategySet.mirrors_shelf : ∃ strategies p,
    StrategySet.ofSettings cautiousSettings shelfDeployment = .ok strategies ∧
    Provisioner.ofStrategies strategies = .ok p ∧
    ∀ own base, (own, base) ∈ [(some " library/ ", "/library"), (some " ", "/shelf")] →
      ∃ b, p.provision shelfDeployment (shelfApi own) = .ok b ∧
        b.routes = (shelfBundle base).routes := by
  obtain ⟨strategies, h⟩ : ∃ s, StrategySet.ofSettings cautiousSettings shelfDeployment = .ok s :=
    ⟨_, rfl⟩
  obtain ⟨p, hmade, hmirrors⟩ := StrategySet.mirrors h
  refine ⟨strategies, p, h, hmade, fun own base hown => ?_⟩
  obtain ⟨p', r, hmade', hchosen⟩ := exists_chosen h
  obtain rfl : p = p' := Except.ok.inj (hmade.symm.trans hmade')
  have hr := Rollout.ofSettings_checked hchosen.rollout
  have hmatching : .headerVersioned "x-api-version" "v1" false = p.matching :=
    Except.ok.inj hchosen.matching
  have hcomplete : shelfDeployment.Complete := by constructor <;> decide +kernel
  obtain ⟨hapi, hdistinct, hbase, hread, hwatch⟩ : (shelfApi own).WellFormed ∧
      ((shelfApi own).operations.map fun o =>
        (p.criteria (Provisioner.basePath shelfDeployment (shelfApi own)) o).folded).Nodup ∧
      base = Provisioner.basePath shelfDeployment (shelfApi own) ∧
      base ++ "/\x7bisbn\x7d" = Path.join base "/\x7bisbn\x7d" ∧
      base ++ "/\x7bisbn\x7d/readers" = Path.join base "/\x7bisbn\x7d/readers" := by
    simp only [Provisioner.criteria, ← hmatching, ← Api.check_eq_ok_iff]
    rcases List.mem_pair.1 hown with heq | heq <;> cases heq <;> decide +kernel
  obtain ⟨b, hb⟩ := (Provisioner.exists_provision_iff hchosen.deployment hr).2
    ⟨hcomplete, hapi, hdistinct⟩
  obtain ⟨-, hunique, -⟩ := hmirrors shelfDeployment (shelfApi own) b hb
  have hshares : (⟨"v1", "v2", 30⟩ : CanarySettings).Shares "books-v1-cluster" "books-v2-cluster"
      (.weighted [⟨"books-v1-cluster", some 70⟩, ⟨"books-v2-cluster", some 30⟩]) :=
    .both (by decide) (by decide) (by decide)
  have htype : Choice.spelling cautiousSettings.deployment.type = "canary" := by decide +kernel
  refine ⟨b, hb, (hunique (shelfBundle base) ⟨base, _, _, Provisioner.mountsAt_iff.2 hbase,
    .canary htype rfl hshares, rfl, ?_, ?_⟩).symm⟩
  · have hlimit : Provisioner.timeout shelfDeployment readOnShelf = some (.ofSeconds 9) := rfl
    have hunlimited : Provisioner.timeout shelfDeployment watchOnShelf = some .zero := rfl
    rw [hread, hwatch]
    exact .cons (shelfRoute_mirrors base (by decide +kernel) hlimit)
      (.cons (shelfRoute_mirrors base (by decide +kernel) hunlimited) .nil)
  · have hnames : ["books-v1-read", "books-v1-watch"].Nodup := by decide
    exact hnames

end GatewayPlane
