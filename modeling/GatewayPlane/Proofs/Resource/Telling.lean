import GatewayPlane.Proofs.Wire.Writers
import GatewayPlane.Resource.Bundle

/-!
# Different resources are written differently

Each part of a resource stands under numbers of its own, so that the bytes of a resource tell all
of its parts, down to the messages that are packed within it. Only an action of a route of which
nothing is known leaves no trace.
-/
namespace GatewayPlane
open Wire

/-! ## Parts of resources -/

theorem WireDuration.tells : Tells [1, 2] WireDuration.fields id := by
  have hseconds : Tells [1] (fun d : WireDuration => numberOrDefault 1 d.seconds.toUInt64.toNat)
      seconds :=
    (Tells.numberOrDefault.comap _).imp fun a b h => by
      have hword : a.seconds.toUInt64 = b.seconds.toUInt64 := UInt64.toNat_inj.1 h
      rw [← a.seconds.toInt64_toUInt64, hword, b.seconds.toInt64_toUInt64]
  have hnanos : Tells [2] (fun d : WireDuration =>
      numberOrDefault 2 d.nanos.toInt64.toUInt64.toNat) nanos :=
    (Tells.numberOrDefault.comap _).imp fun a b h => by
      have hword : a.nanos.toInt64.toUInt64 = b.nanos.toInt64.toUInt64 := UInt64.toNat_inj.1 h
      rw [← a.nanos.toInt32_toInt64, ← a.nanos.toInt64.toInt64_toUInt64, hword,
        b.nanos.toInt64.toInt64_toUInt64, b.nanos.toInt32_toInt64]
  exact (hseconds.append hnanos (by decide)).imp fun ⟨_, _⟩ ⟨_, _⟩ h => by simpa using h

theorem PortSpecifier.tells : Tells [3, 4] PortSpecifier.fields id where
  fits
    | number _ | named _ => List.forall_mem_singleton.2 ⟨by simp, trivial⟩
  told
    | number m, number n, h => congrArg number (UInt32.toNat_inj.1 (Tells.number.told _ _ h))
    | named s, named t, h => congrArg named (Tells.text.told s t h)
    | number _, named _, h | named _, number _, h => nomatch number_eq_of_encode_eq h

theorem Address.tells_socket : Tells [2, 3, 4]
    (fun a : String × Option PortSpecifier =>
      textOrDefault 2 a.1 ++ Wire.optional PortSpecifier.fields a.2) id := by
  have hport := PortSpecifier.tells.optional fun
    | .number _ | .named _ => List.cons_ne_nil _ _
  exact ((Tells.textOrDefault.comap Prod.fst).append (hport.comap Prod.snd) (by decide)).imp
    fun ⟨_, _⟩ ⟨_, _⟩ h => by simpa using h

theorem Address.tells : Tells [1, 2] Address.fields id where
  fits
    | unspecified => List.forall_mem_nil _
    | pipe _ | socket _ _ => List.forall_mem_singleton.2 ⟨by simp, trivial⟩
  told
    | unspecified, unspecified, _ => rfl
    | pipe p, pipe q, h => congrArg pipe (Tells.textOrDefault.message.told p q h)
    | socket host port, socket host' port', h => by
      cases tells_socket.message.told (host, port) (host', port') h
      rfl
    | pipe _, socket _ _, h | socket _ _, pipe _, h => nomatch number_eq_of_encode_eq h
    | unspecified, pipe _, h | unspecified, socket _ _, h => nomatch eq_nil_of_encode_eq_nil h.symm
    | pipe _, unspecified, h | socket _ _, unspecified, h => nomatch eq_nil_of_encode_eq_nil h

theorem TypedConfig.tells : Tells [1, 2] TypedConfig.fields id :=
  ((Tells.textOrDefault.comap typeUrl).append (Tells.bytesOrDefault.comap value) (by decide)).imp
    fun ⟨_, _⟩ ⟨_, _⟩ h => by simpa using h

theorem Extension.tells {n : Nat} (hn : 1 ≠ n) : Tells [1, n] (Extension.fields n) id := by
  have hconfig := TypedConfig.tells.optionalMessage (n := n)
  exact ((Tells.textOrDefault.comap name).append (hconfig.comap config) (by simpa using hn)).imp
    fun ⟨_, _⟩ ⟨_, _⟩ h => by simpa using h

theorem Upgrade.tells {n : Nat} (hn : 1 ≠ n) : Tells [1, n] (Upgrade.fields n) id :=
  ((Tells.textOrDefault.comap type).append (Tells.optionalBoxedFlag.comap enabled)
    (by simpa using hn)).imp fun ⟨_, _⟩ ⟨_, _⟩ h => by simpa using h

/-! ## Clusters and endpoints -/

theorem LoadAssignment.tells_endpoint : Tells [1] endpointFields id :=
  ((Address.tells.comap Address.ofHostPort).message.message).imp fun ⟨_, _⟩ ⟨_, _⟩ h => by
    simpa [Address.ofHostPort] using h

theorem LoadAssignment.tells : Tells [1, 2] LoadAssignment.fields id :=
  ((Tells.textOrDefault.comap clusterName).append
    (tells_endpoint.messages.messages.comap localities) (by decide)).imp fun ⟨_, _⟩ ⟨_, _⟩ h => by
      simpa using h

theorem LbConfig.tells : Tells [37, 23] LbConfig.fields id where
  fits
    | leastRequest _ | ringHash _ => List.forall_mem_singleton.2 ⟨by simp, trivial⟩
  told
    | leastRequest m, leastRequest n, h =>
      congrArg leastRequest (UInt32.toNat_inj.1 (Tells.boxedNumber.message.told _ _ h))
    | ringHash m, ringHash n, h =>
      congrArg ringHash (UInt64.toNat_inj.1 (Tells.boxedNumber.message.told _ _ h))
    | leastRequest _, ringHash _, h | ringHash _, leastRequest _, h =>
      nomatch number_eq_of_encode_eq h

/-- The settings of secured connections are packed. -/
theorem BackendTls.tells_context : Tells [1, 2] contextFields id :=
  ((Tells.text.message.message.message.comap trustedCa).append (Tells.textOrDefault.comap sni)
    (by decide)).imp fun ⟨_, _⟩ ⟨_, _⟩ h => by simpa [and_comm] using h

theorem BackendTls.transportSocket_injective {t t' : BackendTls}
    (h : t.transportSocket = t'.transportSocket) : t = t' := by
  have hconfig := congrArg Extension.config h
  exact tells_context.told t t' (congrArg TypedConfig.value (Option.some.inj hconfig))

theorem Discovery.tells : Tells [2] (fun _ : Discovery => number 2 2) id :=
  (Tells.number.comap fun _ : Discovery => 2).imp fun .logicalDns .logicalDns _ => rfl

theorem LbPolicy.tells : Tells [6] (fun p : LbPolicy => numberOrDefault 6 p.code) id :=
  (Tells.numberOrDefault.comap code).imp fun a b h => by
    cases a <;> cases b <;> first | rfl | cases h

theorem DnsFamily.tells : Tells [17] (fun f : DnsFamily => numberOrDefault 17 f.code) id :=
  (Tells.numberOrDefault.comap code).imp fun a b h => by
    cases a <;> cases b <;> first | rfl | cases h

theorem Cluster.tells : Tells [1, 2, 4, 6, 17, 37, 23, 24, 27, 33, 36] Cluster.fields id := by
  have hname := (Tells.textOrDefault (n := 1)).comap name
  have hdiscovery := (Discovery.tells.optional fun _ => List.cons_ne_nil _ _).comap discovery
  have htimeout := (WireDuration.tells.optionalMessage (n := 4)).comap connectTimeout
  have hconfig := (LbConfig.tells.optional fun
    | .leastRequest _ | .ringHash _ => List.cons_ne_nil _ _).comap lbConfig
  have hsocket : Tells [1, 3] (fun t : BackendTls => Extension.fields 3 t.transportSocket) id :=
    ((Extension.tells (by decide)).comap _).imp fun _ _ => BackendTls.transportSocket_injective
  have htls := (hsocket.optionalMessage (n := 24)).comap tls
  have hlocality := (Tells.flag (n := 27) (p := .message (message 3 [])) trivial).comap
    localityWeighted
  have hassignment := (LoadAssignment.tells.optionalMessage (n := 33)).comap loadAssignment
  have hhttp2 := (Tells.flag (n := 36) (p := .message (textOrDefault 1
    ExtensionName.httpProtocolOptions ++ message 2 http2Options.fields)) trivial).comap http2
  have hall := hname
    |>.append hdiscovery (by decide)
    |>.append htimeout (by decide)
    |>.append (LbPolicy.tells.comap lbPolicy) (by decide)
    |>.append (DnsFamily.tells.comap dnsFamily) (by decide)
    |>.append hconfig (by decide)
    |>.append htls (by decide)
    |>.append hlocality (by decide)
    |>.append hassignment (by decide)
    |>.append hhttp2 (by decide)
  exact hall.imp fun ⟨_, _, _, _, _, _, _, _, _, _⟩ ⟨_, _, _, _, _, _, _, _, _, _⟩ h => by
    simpa [and_assoc] using h

/-! ## Routes -/

theorem PathMatch.tells : Tells [1, 2, 10] PathMatch.fields id where
  fits
    | startsWith _ | exact _ | regex _ => List.forall_mem_singleton.2 ⟨by simp, trivial⟩
  told
    | startsWith p, startsWith q, h => congrArg startsWith (Tells.text.told p q h)
    | exact p, exact q, h => congrArg exact (Tells.text.told p q h)
    | regex p, regex q, h => congrArg regex (Tells.textOrDefault.message.told p q h)
    | startsWith _, exact _, h | startsWith _, regex _, h | exact _, startsWith _, h
    | exact _, regex _, h | regex _, startsWith _, h | regex _, exact _, h =>
      nomatch number_eq_of_encode_eq h

theorem HeaderMatch.tells : Tells [1, 13] HeaderMatch.fields id := by
  have hexact := ((Tells.text (n := 1)).optionalMessage (n := 13)).comap exact
  exact ((Tells.textOrDefault.comap name).append hexact (by decide)).imp
    fun ⟨_, _⟩ ⟨_, _⟩ h => by simpa using h

theorem RouteMatch.tells : Tells [1, 2, 10, 4, 6] RouteMatch.fields id := by
  have hpath := (PathMatch.tells.optional fun
    | .startsWith _ | .exact _ | .regex _ => List.cons_ne_nil _ _).comap path
  have hflag := (Tells.optionalBoxedFlag (n := 4)).comap caseSensitive
  have hheaders := (HeaderMatch.tells.messages (n := 6)).comap headers
  exact (hpath.append hflag (by decide) |>.append hheaders (by decide)).imp
    fun ⟨_, _, _⟩ ⟨_, _, _⟩ h => by simpa [and_assoc] using h

/-- The bytes of what a route asks of requests tell it from all other criteria. -/
theorem RouteMatch.encode_fields_inj {m m' : RouteMatch} :
    encode m.fields = encode m'.fields ↔ m = m' :=
  ⟨RouteMatch.tells.told m m', fun h => h ▸ rfl⟩

theorem ClusterShare.tells : Tells [1, 2] ClusterShare.fields id := by
  have hweight := (Tells.optionalBoxedWord (n := 2)).comap weight
  exact ((Tells.textOrDefault.comap name).append hweight (by decide)).imp
    fun ⟨_, _⟩ ⟨_, _⟩ h => by simpa using h

theorem ClusterSpecifier.tells : Tells [1, 2, 3] ClusterSpecifier.fields id where
  fits
    | cluster _ | header _ | weighted _ => List.forall_mem_singleton.2 ⟨by simp, trivial⟩
  told
    | cluster s, cluster t, h => congrArg cluster (Tells.text.told s t h)
    | header s, header t, h => congrArg header (Tells.text.told s t h)
    | weighted l, weighted l', h => by
      have hshares := ClusterShare.tells.messages.message.told l l' h
      simpa using hshares
    | cluster _, header _, h | cluster _, weighted _, h | header _, cluster _, h
    | header _, weighted _, h | weighted _, cluster _, h | weighted _, header _, h =>
      nomatch number_eq_of_encode_eq h

theorem HashPolicy.tells : Tells [1, 2, 3] HashPolicy.fields id where
  fits
    | header _ | cookie _ | sourceIp _ => List.forall_mem_singleton.2 ⟨by simp, trivial⟩
    | other => List.forall_mem_nil _
  told
    | header s, header t, h => congrArg header (Tells.textOrDefault.message.told s t h)
    | cookie s, cookie t, h => congrArg cookie (Tells.textOrDefault.message.told s t h)
    | sourceIp b, sourceIp c, h => congrArg sourceIp (Tells.boxedFlag.told b c h)
    | other, other, _ => rfl
    | header _, cookie _, h | header _, sourceIp _, h | cookie _, header _, h
    | cookie _, sourceIp _, h | sourceIp _, header _, h | sourceIp _, cookie _, h =>
      nomatch number_eq_of_encode_eq h
    | other, header _, h | other, cookie _, h | other, sourceIp _, h =>
      nomatch eq_nil_of_encode_eq_nil h.symm
    | header _, other, h | cookie _, other, h | sourceIp _, other, h =>
      nomatch eq_nil_of_encode_eq_nil h

theorem BackOff.tells : Tells [1, 2] BackOff.fields id := by
  have hbase := (WireDuration.tells.optionalMessage (n := 1)).comap base
  have hmax := (WireDuration.tells.optionalMessage (n := 2)).comap BackOff.max
  exact (hbase.append hmax (by decide)).imp fun ⟨_, _⟩ ⟨_, _⟩ h => by simpa using h

theorem RetryPolicy.tells : Tells [1, 2, 3, 5, 7, 8] RetryPolicy.fields id := by
  have hretries := (Tells.optionalBoxedWord (n := 2)).comap numRetries
  have htimeout := (WireDuration.tells.optionalMessage (n := 3)).comap perTryTimeout
  have hpredicates := ((Extension.tells (n := 3) (by decide)).messages (n := 5)).comap
    hostPredicates
  have hcodes : Tells [7] (fun r : RetryPolicy =>
      packedNumbers 7 (r.statusCodes.map UInt32.toNat)) statusCodes :=
    (Tells.packedNumbers.comap _).imp fun _ _ =>
      (List.map_inj_right fun _ _ => UInt32.toNat_inj.1).1
  have hbackOff := (BackOff.tells.optionalMessage (n := 8)).comap backOff
  have hall := (Tells.textOrDefault (n := 1)).comap retryOn
    |>.append hretries (by decide)
    |>.append htimeout (by decide)
    |>.append hpredicates (by decide)
    |>.append hcodes (by decide)
    |>.append hbackOff (by decide)
  exact hall.imp fun ⟨_, _, _, _, _, _⟩ ⟨_, _, _, _, _, _⟩ h => by simpa [and_assoc] using h

theorem Forwarding.tells : Tells [1, 2, 3, 8, 9, 15, 25] Forwarding.fields id := by
  have hspecifier := (ClusterSpecifier.tells.optional fun
    | .cluster _ | .header _ | .weighted _ => List.cons_ne_nil _ _).comap specifier
  have htimeout := (WireDuration.tells.optionalMessage (n := 8)).comap timeout
  have hretry := (RetryPolicy.tells.optionalMessage (n := 9)).comap retry
  have hpolicies := (HashPolicy.tells.messages (n := 15)).comap hashPolicies
  have hupgrades := ((Upgrade.tells (n := 2) (by decide)).messages (n := 25)).comap upgrades
  have hall := hspecifier
    |>.append htimeout (by decide)
    |>.append hretry (by decide)
    |>.append hpolicies (by decide)
    |>.append hupgrades (by decide)
  exact hall.imp fun ⟨_, _, _, _, _⟩ ⟨_, _, _, _, _⟩ h => by simpa [and_assoc] using h

/-- An action of which nothing is known is not told from none. -/
theorem RouteAction.tells :
    Tells [2, 3] (Wire.optional RouteAction.fields) (Option.filter (· ≠ other)) where
  fits
    | none | some other => List.forall_mem_nil _
    | some (forward _) | some redirect => List.forall_mem_singleton.2 ⟨by simp, trivial⟩
  told
    | some (forward a), some (forward b), h =>
      congrArg (fun a => some (forward a)) (Forwarding.tells.message.told a b h)
    | some redirect, some redirect, _ => rfl
    | none, none, _ | none, some other, _ | some other, none, _ | some other, some other, _ => rfl
    | some (forward _), some redirect, h | some redirect, some (forward _), h =>
      nomatch number_eq_of_encode_eq h
    | none, some (forward _), h | none, some redirect, h | some other, some (forward _), h
    | some other, some redirect, h => nomatch eq_nil_of_encode_eq_nil h.symm
    | some (forward _), none, h | some redirect, none, h | some (forward _), some other, h
    | some redirect, some other, h => nomatch eq_nil_of_encode_eq_nil h

/-- What the bytes of a route tell of it. -/
def Route.told (r : Route) : Route := { r with action := r.action.filter (· ≠ .other) }

def VirtualHost.told (v : VirtualHost) : VirtualHost := { v with routes := v.routes.map Route.told }

def RouteConfiguration.told (c : RouteConfiguration) : RouteConfiguration :=
  { c with virtualHosts := c.virtualHosts.map VirtualHost.told }

theorem Route.told_eq_self {r : Route} (h : r.action ≠ some .other) : r.told = r := by
  obtain ⟨name, criteria, action⟩ := r
  cases action with
  | none => rfl
  | some a =>
    have ha : a ≠ .other := fun heq => h (congrArg some heq)
    simp [told, ha]

theorem VirtualHost.told_eq_self {v : VirtualHost} (h : ∀ r ∈ v.routes, r.action ≠ some .other) :
    v.told = v := by
  have hroutes : v.routes.map Route.told = v.routes :=
    (List.map_congr_left fun r hr => Route.told_eq_self (h r hr)).trans (List.map_id _)
  rw [told, hroutes]

theorem RouteConfiguration.told_eq_self (c : RouteConfiguration)
    (h : ∀ v ∈ c.virtualHosts, ∀ r ∈ v.routes, r.action ≠ some .other) : c.told = c := by
  have hhosts : c.virtualHosts.map VirtualHost.told = c.virtualHosts :=
    (List.map_congr_left fun v hv => VirtualHost.told_eq_self (h v hv)).trans (List.map_id _)
  rw [told, hhosts]

theorem Route.tells : Tells [1, 2, 3, 14] Route.fields Route.told := by
  have hcriteria := (RouteMatch.tells.optionalMessage (n := 1)).comap criteria
  have hname := (Tells.textOrDefault (n := 14)).comap name
  exact (hcriteria.append (RouteAction.tells.comap action) (by decide)
    |>.append hname (by decide)).imp fun ⟨_, _, _⟩ ⟨_, _, _⟩ h => by
      simpa [told, and_assoc, and_comm, and_left_comm] using h

theorem VirtualHost.tells : Tells [1, 2, 3] VirtualHost.fields VirtualHost.told := by
  have hdomains := (Tells.texts (n := 2)).comap domains
  have hroutes := (Route.tells.messages (n := 3)).comap routes
  exact ((Tells.textOrDefault.comap name).append hdomains (by decide)
    |>.append hroutes (by decide)).imp fun ⟨_, _, _⟩ ⟨_, _, _⟩ h => by
      simpa [told, and_assoc] using h

theorem RouteConfiguration.tells :
    Tells [1, 2] RouteConfiguration.fields RouteConfiguration.told := by
  have hhosts := (VirtualHost.tells.messages (n := 2)).comap virtualHosts
  exact ((Tells.textOrDefault.comap name).append hhosts (by decide)).imp
    fun ⟨_, _⟩ ⟨_, _⟩ h => by simpa [told] using h

/-! ## Listeners -/

theorem FilterChain.tells : Tells [1, 3, 7] FilterChain.fields id := by
  have hnames := ((Tells.texts (n := 11)).optionalMessage (n := 1)).comap serverNames
  have hfilters := ((Extension.tells (n := 4) (by decide)).messages (n := 3)).comap filters
  have hname := (Tells.textOrDefault (n := 7)).comap name
  exact (hnames.append hfilters (by decide) |>.append hname (by decide)).imp
    fun ⟨_, _, _⟩ ⟨_, _, _⟩ h => by simpa [and_assoc, and_comm, and_left_comm] using h

theorem Listener.tells : Tells [1, 2, 3, 9] Listener.fields id := by
  have haddress := (Address.tells.optionalMessage (n := 2)).comap address
  have hchains := (FilterChain.tells.messages (n := 3)).comap filterChains
  have hfilters := ((Extension.tells (n := 3) (by decide)).messages (n := 9)).comap listenerFilters
  have hall := (Tells.textOrDefault (n := 1)).comap name
    |>.append haddress (by decide)
    |>.append hchains (by decide)
    |>.append hfilters (by decide)
  exact hall.imp fun ⟨_, _, _, _⟩ ⟨_, _, _, _⟩ h => by simpa [and_assoc] using h

theorem ConfigSource.tells : Tells [3, 6] ConfigSource.fields id := by
  have hflag := (Tells.flag (n := 3) (p := .message []) trivial).comap isAggregated
  have hversion : Tells [6] (fun s : ConfigSource => numberOrDefault 6 s.apiVersion.code)
      apiVersion :=
    (Tells.numberOrDefault.comap _).imp fun ⟨_, v⟩ ⟨_, v'⟩ h => by
      cases v <;> cases v' <;> first | rfl | cases h
  exact (hflag.append hversion (by decide)).imp fun ⟨_, _⟩ ⟨_, _⟩ h => by simpa using h

def RouteSource.told : RouteSource → RouteSource
  | inline c => inline c.told
  | s => s

theorem RouteSource.tells : Tells [3, 4] RouteSource.fields RouteSource.told where
  fits
    | discovered _ _ | inline _ => List.forall_mem_singleton.2 ⟨by simp, trivial⟩
  told
    | discovered name source, discovered name' source', h => by
      have hsource := (ConfigSource.tells.optionalMessage (n := 1)).comap
        fun s : String × Option ConfigSource => s.2
      have hall := hsource.append ((Tells.textOrDefault (n := 2)).comap Prod.fst) (by decide)
      obtain ⟨rfl, rfl⟩ : source = source' ∧ name = name' := by
        simpa using hall.message.told (name, source) (name', source') h
      rfl
    | inline c, inline c', h => congrArg inline (RouteConfiguration.tells.message.told c c' h)
    | discovered _ _, inline _, h | inline _, discovered _ _, h => nomatch number_eq_of_encode_eq h

def ConnectionManager.told (m : ConnectionManager) : ConnectionManager :=
  { m with routes := m.routes.map RouteSource.told }

theorem ConnectionManager.tells :
    Tells [1, 2, 3, 4, 5, 23] ConnectionManager.fields ConnectionManager.told := by
  have hcodec : Tells [1] (fun m : ConnectionManager => numberOrDefault 1 m.codec.code) codec :=
    (Tells.numberOrDefault.comap _).imp fun ⟨c, _, _, _, _⟩ ⟨c', _, _, _, _⟩ h => by
      cases c <;> cases c' <;> first | rfl | cases h
  have hroutes := (RouteSource.tells.optional fun
    | .discovered _ _ | .inline _ => List.cons_ne_nil _ _).comap routes
  have hfilters := ((Extension.tells (n := 4) (by decide)).messages (n := 5)).comap httpFilters
  have hupgrades := ((Upgrade.tells (n := 3) (by decide)).messages (n := 23)).comap upgrades
  have hall := hcodec
    |>.append ((Tells.textOrDefault (n := 2)).comap statPrefix) (by decide)
    |>.append hroutes (by decide)
    |>.append hfilters (by decide)
    |>.append hupgrades (by decide)
  exact hall.imp fun ⟨_, _, _, _, _⟩ ⟨_, _, _, _, _⟩ h => by simpa [told, and_assoc] using h

/-- The connection manager of a built listener is told by its bytes. -/
theorem ConnectionManager.encode_discovering_inj {statPrefix routes statPrefix' routes' : String} :
    encode (discovering statPrefix routes).fields =
        encode (discovering statPrefix' routes').fields ↔
      statPrefix = statPrefix' ∧ routes = routes' := by
  refine ⟨fun h => ?_, fun ⟨hstat, hroutes⟩ => hstat ▸ hroutes ▸ rfl⟩
  have htold := ConnectionManager.tells.told _ _ h
  simpa [told, discovering, RouteSource.told] using htold

/-! ## Resources -/

namespace Resource

/-- What the bytes of a resource tell of it. -/
def told : Resource → Resource
  | route c => .route c.told
  | x => x

/-- Whether nothing in a resource is left unknown. -/
def Known : Resource → Prop
  | route c => ∀ v ∈ c.virtualHosts, ∀ r ∈ v.routes, r.action ≠ some .other
  | _ => True

theorem told_of_known {x : Resource} (h : x.Known) : x.told = x := by
  cases x with
  | cluster | endpoint | listener => rfl
  | route c => exact congrArg route (c.told_eq_self h)

/-- Resources of which nothing is unknown are the same when their bytes are. -/
theorem encode_inj {x y : Resource} (hx : x.Known) (hy : y.Known) :
    x.encode = y.encode ↔ x = y := by
  refine ⟨fun h => ?_, fun h => h ▸ rfl⟩
  rw [← told_of_known hx, ← told_of_known hy]
  obtain ⟨hurl, hbytes⟩ := TypedConfig.mk.inj h
  have hkind := Kind.typeUrl_injective hurl
  cases x with
  | cluster c =>
    cases y with
    | cluster c' => exact congrArg cluster (Cluster.tells.told c c' hbytes)
    | endpoint | route | listener => cases hkind
  | endpoint e =>
    cases y with
    | endpoint e' => exact congrArg endpoint (LoadAssignment.tells.told e e' hbytes)
    | cluster | route | listener => cases hkind
  | route c =>
    cases y with
    | route c' => exact congrArg route (RouteConfiguration.tells.told c c' hbytes)
    | cluster | endpoint | listener => cases hkind
  | listener l =>
    cases y with
    | listener l' => exact congrArg listener (Listener.tells.told l l' hbytes)
    | cluster | endpoint | route => cases hkind

end Resource

end GatewayPlane
