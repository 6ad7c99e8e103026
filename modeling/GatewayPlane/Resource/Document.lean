import GatewayPlane.Json.Reader
import GatewayPlane.Resource.Bundle
import GatewayPlane.Wire.Hex

/-!
# Resources as JSON documents

What people are shown of resources. Parts that are absent are shown as null; a filter is
shown with the connection manager that its configuration holds.
-/
namespace GatewayPlane
open Json

def WireDuration.toJson (d : WireDuration) : Json :=
  .object [("seconds", .string (toString d.seconds.toInt)), ("nanos", .integer d.nanos.toInt)]

def HostPort.toJson (a : HostPort) : Json :=
  .object [("address", .string a.host), ("port", ofNat a.port.toNat)]

def Address.toJson : Address → Json
  | unspecified => .null
  | pipe _ => .string "other"
  | socket host (some (.number port)) => HostPort.toJson ⟨host, port⟩
  | socket host _ => .object [("address", .string host), ("port", .null)]

def Upgrade.toJson (u : Upgrade) : Json :=
  .object [("type", .string u.type), ("enabled", orNull Json.bool u.enabled)]

def Extension.toJson (e : Extension) : Json :=
  .object [("name", .string e.name),
    ("type_url", orNull (fun c : TypedConfig => .string c.typeUrl) e.config)]

def LoadAssignment.toJson (l : LoadAssignment) : Json :=
  .object [("cluster_name", .string l.clusterName),
    ("endpoints", ofList (ofList HostPort.toJson) l.localities)]

def LbConfig.toJson : LbConfig → Json
  | leastRequest n => .object [("least_request", .object [("choice_count", ofNat n.toNat)])]
  | ringHash n =>
    .object [("ring_hash", .object [("minimum_ring_size", ofNat n.toNat),
      ("hash_function", .string "XX_HASH")])]

def Discovery.toJson : Discovery → Json
  | logicalDns => .string "LOGICAL_DNS"

def DnsFamily.toJson : DnsFamily → Json
  | auto => .string "AUTO"
  | v4Only => .string "V4_ONLY"

def BackendTls.toJson (t : BackendTls) : Json :=
  .object ([("name", .string t.transportSocket.name)]
    ++ memberOf (fun c : TypedConfig => .string c.typeUrl) "type_url" t.transportSocket.config
    ++ [("tls", .object [("sni", .string t.sni), ("trusted_ca", .string t.trustedCa)])])

/-- The options of a cluster that speaks HTTP/2 from the start, by the key they are kept
under. -/
def Cluster.http2Json : Json :=
  .object [("key", .string ExtensionName.httpProtocolOptions),
    ("type_url", .string Cluster.http2Options.typeUrl), ("http2", .bool true)]

def Cluster.toJson (c : Cluster) : Json :=
  .object [("name", .string c.name),
    ("connect_timeout", orNull WireDuration.toJson c.connectTimeout),
    ("discovery_type", orNull Discovery.toJson c.discovery),
    ("lb_policy", .string c.lbPolicy.name),
    ("dns_lookup_family", c.dnsFamily.toJson),
    ("load_assignment", orNull LoadAssignment.toJson c.loadAssignment),
    ("lb_config", orNull LbConfig.toJson c.lbConfig),
    ("locality_weighted", .bool c.localityWeighted),
    ("transport_socket", orNull BackendTls.toJson c.tls),
    ("protocol_options", .array (if c.http2 then [Cluster.http2Json] else []))]

def PathMatch.toJson : PathMatch → Json
  | startsWith path => .object [("prefix", .string path)]
  | exact path => .object [("path", .string path)]
  | regex pattern => .object [("regex", .string pattern)]

def HeaderMatch.toJson (h : HeaderMatch) : Json :=
  .object [("name", .string h.name), ("exact", orNull Json.string h.exact)]

def RouteMatch.toJson (m : RouteMatch) : Json :=
  .object [("path", orNull PathMatch.toJson m.path),
    ("case_sensitive", orNull Json.bool m.caseSensitive),
    ("headers", ofList HeaderMatch.toJson m.headers)]

def RouteTarget.toJson : RouteTarget → Json
  | cluster name => .object [("cluster", .string name)]
  | weighted shares =>
    .object [("weighted", ofList (fun s => .array [.string s.1, ofNat s.2.toNat]) shares)]

def HashPolicy.toJson : HashPolicy → Json
  | header name => .object [("header", .string name)]
  | cookie name => .object [("cookie", .string name)]
  | sourceIp isHashed => .object [("source_ip", .bool isHashed)]
  | other => .string "other"

def BackOff.toJson (b : BackOff) : Json :=
  .object [("base", orNull WireDuration.toJson b.base), ("max", orNull WireDuration.toJson b.max)]

def RetryPolicy.toJson (r : RetryPolicy) : Json :=
  .object [("retry_on", .string r.retryOn),
    ("num_retries", orNull (fun n : UInt32 => ofNat n.toNat) r.numRetries),
    ("per_try_timeout", orNull WireDuration.toJson r.perTryTimeout),
    ("host_predicates", ofList Extension.toJson r.hostPredicates),
    ("status_codes", ofList (fun c : UInt32 => ofNat c.toNat) r.statusCodes),
    ("back_off", orNull BackOff.toJson r.backOff)]

def Forwarding.toJson (a : Forwarding) : Json :=
  .object [("target", orNull RouteTarget.toJson (a.specifier.bind RouteTarget.ofSpecifier?)),
    ("timeout", orNull WireDuration.toJson a.timeout),
    ("hash_policy", ofList HashPolicy.toJson a.hashPolicies),
    ("upgrades", ofList Upgrade.toJson a.upgrades),
    ("retry", orNull RetryPolicy.toJson a.retry)]

def RouteAction.toJson : RouteAction → Json
  | forward a => a.toJson
  | redirect | other => .string "other"

def Route.toJson (r : Route) : Json :=
  .object [("name", .string r.name), ("match", orNull RouteMatch.toJson r.criteria),
    ("action", orNull RouteAction.toJson r.action)]

def VirtualHost.toJson (v : VirtualHost) : Json :=
  .object [("name", .string v.name), ("domains", ofStrings v.domains),
    ("routes", ofList Route.toJson v.routes)]

def RouteConfiguration.toJson (c : RouteConfiguration) : Json :=
  .object [("name", .string c.name), ("virtual_hosts", ofList VirtualHost.toJson c.virtualHosts)]

def RouteSource.toJson : RouteSource → Json
  | discovered name source =>
    .object [("rds", .string name),
      ("api_version", orNull (fun s : ConfigSource => .string s.apiVersion.name) source),
      ("ads", .bool (source.any ConfigSource.isAggregated))]
  | inline routes => .object [("inline", routes.toJson)]

def ConnectionManager.toJson (m : ConnectionManager) : Json :=
  .object [("codec_type", .string m.codec.name), ("stat_prefix", .string m.statPrefix),
    ("routes", orNull RouteSource.toJson m.routes),
    ("http_filters", ofList Extension.toJson m.httpFilters),
    ("upgrades", ofList Upgrade.toJson m.upgrades)]

/-- The connection manager that a configuration holds, if its type says that it holds one. -/
def TypedConfig.managerJson (c : TypedConfig) : Json :=
  if c.typeUrl = TypeUrl.connectionManager then
    match ConnectionManager.decode? c.value with
    | some m => m.toJson
    | none => .string "undecodable"
  else .null

def Extension.filterJson (e : Extension) : Json :=
  .object ([("name", .string e.name)] ++ match e.config with
    | none => []
    | some c => [("type_url", .string c.typeUrl), ("hcm", c.managerJson)])

def FilterChain.toJson (c : FilterChain) : Json :=
  .object [("name", .string c.name), ("server_names", orNull ofStrings c.serverNames),
    ("filters", ofList Extension.filterJson c.filters)]

def Listener.toJson (l : Listener) : Json :=
  .object [("name", .string l.name), ("address", orNull Address.toJson l.address),
    ("listener_filters", ofList Extension.toJson l.listenerFilters),
    ("filter_chains", ofList FilterChain.toJson l.filterChains)]

def Bundle.toJson (b : Bundle) : Json :=
  .object [("len", ofNat b.size), ("is_empty", .bool b.isEmpty),
    ("cluster_names", ofStrings b.clusterNames),
    ("clusters", ofList Cluster.toJson b.clusters),
    ("endpoints", ofList LoadAssignment.toJson b.endpoints),
    ("routes", ofList RouteConfiguration.toJson b.routes),
    ("listeners", ofList Listener.toJson b.listeners)]

/-- A resource as it is sent. -/
def Resource.encodedJson (r : Resource) : Json :=
  .object [("kind", .string r.kind.shortName), ("name", .string r.name),
    ("type_url", .string r.encode.typeUrl), ("hex", .string (Wire.hexOf r.encode.value))]

end GatewayPlane
