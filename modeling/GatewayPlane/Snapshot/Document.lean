import GatewayPlane.Cache.Stats
import GatewayPlane.Json.Reader
import GatewayPlane.Snapshot

/-!
# Snapshots and statistics as JSON documents

Of a snapshot the names are shown: those of its resources, kind by kind, and those of the
virtual hosts and routes in its route configurations.
-/
namespace GatewayPlane
open Json

def RouteConfiguration.table (c : RouteConfiguration) : Json :=
  .array [.string c.name, ofList (fun v : VirtualHost =>
    .array [.string v.name, ofStrings v.domains, ofStrings (v.routes.map Route.name)])
    c.virtualHosts]

def Snapshot.summary (s : Snapshot) : Json :=
  .object [("version", .string s.version.text),
    ("resources", .object (s.kinds.map fun k => (k.shortName, ofStrings (s.ofKind k).keys))),
    ("route_tables", ofList RouteConfiguration.table (s.routes.getD ∅).values),
    ("total", ofNat s.size)]

def CacheStats.toJson (s : CacheStats) : Json :=
  .object [("set", ofNat s.set), ("rejected", ofNat s.rejected), ("hits", ofNat s.hits),
    ("misses", ofNat s.misses), ("cleared", ofNat s.cleared), ("watches", ofNat s.watches),
    ("notified", ofNat s.notified), ("hit_rate", .float s.hitRate)]

end GatewayPlane
