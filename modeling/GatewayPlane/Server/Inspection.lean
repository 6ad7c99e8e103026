import GatewayPlane.ControlPlane
import GatewayPlane.Server.Clients
import GatewayPlane.Snapshot.Document
import GatewayPlane.Stream.Document

/-!
# Inspecting a running server

What operators are shown of a cache, a control plane, a session and a service, as JSON.
Looking at a state does not count as a use of it.
-/
namespace GatewayPlane
open Json

/-- How many watches each of these nodes has. -/
def Watches.countsJson (nodes : List NodeId) (ws : Watches) : Json :=
  .object (nodes.map fun n => (n, ofNat (ws.count n)))

def Watches.toJson (nodes : List NodeId) (ws : Watches) : Json :=
  .object [("counts", ws.countsJson nodes), ("total", ofNat ws.totalCount)]

def NameMap.toJson {α : Type} (write : α → Json) (m : NameMap α) : Json :=
  .object (m.entries.map fun e => (e.1, write e.2))

def Cache.toJson (nodes : List NodeId) (c : Cache) : Json :=
  .object [("held", c.snapshots.toJson fun s => s.version.toJson), ("count", ofNat c.size),
    ("stats", c.stats.toJson), ("watches", c.watches.toJson nodes)]

def NodeEntry.toJson (e : NodeEntry) : Json := ofList DeploymentSummary.toJson e.summaries

def ControlPlane.toJson (nodes : List NodeId) (p : ControlPlane) : Json :=
  .object [("nodes", ofStrings p.registry.listNodes),
    ("deployments", p.registry.nodes.toJson NodeEntry.toJson),
    ("snapshots", p.registry.cache.snapshots.toJson Snapshot.summary),
    ("stats", p.registry.cache.stats.toJson), ("watches", p.registry.cache.watches.toJson nodes)]

def Session.toJson (s : Session) : Json :=
  .object [("subscribed", ofStrings (s.subscriptions.kinds.map Kind.shortName)),
    ("acked", Subscriptions.versionsJson s.subscriptions.accepted?),
    ("nacked", Subscriptions.versionsJson s.subscriptions.rejected?),
    ("stream", s.context.toJson)]

def Shutdown.toJson (s : Shutdown) : Json :=
  .object [("is_shutdown", .bool s.isShutdown), ("operations", ofNat s.operations)]

def Service.toJson (nodes : List NodeId) (s : Service) : Json :=
  .object [("active_streams", ofNat s.activeCount), ("metrics_streams", ofNat s.activeCount),
    ("operations", ofNat s.shutdown.operations), ("is_shutdown", .bool s.shutdown.isShutdown),
    ("watch_counts", s.registry.cache.watches.countsJson nodes),
    ("watches_created", ofNat s.registry.cache.stats.watches),
    ("notified", ofNat s.registry.cache.stats.notified)]

end GatewayPlane
