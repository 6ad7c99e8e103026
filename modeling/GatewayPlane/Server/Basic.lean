import GatewayPlane.Cache.Basic
import GatewayPlane.Server.Settings
import GatewayPlane.Server.Shutdown

/-!
# Servers

A server serves the snapshots of a cache by settings that make sense.
-/
namespace GatewayPlane

structure DiscoveryServer where
  cache : Cache
  settings : ServerSettings
  shutdown : Shutdown := {}
  deriving Inhabited

/-- A server that is not to serve anything yet. -/
structure ServerDraft where
  cache : Option Cache := none
  settings : ServerSettings := {}
  deriving Inhabited

def ServerDraft.build (d : ServerDraft) : Except Fault DiscoveryServer := do
  let some cache := d.cache | throw (.configuration "cache is required")
  d.settings.check
  return { cache := cache, settings := d.settings }

end GatewayPlane
