/-!
# Cache statistics

How often each thing happened to a cache.
-/
namespace GatewayPlane

structure CacheStats where
  set : Nat := 0
  rejected : Nat := 0
  hits : Nat := 0
  misses : Nat := 0
  cleared : Nat := 0
  watches : Nat := 0
  notified : Nat := 0
  deriving DecidableEq, Repr, Inhabited

/-- The part of all look-ups that found a snapshot; zero without look-ups. -/
def CacheStats.hitRate (s : CacheStats) : Float :=
  if s.hits + s.misses = 0 then 0.0
  else Float.ofNat s.hits / Float.ofNat (s.hits + s.misses)

end GatewayPlane
