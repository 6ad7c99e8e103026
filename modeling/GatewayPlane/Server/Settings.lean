import GatewayPlane.Fault
import GatewayPlane.Resource.Document
import GatewayPlane.Server.SocketAddress
import GatewayPlane.Time.Document

/-!
# Server settings

Where a server listens, how long it keeps connections alive, and how much it holds for
each of them.
-/
namespace GatewayPlane
open Json

structure ServerSettings where
  listenAddress : SocketAddress := .v4 [0, 0, 0, 0] 18000
  keepaliveInterval : Span := .ofSeconds 30
  keepaliveTimeout : Span := .ofSeconds 5
  maxConcurrentStreams : UInt32 := 100
  responseBuffer : UInt64 := 16
  gracePeriod : Span := .ofSeconds 10
  isHealthServed : Bool := true
  deriving DecidableEq, Repr, Inhabited

namespace ServerSettings

def check (s : ServerSettings) : Except Fault Unit := do
  if s.maxConcurrentStreams = 0 then
    throw (.configuration "max_concurrent_streams must be positive")
  if s.responseBuffer = 0 then throw (.configuration "response_buffer must be positive")
  if s.keepaliveInterval.nanos = 0 then
    throw (.configuration "keepalive_interval must be positive")
  if s.keepaliveInterval.nanos ≤ s.keepaliveTimeout.nanos then
    let timeout := s.keepaliveTimeout.inLargestUnit
    let interval := s.keepaliveInterval.inLargestUnit
    throw (.configuration
      s!"keepalive_timeout ({timeout}) must be shorter than keepalive_interval ({interval})")

def memberNames : List String :=
  ["listen_addr", "keepalive_interval", "keepalive_timeout", "max_concurrent_streams",
    "response_buffer", "shutdown_grace_period", "enable_health"]

def ofJson? (value : Json) : Option ServerSettings := do
  let m ← onlyMembers? memberNames value
  let base : ServerSettings := {}
  return {
    listenAddress := ← fieldOr SocketAddress.ofJson? base.listenAddress m "listen_addr"
    keepaliveInterval := ← fieldOr Span.ofJson? base.keepaliveInterval m "keepalive_interval"
    keepaliveTimeout := ← fieldOr Span.ofJson? base.keepaliveTimeout m "keepalive_timeout"
    maxConcurrentStreams := ← fieldOr uint32? base.maxConcurrentStreams m "max_concurrent_streams"
    responseBuffer := ← fieldOr uint64? base.responseBuffer m "response_buffer"
    gracePeriod := ← fieldOr Span.ofJson? base.gracePeriod m "shutdown_grace_period"
    isHealthServed := ← fieldOr bool? base.isHealthServed m "enable_health" }

def spanJson (d : Span) : Json :=
  .object [("seconds", .string (toString d.seconds)), ("nanos", ofNat d.subsecond)]

/-- The settings as they are shown, with lengths of time in seconds and nanoseconds. -/
def toJson (s : ServerSettings) : Json :=
  .object [("listen_addr", s.listenAddress.toJson),
    ("keepalive_interval", spanJson s.keepaliveInterval),
    ("keepalive_timeout", spanJson s.keepaliveTimeout),
    ("max_concurrent_streams", ofNat s.maxConcurrentStreams.toNat),
    ("response_buffer", ofNat s.responseBuffer.toNat),
    ("shutdown_grace_period", spanJson s.gracePeriod),
    ("enable_health", .bool s.isHealthServed)]

end ServerSettings

end GatewayPlane
