import GatewayPlane.Time.Span
import GatewayPlane.Wire.Message

/-!
# Parts of resources

Pieces that several kinds of resources share: durations, addresses, extensions and
protocol upgrades.
-/
namespace GatewayPlane

/-- A duration as resources carry it: seconds and nanoseconds in signed words. -/
structure WireDuration where
  seconds : Int64
  nanos : Int32
  deriving DecidableEq, Repr, Inhabited

namespace WireDuration

/-- Spans beyond the largest signed number of seconds are cut to it; their nanoseconds
stay. -/
def ofSpan (d : Span) : WireDuration :=
  ⟨Int64.ofNat (min d.seconds (UInt64.size / 2 - 1)), Int32.ofNat d.subsecond⟩

/-- Negative numbers are written in 64-bit two's complement, narrower ones too. -/
def fields (d : WireDuration) : List Wire.Field :=
  Wire.numberOrDefault 1 d.seconds.toUInt64.toNat
    ++ Wire.numberOrDefault 2 d.nanos.toInt64.toUInt64.toNat

def ofFields (fields : List Wire.Field) : WireDuration :=
  ⟨(Wire.lastNumber 1 fields).toUInt64.toInt64, (Wire.lastNumber 2 fields).toUInt32.toInt32⟩

end WireDuration

/-- A host and the number of a port. -/
structure HostPort where
  host : String
  port : UInt32
  deriving DecidableEq, Repr, Inhabited

inductive PortSpecifier where
  | number (port : UInt32)
  | named (name : String)
  deriving DecidableEq, Repr, Inhabited

/-- Where something listens or is reached. -/
inductive Address where
  | unspecified
  | pipe (path : String)
  | socket (host : String) (port : Option PortSpecifier)
  deriving DecidableEq, Repr, Inhabited

namespace PortSpecifier

def fields : PortSpecifier → List Wire.Field
  | number port => Wire.number 3 port.toNat
  | named name => Wire.text 4 name

end PortSpecifier

namespace Address

def ofHostPort (a : HostPort) : Address := socket a.host (some (.number a.port))

/-- The address at which it can clash with another: a host and a numeric port. -/
def hostPort? : Address → Option HostPort
  | socket host (some (.number port)) => some ⟨host, port⟩
  | _ => none

def fields : Address → List Wire.Field
  | unspecified => []
  | pipe path => Wire.message 2 (Wire.textOrDefault 1 path)
  | socket host port =>
    Wire.message 1 (Wire.textOrDefault 2 host ++ Wire.optional PortSpecifier.fields port)

end Address

/-- A message of some type, as bytes. -/
structure TypedConfig where
  typeUrl : String
  value : Wire.Bytes := []
  deriving DecidableEq, Repr, Inhabited

namespace TypedConfig

/-- Packs a message with the URL of its type. -/
def pack (typeUrl : String) (fields : List Wire.Field) : TypedConfig :=
  ⟨typeUrl, Wire.encode fields⟩

def fields (c : TypedConfig) : List Wire.Field :=
  Wire.textOrDefault 1 c.typeUrl ++ Wire.bytesOrDefault 2 c.value

def ofFields (fields : List Wire.Field) : TypedConfig :=
  ⟨Wire.lastText 1 fields, Wire.lastBytes 2 fields⟩

end TypedConfig

/-- An extension of the gateway and its configuration. -/
structure Extension where
  name : String
  config : Option TypedConfig := none
  deriving DecidableEq, Repr, Inhabited

namespace Extension

/-- The number of the configuration depends on the kind of extension. -/
def fields (configNumber : Nat) (e : Extension) : List Wire.Field :=
  Wire.textOrDefault 1 e.name
    ++ Wire.optional (fun c => Wire.message configNumber (TypedConfig.fields c)) e.config

/-- A configuration of another kind, under one of the numbers `others`, displaces it. -/
def ofFields (configNumber : Nat) (others : List Nat) (fields : List Wire.Field) : Extension where
  name := Wire.lastText 1 fields
  config :=
    match Wire.chosen? (configNumber :: others) fields with
    | some (_, run) => Wire.message? TypedConfig.ofFields configNumber run
    | none => none

end Extension

/-- A protocol that a connection may be upgraded to. -/
structure Upgrade where
  type : String
  enabled : Option Bool := none
  deriving DecidableEq, Repr, Inhabited

namespace Upgrade

/-- The number of the switch depends on where the upgrade is declared. -/
def fields (switchNumber : Nat) (u : Upgrade) : List Wire.Field :=
  Wire.textOrDefault 1 u.type ++ Wire.optional (Wire.boxedFlag switchNumber) u.enabled

def ofFields (switchNumber : Nat) (fields : List Wire.Field) : Upgrade :=
  ⟨Wire.lastText 1 fields, Wire.boxedFlag? switchNumber fields⟩

def websocket (enabled : Bool) : Upgrade := ⟨"websocket", some enabled⟩

end Upgrade

end GatewayPlane
