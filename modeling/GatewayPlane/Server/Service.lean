import GatewayPlane.Registry.Basic
import GatewayPlane.Server.Shutdown
import GatewayPlane.Stream.Connection

/-!
# The discovery service

All connections to one control plane, which share its snapshots. A connection counts as an
operation that a shutdown waits for, from when it is opened until its session is over.
-/
namespace GatewayPlane

structure Service where
  registry : Registry := {}
  shutdown : Shutdown := {}
  /-- How many responses may wait on a connection to be read. -/
  capacity : Nat := 16
  connections : List (Nat × Connection) := []
  nextId : Nat := 0
  deriving Inhabited

namespace Service

/-- There is always room for one response. -/
def ofCapacity (n : Nat) : Service := { capacity := max n 1 }

/-- Responses that only say what changed are not served. -/
def incremental : Status :=
  ⟨.unimplemented, "incremental xDS is not supported, use state-of-the-world ADS"⟩

def connection? (s : Service) (id : Nat) : Option Connection := s.connections.lookup id

def connect (s : Service) : Except Status (Nat × Service) :=
  if s.shutdown.isShutdown then .error Fault.shutdown.status
  else .ok (s.nextId, { s with
    shutdown := s.shutdown.register
    connections := s.connections ++ [(s.nextId, { session := .numbered s.nextId })]
    nextId := s.nextId + 1 })

/-- Works on one connection. -/
def onConnection {α : Type} (s : Service) (id : Nat) (work : Connection → α × Connection) :
    Option (α × Service) := do
  let (a, c) := work (← s.connection? id)
  return (a, { s with
    connections := s.connections.map fun e => if e.1 == id then (id, c) else e })

/-- Works on the shared cache. -/
def onCache {α : Type} (s : Service) (work : Cache → α × Cache) : α × Service :=
  let (a, registry) := s.registry.onCache work
  (a, { s with registry := registry })

/-- Lets one connection go on until it has to wait. -/
def settleOne (s : Service) (id : Nat) : Service :=
  match s.connection? id with
  | none => s
  | some c =>
    let (settled, s) := s.onCache (c.settle s.capacity s.shutdown.isShutdown)
    let connections := s.connections.map fun e => if e.1 == id then (id, settled) else e
    let shutdown := if settled.isDone && !c.isDone then s.shutdown.release else s.shutdown
    { s with connections := connections, shutdown := shutdown }

/-- Lets all connections go on until they have to wait. -/
def settle (s : Service) : Service := (s.connections.map (·.1)).foldl settleOne s

/-- The connections whose sessions are not over. -/
def activeCount (s : Service) : Nat := s.connections.countP fun e => !e.2.isDone

end Service

end GatewayPlane
