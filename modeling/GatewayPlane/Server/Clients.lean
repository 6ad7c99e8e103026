import GatewayPlane.NameMap
import GatewayPlane.Server.Service

/-!
# Clients

A service together with its clients, which are known by name and all in memory. A client
reads whatever it is sent, unless it stalls.
-/
namespace GatewayPlane

structure Client where
  id : Nat
  isStalled : Bool := false
  deriving DecidableEq, Repr, Inhabited

/-- What a client reads: what was sent, or that there will be no more. -/
inductive Reading where
  | sent (o : Outgoing)
  | closed
  deriving DecidableEq, Repr

structure Clients where
  service : Service
  clients : NameMap Client := ∅
  /-- Whether the last call to shut down was the first one, until someone waits for it. -/
  awaited : Option Bool := none
  deriving Inhabited

namespace Clients

def connection? (s : Clients) (name : String) : Option Connection := do
  s.service.connection? (← s.clients.get? name).id

/-- Works on the connection of a client; nothing when there is none. -/
def onConnection {α : Type} (s : Clients) (name : String) (work : Connection → α × Connection) :
    Option α × Clients :=
  match (s.clients.get? name).bind fun c => s.service.onConnection c.id work with
  | none => (none, s)
  | some (a, service) => (some a, { s with service := service })

/-- Sends a frame, and says whether it was taken; nothing when the client has no connection
to send on. -/
def deliver (s : Clients) (name : String) (f : Frame) : Option Bool × Clients :=
  let (taken, s) := s.onConnection name fun c =>
    if c.sending then
      let (taken, c) := c.deliver f
      (some taken, c)
    else (none, c)
  (taken.join, s)

/-- Closes the client's side for requests, and says whether it was open. -/
def stopSending (s : Clients) (name : String) : Bool × Clients :=
  let (wasOpen, s) := s.onConnection name fun c => (c.sending, c.stopSending)
  (wasOpen.getD false, s)

/-- Closes the client's side for responses, and says whether it was open. -/
def stopReading (s : Clients) (name : String) : Bool × Clients :=
  let (wasOpen, s) := s.onConnection name fun c => (c.reading, c.stopReading)
  (wasOpen.getD false, s)

def leave (s : Clients) (name : String) : Clients := ((s.stopSending name).2.stopReading name).2

/-- Connects a client, in place of one that had its name. -/
def connect (s : Clients) (name : String) : Except Status Clients := do
  let (id, service) ← s.service.connect
  let s := { s with service := service }.leave name
  return { s with clients := s.clients.insert name { id := id } }

def stall (s : Clients) (name : String) (isStalled : Bool) : Clients :=
  match s.clients.get? name with
  | none => s
  | some c => { s with clients := s.clients.insert name { c with isStalled := isStalled } }

/-- What a client reads now. -/
def read (s : Clients) (name : String) : List Reading × Clients :=
  match s.clients.get? name, s.connection? name with
  | some client, some c =>
    if client.isStalled || !c.reading then ([], s)
    else
      let (sent, s) := s.onConnection name Connection.read
      let sent := (sent.getD []).map .sent
      if c.isDone then (sent ++ [.closed], (s.stopReading name).2) else (sent, s)
  | _, _ => ([], s)

/-- What all clients read now, in the order of their names. -/
def readAll (s : Clients) : List (String × List Reading) × Clients :=
  s.clients.keys.foldl (fun (news, s) name =>
    let (readings, s) := read s name
    (if readings.isEmpty then news else news ++ [(name, readings)], s)) ([], s)

/-- An upper bound for the rounds of reading until there is nothing to read: each round
that is not the last makes a connection send, take a request, or end. -/
def rounds (s : Clients) : Nat :=
  s.service.connections.foldl
    (fun n e => n + (2 * e.2.inbox.length + e.2.outbox.length + 16)) 0

/-- Lets everything settle and all clients read, until there is nothing to read. -/
def pump (s : Clients) : List (String × List Reading) × Clients :=
  go s.rounds s
where
  go : Nat → Clients → List (String × List Reading) × Clients
    | 0, s => ([], s)
    | fuel + 1, s =>
      match { s with service := s.service.settle }.readAll with
      | ([], s) => ([], s)
      | (news, s) =>
        let (later, s) := go fuel s
        (news ++ later, s)

/-- Begins to shut down, and leaves the result to be waited for. -/
def shutDown (s : Clients) (grace : Nat) : Clients :=
  let (isFirst, shutdown) := s.service.shutdown.start grace
  { s with service := { s.service with shutdown := shutdown }, awaited := some isFirst }

/-- Waits for the last call to shut down, unless someone has, until the grace has run out if
need be. A call that another one preceded is over at once. -/
def await (s : Clients) : Option Bool × Clients :=
  let waited := { s with awaited := none }
  match s.awaited with
  | none => (none, s)
  | some false => (some true, waited)
  | some true =>
    let shutdown := s.service.shutdown.runOut
    (shutdown.outcome?, { waited with service := { s.service with shutdown := shutdown } })

end Clients

end GatewayPlane
