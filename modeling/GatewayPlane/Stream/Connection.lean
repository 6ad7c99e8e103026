import GatewayPlane.Stream.Session

/-!
# Connections

A session and the channels on both of its sides: requests that wait for it, responses that
it waits to send, and responses that the client has not read yet, of which there is room
for so many. A session with something to send does nothing else until there is room. One
that has a choice first heeds a shutdown, then requests, then newer snapshots.
-/
namespace GatewayPlane

inductive Frame where
  | request (r : DiscoveryRequest)
  | malformed
  deriving DecidableEq, Repr

inductive Outgoing where
  | response (r : DiscoveryResponse)
  | status (s : Status)
  deriving DecidableEq, Repr

structure Connection where
  session : Session := {}
  inbox : List Frame := []
  /-- Whether the client may still send requests. -/
  sending : Bool := true
  /-- Whether the client may still read responses. -/
  reading : Bool := true
  outbox : List Outgoing := []
  unread : List Outgoing := []
  /-- Why the session ends, once it does; what is left to send is sent first. -/
  ending : Option SessionEnd := none
  /-- Whether the session is over. -/
  isDone : Bool := false
  deriving Inhabited

namespace Connection

def finish (c : Connection) (cache : Cache) : Connection × Cache :=
  ({ c with session := c.session.close, outbox := [], isDone := true }, c.session.leave cache)

def endWith (c : Connection) (e : SessionEnd) : Connection :=
  { c with ending := some e, outbox := e.status?.toList.map .status }

/-- Sends the first of what waits to be sent, when there is room for it. -/
def transmit (capacity : Nat) (c : Connection) (cache : Cache) (first : Outgoing)
    (rest : List Outgoing) : Option (Connection × Cache) :=
  if !c.reading then some (c.finish cache)
  else if c.unread.length < capacity then
    let session := match first with
      | .response _ => c.session.countResponse
      | .status _ => c.session
    some ({ c with session := session, outbox := rest, unread := c.unread ++ [first] }, cache)
  else none

def takeFrame (c : Connection) (cache : Cache) : Frame → Connection × Cache
  | .malformed => (c.endWith .lost, cache)
  | .request r =>
    match c.session.receive cache r with
    | (.error e, cache) => (c.endWith e, cache)
    | (.ok (response, session), cache) =>
      ({ c with session := session, outbox := response.toList.map .response }, cache)

/-- Takes the next request, or else the next snapshot. -/
def takeNext (c : Connection) (cache : Cache) : Option (Connection × Cache) :=
  match c.inbox with
  | frame :: rest => some ({ c with inbox := rest }.takeFrame cache frame)
  | [] =>
    if !c.sending then some (c.endWith .finished, cache)
    else
      match c.session.wake cache with
      | none => none
      | some (.error e, cache) => some (c.endWith e, cache)
      | some (.ok (responses, session), cache) =>
        some ({ c with session := session, outbox := responses.map .response }, cache)

/-- What happens next; nothing when the session is over or has to wait. -/
def step (capacity : Nat) (stopping : Bool) (c : Connection) (cache : Cache) :
    Option (Connection × Cache) :=
  if c.isDone then none
  else
    match c.outbox, c.ending with
    | first :: rest, _ => c.transmit capacity cache first rest
    | [], some _ => some (c.finish cache)
    | [], none => if stopping then some (c.endWith .shuttingDown, cache) else c.takeNext cache

/-- Goes on until there is nothing to do. Each request leads to at most one response, and a
snapshot to one for each kind. -/
def settle (capacity : Nat) (stopping : Bool) (c : Connection) (cache : Cache) :
    Connection × Cache :=
  go (2 * c.inbox.length + c.outbox.length + 16) c cache
where
  go : Nat → Connection → Cache → Connection × Cache
    | 0, c, cache => (c, cache)
    | fuel + 1, c, cache =>
      match c.step capacity stopping cache with
      | none => (c, cache)
      | some (c, cache) => go fuel c cache

/-- What the client reads. -/
def read (c : Connection) : List Outgoing × Connection := (c.unread, { c with unread := [] })

/-- Whether the client has read all that it will ever be sent. -/
def isExhausted (c : Connection) : Bool := c.isDone && c.unread.isEmpty

/-- Hands over a frame, unless the session is over. -/
def deliver (c : Connection) (f : Frame) : Bool × Connection :=
  if c.isDone then (false, c) else (true, { c with inbox := c.inbox ++ [f] })

def stopSending (c : Connection) : Connection := { c with sending := false }

def stopReading (c : Connection) : Connection := { c with reading := false, unread := [] }

end Connection

end GatewayPlane
