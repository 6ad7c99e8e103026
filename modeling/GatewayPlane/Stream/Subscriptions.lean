import GatewayPlane.Snapshot
import GatewayPlane.Stream.Message

/-!
# Subscriptions

What a client has subscribed to on a stream, kind by kind, and which versions it was sent,
accepted and rejected. Each response carries all that the client wants of its kind. Nothing
is sent for a rejection as such; whether a version was rejected before is not asked.
-/
namespace GatewayPlane

/-- Texts that tell the responses of all streams apart: the number of the stream, and that
of the response on it. -/
structure Nonces where
  stream : Nat := 0
  issued : Nat := 0
  deriving DecidableEq, Repr, Inhabited

namespace Nonces

def text (stream number : Nat) : String :=
  String.ofList (Nat.toDigits 10 stream ++ '-' :: Nat.toDigits 10 number)

/-- Whether a text has the form of a nonce. -/
def isText (s : String) : Bool :=
  let isNumber (digits : List Char) : Bool := !digits.isEmpty && digits.all Char.isDigit
  match s.toList.span (· ≠ '-') with
  | (stream, '-' :: number) => isNumber stream && isNumber number
  | _ => false

def next (n : Nonces) : String × Nonces :=
  (text n.stream n.issued, { n with issued := n.issued + 1 })

end Nonces

/-- What a client wants of one kind, and how far it has come with it. -/
structure Subscription where
  names : List String := []
  lastNonce : Option String := none
  sent : Option Version := none
  accepted : Option Version := none
  rejected : Option Version := none
  deriving DecidableEq, Repr, Inhabited

namespace Subscription

/-- The name that stands for every name. -/
def wildcard : String := "*"

/-- The names that are looked up; none when everything is wanted. -/
def wanted (s : Subscription) : List String := if s.names.contains wildcard then [] else s.names

/-- What the answer to the last response makes of a subscription, and whether resources are
due whatever was sent before. -/
def judge (s : Subscription) (r : DiscoveryRequest) : Subscription × Bool :=
  match r.error with
  | some _ => ({ s with rejected := s.sent }, false)
  | none => ({ s with accepted := s.sent }, s.names != r.names)

/-- Takes a request, unless it answers another response than the last one. -/
def take? (s : Option Subscription) (r : DiscoveryRequest) : Option (Subscription × Bool) :=
  if r.nonce = "" then some ({ s.getD {} with names := r.names }, true)
  else
    match s with
    | none => none
    | some s =>
      if s.lastNonce = some r.nonce then
        let (s, due) := s.judge r
        some ({ s with names := r.names }, due)
      else none

end Subscription

structure Subscriptions where
  ofKind : PerKind (Option Subscription) := .same none
  nonces : Nonces := {}
  deriving DecidableEq, Repr, Inhabited

namespace Subscriptions

def get? (ss : Subscriptions) (k : Kind) : Option Subscription := ss.ofKind.get k

def put (ss : Subscriptions) (k : Kind) (s : Subscription) : Subscriptions :=
  { ss with ofKind := ss.ofKind.set k (some s) }

/-- The kinds that are subscribed to. -/
def kinds (ss : Subscriptions) : List Kind := Kind.pushOrder.filter fun k => (ss.get? k).isSome

def accepted? (ss : Subscriptions) (k : Kind) : Option Version := (ss.get? k).bind (·.accepted)

def rejected? (ss : Subscriptions) (k : Kind) : Option Version := (ss.get? k).bind (·.rejected)

/-- Sends what a subscription wants of a snapshot. -/
def respond (ss : Subscriptions) (k : Kind) (s : Subscription) (snapshot : Snapshot) :
    DiscoveryResponse × Subscriptions :=
  let (nonce, nonces) := ss.nonces.next
  (⟨k, snapshot.version, nonce, snapshot.select k s.wanted⟩,
    { ss with nonces := nonces }.put k
      { s with lastNonce := some nonce, sent := some snapshot.version })

/-- Sends what is subscribed to of one kind, if it is due or of another version than what
was sent last. -/
def refresh (ss : Subscriptions) (k : Kind) (snapshot : Snapshot) (due : Bool) :
    Option DiscoveryResponse × Subscriptions :=
  match ss.get? k with
  | none => (none, ss)
  | some s =>
    if due || s.sent != some snapshot.version then
      let (response, ss) := ss.respond k s snapshot
      (some response, ss)
    else (none, ss)

/-- Takes a request, and answers it from the current snapshot. There is nothing to take in
a request of an unknown type, or in one that answers an outdated response. -/
def receive? (ss : Subscriptions) (r : DiscoveryRequest) (current : Option Snapshot) :
    Option (Option DiscoveryResponse × Subscriptions) := do
  let k ← Kind.ofTypeUrl? r.typeUrl
  let (s, due) ← Subscription.take? (ss.get? k) r
  let ss := ss.put k s
  match current with
  | none => return (none, ss)
  | some snapshot => return ss.refresh k snapshot due

/-- Sends a snapshot, one response for each of these kinds that is subscribed to. -/
def pushKinds (snapshot : Snapshot) : List Kind → Subscriptions →
    List DiscoveryResponse × Subscriptions
  | [], ss => ([], ss)
  | k :: rest, ss =>
    let (response, ss) := ss.refresh k snapshot false
    let (responses, ss) := pushKinds snapshot rest ss
    (response.toList ++ responses, ss)

/-- Sends a snapshot, each kind after those that it refers to. -/
def push (ss : Subscriptions) (snapshot : Snapshot) : List DiscoveryResponse × Subscriptions :=
  pushKinds snapshot Kind.pushOrder ss

end Subscriptions

end GatewayPlane
