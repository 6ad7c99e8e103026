/-!
# Shutting down

A server that shuts down waits for the operations that still run, but not for longer than
its grace. The clock counts milliseconds.
-/
namespace GatewayPlane

inductive ShutdownPhase where
  | serving
  /-- Waiting for operations until the clock reaches the deadline. -/
  | draining (deadline : Nat)
  | drained
  | expired
  deriving DecidableEq, Repr, Inhabited

structure Shutdown where
  phase : ShutdownPhase := .serving
  operations : Nat := 0
  now : Nat := 0
  deriving DecidableEq, Repr, Inhabited

namespace Shutdown

/-- Whether a shutdown has begun. -/
def isShutdown (s : Shutdown) : Bool := s.phase != .serving

/-- Stops waiting when nothing is left to wait for, or else when the deadline has come. -/
def check (s : Shutdown) : Shutdown :=
  match s.phase with
  | .draining deadline =>
    if s.operations = 0 then { s with phase := .drained }
    else if deadline ≤ s.now then { s with phase := .expired }
    else s
  | _ => s

def register (s : Shutdown) : Shutdown := { s with operations := s.operations + 1 }

def release (s : Shutdown) : Shutdown :=
  { s with operations := s.operations - 1 }.check

/-- Begins to shut down, unless that was done before; says whether it was not. -/
def start (s : Shutdown) (grace : Nat) : Bool × Shutdown :=
  match s.phase with
  | .serving => (true, { s with phase := .draining (s.now + grace) }.check)
  | _ => (false, s)

def advance (s : Shutdown) (millis : Nat) : Shutdown := { s with now := s.now + millis }.check

/-- Lets the clock run until nothing is waited for. -/
def runOut (s : Shutdown) : Shutdown :=
  match s.phase with
  | .draining deadline => s.advance (deadline - s.now)
  | _ => s

/-- Whether all operations ended in time, once that is known. -/
def outcome? (s : Shutdown) : Option Bool :=
  match s.phase with
  | .drained => some true
  | .expired => some false
  | _ => none

end Shutdown

end GatewayPlane
