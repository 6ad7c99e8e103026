import GatewayPlane.Proofs.Registry.Representation

/-!
# Tasks that work on one node at the same time

What is known of a node stands in an entry that is found in a map, and the lock that keeps
tasks apart is the entry's own. A removal takes the entry out of the map before it asks for
the lock, and from then on a task can make another entry, with another lock, for the same
node.

A task looks the entry up, takes its lock, and lets go of it again; taking something out of
the map and out of the cache are steps by themselves. What a task does to an entry and to
the cache while it holds the lock is one step: in all of it others can see only one change.
-/
namespace GatewayPlane.Concurrency

/-- What a registry can be asked to do with the node. -/
inductive Task where
  | listen (port : UInt16)
  | deploy (c : Contribution)
  | undeploy (deploymentId : String)
  | remove
  deriving DecidableEq

abbrev Reply := Except Fault (Option Version)

namespace Task

def command (node : NodeId) : Task → Registry.Command
  | listen port => .listen node port
  | deploy c => .deploy node c
  | undeploy deploymentId => .undeploy node deploymentId
  | remove => .remove node

/-- The fault of a task that shows before the node is looked up. -/
def fault? : Task → Option Fault
  | listen port => if port = 0 then some (.validation "listener_port" "must be non-zero") else none
  | deploy c =>
    if c.deploymentId.isEmpty then some (.validation "deployment_id" "must not be empty") else none
  | undeploy _ | remove => none

/-- Whether the task makes an entry when there is none. -/
def creates : Task → Bool
  | listen _ | deploy _ => true
  | undeploy _ | remove => false

/-- Whether the task takes the entry out of the map where it finds it. -/
def takesOut : Task → Bool
  | remove => true
  | listen _ | deploy _ | undeploy _ => false

/-- What a task does with an entry while it holds the lock. Without a version there is
nothing left of the node. -/
def work (node : NodeId) (e : NodeEntry) (p : Publications) :
    Task → NodeEntry.Outcome (Option Version)
  | listen port => (e.listen p node port).map (·.map some) id
  | deploy c => (e.deploy p node c).map (·.map some) id
  | undeploy deploymentId =>
    if e.contributions.any (·.deploymentId == deploymentId) then
      let rest := e.contributions.eraseP (·.deploymentId == deploymentId)
      if rest.isEmpty && e.base.isEmpty then (.ok none, { e with contributions := rest }, p)
      else
        match p.publish node e.base rest with
        | (.error f, p) => (.error f, e, p)
        | (.ok v, p) => (.ok (some v), { e with contributions := rest }, p)
    else (.error (.deploymentNotFound node deploymentId), e, p)
  | remove => (.ok none, e, p)

/-- How the task takes the node out of the cache. -/
def clear (node : NodeId) (cache : Cache) : Task → Cache
  | remove => (cache.removeNode node).2
  | listen _ | deploy _ | undeploy _ => (cache.clear node).2

end Task

/-- An entry with its lock, and a record of the commands that were carried out on it. -/
structure Cell where
  entry : NodeEntry := {}
  removed : Bool := false
  locked : Bool := false
  edits : List Registry.Command := []

/-- How far a task has come. -/
inductive Stage where
  | ready
  | found (i : Nat)
  /-- The entry is marked as removed, since nothing has come of the first task on it. -/
  | forgetting (i : Nat) (f : Fault)
  /-- The entry is marked as removed, since its last deployment is gone. -/
  | dropping (i : Nat)
  /-- The entry is marked as removed, and no longer in the map. -/
  | clearing (i : Nat)
  | done (reply : Reply)
  deriving DecidableEq

def Stage.isDone : Stage → Bool
  | done _ => true
  | _ => false

structure Thread where
  task : Task
  stage : Stage := .ready
  deriving DecidableEq

/-- A change to what the cache holds, with the entry in whose name it was made. -/
inductive Write where
  | published (i : Nat)
  | cleared (i : Nat)

/-- All entries that there have been, the one in the map, and a record of the writes, the
last one first. -/
structure Machine where
  cells : List Cell := []
  current : Option Nat := none
  published : Publications := {}
  threads : List Thread := []
  writes : List Write := []

namespace Machine

/-- What the map has for the node. -/
def known? (m : Machine) : Option NodeEntry :=
  m.current.bind fun i => (m.cells[i]?).map (·.entry)

def held? (m : Machine) (node : NodeId) : Option Snapshot := m.published.cache.held? node

def goto (m : Machine) (t : Nat) (th : Thread) : Machine :=
  { m with threads := m.threads.set t th }

def put (m : Machine) (i : Nat) (c : Cell) : Machine := { m with cells := m.cells.set i c }

def publish (m : Machine) (p : Publications) : Machine := { m with published := p }

def log (m : Machine) (w : Write) : Machine := { m with writes := w :: m.writes }

/-- Takes an entry out of the map, if it is the one in it. -/
def takeOut (m : Machine) (i : Nat) : Machine :=
  { m with current := if m.current = some i then none else m.current }

def unlock (m : Machine) (i : Nat) : Machine :=
  { m with cells := m.cells.modify i fun c => { c with locked := false } }

/-- Puts a new entry into the map. -/
def create (m : Machine) : Machine :=
  { m with cells := m.cells ++ [{}], current := some m.cells.length }

/-- Looks the entry up in the map. -/
def find (m : Machine) (node : NodeId) (t : Nat) (task : Task) : Machine :=
  match task.fault?, m.current with
  | some f, _ => m.goto t ⟨task, .done (.error f)⟩
  | none, some i =>
    (if task.takesOut then m.takeOut i else m).goto t ⟨task, .found i⟩
  | none, none =>
    if task.creates then m.create.goto t ⟨task, .found m.cells.length⟩
    else m.goto t ⟨task, .done (.error (.nodeNotFound node))⟩

/-- Takes the lock of an entry and does the task. A thread that finds the entry removed
tries again, or knows that the node is not there. -/
def hold (m : Machine) (node : NodeId) (t : Nat) (task : Task) (i : Nat) (c : Cell) : Machine :=
  if c.removed && !task.takesOut then
    m.goto t ⟨task, if task.creates then .ready else .done (.error (.nodeNotFound node))⟩
  else
    let (result, e, p) := task.work node c.entry m.published
    let edits := c.edits ++ [task.command node]
    match result with
    | .ok (some v) =>
      let m := if p.cache.stats.set = m.published.cache.stats.set then m else m.log (.published i)
      ((m.publish p).put i { c with entry := e, edits := edits }).goto t
        ⟨task, .done (.ok (some v))⟩
    | .ok none =>
      ((m.publish p).put i ⟨e, true, true, edits⟩).goto t
        ⟨task, if task.takesOut then .clearing i else .dropping i⟩
    | .error f =>
      -- an entry that was made for a task that fails is not to stay
      if task.creates && e.isBare then
        ((m.publish p).put i { c with removed := true, locked := true }).goto t
          ⟨task, .forgetting i f⟩
      else (m.publish p).goto t ⟨task, .done (.error f)⟩

def advance (m : Machine) (node : NodeId) (t : Nat) : Thread → Machine
  | ⟨task, .ready⟩ => m.find node t task
  | ⟨task, .found i⟩ =>
    match m.cells[i]? with
    | some c => if c.locked then m else m.hold node t task i c
    | none => m
  | ⟨task, .forgetting i f⟩ => ((m.takeOut i).unlock i).goto t ⟨task, .done (.error f)⟩
  | ⟨task, .dropping i⟩ => (m.takeOut i).goto t ⟨task, .clearing i⟩
  | ⟨task, .clearing i⟩ =>
    let p := { m.published with cache := task.clear node m.published.cache }
    (((m.publish p).log (.cleared i)).unlock i).goto t ⟨task, .done (.ok none)⟩
  | ⟨_, .done _⟩ => m

/-- The next step of a thread. One that waits for a lock, or is done, stays where it is. -/
def step (node : NodeId) (m : Machine) (t : Nat) : Machine :=
  match m.threads[t]? with
  | some th => m.advance node t th
  | none => m

/-- Steps of the threads in the order of a schedule. -/
def run (node : NodeId) (m : Machine) (schedule : List Nat) : Machine :=
  schedule.foldl (step node) m

def start (tasks : List Task) : Machine := { threads := tasks.map (⟨·, .ready⟩) }

/-- Whether all threads are done. -/
def quiet (m : Machine) : Bool := m.threads.all (·.stage.isDone)

end Machine

end GatewayPlane.Concurrency
