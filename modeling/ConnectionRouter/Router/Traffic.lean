import ConnectionRouter.Router.Change
import ConnectionRouter.Schedule

/-!
# Traffic

Requests that run side by side in a world, while changes happen to it at set times. Requests
that follow one another form a lane; each may be given up when its patience is over.

* `Lane.step?`: the next step of a lane.
* `World.serve`: a world's lanes and planned changes until all are done.
* `World.stepBound`: more steps than one request takes. In one round no host is dialed twice,
  every dial is followed by at most one turn, one query and one close, and there are at most
  eleven rounds.

A request that can go on at the moment its patience ends still takes that step.
-/

namespace ConnectionRouter

/-- How a request ended. -/
inductive Outcome
  | served (result : Except RoutingError RoutedConnection)
  /-- Given up. -/
  | abandoned

namespace Outcome

/-- The result of a request that was not given up. -/
def result? : Outcome → Option (Except RoutingError RoutedConnection)
  | served result => some result
  | abandoned => none

/-- The connection that a request got. -/
def connection? (o : Outcome) : Option RoutedConnection := o.result?.bind Except.toOption

end Outcome

/-- A request that has ended. -/
structure Ended where
  outcome : Outcome
  time : Instant

/-- Requests that follow one another. -/
structure Lane where
  router : String
  caller : Caller
  /-- After how long each request is given up. -/
  patience : Option Duration
  /-- The number of requests still to start. -/
  left : Nat
  /-- The request under way, and when it is given up. -/
  current : Option (Request × Option Instant) := none
  /-- The requests that have ended, latest first. -/
  ended : List Ended := []

namespace Lane

/-- The lane after its request has ended. -/
def finish (l : Lane) (outcome : Outcome) (now : Instant) : Lane :=
  { l with current := none, ended := ⟨outcome, now⟩ :: l.ended }

/-- The next step of a lane: its request goes on, ends or is given up, or the next one starts. -/
def step? (w : World) (l : Lane) : Option (World × Lane) :=
  match l.current with
  | none =>
    match l.left with
    | 0 => none
    | left + 1 =>
      let (w, r) := w.begin l.router l.caller 0
      some (w, { l with left := left, current := some (r, l.patience.map (w.now + ·)) })
  | some (r, deadline) =>
    match w.resume? r 0 with
    | some (w, r) => some (w, { l with current := some (r, deadline) })
    | none =>
      match r.result?, deadline with
      | some result, _ => some (w, l.finish (.served result) w.now)
      | none, none => none
      | none, some deadline =>
        if deadline ≤ w.now then some (w.abandon r, l.finish .abandoned w.now) else none

/-- When a lane that waits for the clock can go on. -/
def wake? (l : Lane) : Option Instant :=
  match l.current with
  | none => none
  | some (r, deadline) =>
    match r.due.map (·.time), deadline with
    | some due, some deadline => some (min due deadline)
    | some due, none => some due
    | none, deadline => deadline

end Lane

/-- What goes on in a world: a lane of requests, or a change planned for an instant. -/
inductive Task
  | lane (lane : Lane)
  | planned (time : Instant) (change : Change)
  /-- A change that has happened. -/
  | past

namespace Task

def step? (w : World) : Task → Option (World × Task)
  | lane l => (l.step? w).map fun (w, l) => (w, lane l)
  | planned time change => if time ≤ w.now then some (w.change change, past) else none
  | past => none

def wake? : Task → Option Instant
  | lane l => l.wake?
  | planned time _ => some time
  | past => none

/-- The requests of a task that have ended, in order. -/
def ended : Task → List Ended
  | lane l => l.ended.reverse
  | planned .. | past => []

end Task

/-- Tasks in a world. -/
def Task.inWorld : Tasks World Task where
  step? := Task.step?
  wake? := Task.wake?
  now := World.now
  moveTo w time := { w with now := time }

namespace World

/-- More steps than one request takes while at most `extra` nodes come in. -/
def stepBound (w : World) (extra : Nat) : Nat :=
  let seeds := w.routers.sumBy fun _ r => r.seeds.length
  let tracked := w.registry.balancers.foldl (fun n b => n + b.pool.members.size) 0
  200 * (seeds + tracked + w.network.cluster.nodes.length + extra + 1)

/-- The lanes and planned changes of a world until all are done, and how the requests ended, by
lane. -/
def serve (w : World) (lanes : List Lane) (plan : List (Instant × Change)) :
    World × List Ended :=
  let requests := lanes.foldl (fun n lane => n + lane.left) 0
  let steps := w.stepBound plan.length * (requests + 1) + plan.length
  let tasks := lanes.map .lane ++ plan.map fun (time, change) => .planned time change
  let (w, tasks) := Task.inWorld.run steps (2 * steps) w tasks
  (w, tasks.flatMap Task.ended)

/-- The lanes of `n` requests to a router, all at once. -/
def lanesAtOnce (router : String) (n : Nat) (patience : Option Duration) : List Lane :=
  (List.range n).map fun caller => { router, caller, patience, left := 1 }

/-- The lane of `n` requests to a router, one after another. -/
def lanesInTurn (router : String) (n : Nat) (patience : Option Duration) : List Lane :=
  [{ router, caller := 0, patience, left := n }]

end World

end ConnectionRouter
