import ConnectionRouter.Balancer.Refresh
import ConnectionRouter.Schedule

/-!
# A balancer by itself

A balancer under a clock, with its ledger and the leases taken from it, but without any router.
Refreshes may run side by side, each over a connection of its own that takes its time to answer.

* `LoneBalancer.reserve`, `LoneBalancer.release`: leases by name.
* `LoneBalancer.refreshAll`: refreshes that start together.
-/

namespace ConnectionRouter

/-- A balancer under a clock. -/
structure LoneBalancer where
  balancer : Balancer
  now : Instant := 0
  ledger : Ledger := {}
  /-- The hosts of the leases that are out, by name. -/
  leases : Table HostKey := ∅
  deriving DecidableEq

/-- A call of refresh over a connection of its own. -/
structure RefreshCall where
  caller : Caller
  /-- The host of the connection. -/
  control : String
  /-- How long the query takes. -/
  delay : Duration
  answer : Except RoutingError (List Row)
  /-- Absent before the call. -/
  stage : Option RefreshStage := none
  /-- When the query is answered, once it runs. -/
  due : Option Instant := none
  /-- When the call was over. -/
  ended : Option Instant := none

namespace LoneBalancer

/-- Changes the balancer and counts what the change yields. -/
def update (l : LoneBalancer) (b : Balancer) (metric : Option Metric) : LoneBalancer :=
  { l with balancer := b, ledger := l.ledger.note metric }

/-- Gives a connection back that was counted against a host. -/
def giveBack (l : LoneBalancer) (host : HostKey) : LoneBalancer :=
  let (b, metric) := l.balancer.release host
  l.update b metric

/-- Takes a lease under a name; a lease that had the name is given back. -/
def reserve (l : LoneBalancer) (name : String) (excluding : List HostKey) (pick : Nat) :
    LoneBalancer × Option (HostKey × HostAddr) :=
  let (b, chosen, metric) := l.balancer.reserve excluding pick
  match chosen with
  | none => (l, none)
  | some (host, addr) =>
    let l' := { l.update b metric with leases := l.leases.insert name host }
    ((l.leases[name]?).elim l' l'.giveBack, some (host, addr))

/-- Gives the lease under a name back and tells whether there was one. -/
def release (l : LoneBalancer) (name : String) : LoneBalancer × Bool :=
  match l.leases[name]? with
  | none => (l, false)
  | some host => ({ l with leases := l.leases.erase name }.giveBack host, true)

def adjust (l : LoneBalancer) (host : HostKey) (delta : Int) : LoneBalancer × Option Nat :=
  let (b, count, metric) := l.balancer.adjust host delta
  (l.update b metric, count)

def markFailed (l : LoneBalancer) (host : HostKey) : LoneBalancer :=
  let (b, metric) := l.balancer.markFailed host l.now
  l.update b metric

def forceRefresh (l : LoneBalancer) : LoneBalancer :=
  { l with balancer := l.balancer.forceRefresh }

/-- The call at its next stage; a query starts here. -/
def enter (l : LoneBalancer) (c : RefreshCall) (stage : RefreshStage) : RefreshCall :=
  match stage with
  | .queued => { c with stage := some stage }
  | .querying => { c with stage := some stage, due := some (l.now + c.delay) }
  | .done _ => { c with stage := some stage, ended := some l.now }

/-- The next step of a call, if what it waits for is there. -/
def resume? (l : LoneBalancer) (c : RefreshCall) : Option (LoneBalancer × RefreshCall) :=
  match c.stage with
  | none =>
    let (b, stage, metric) := l.balancer.startRefresh c.caller l.now
    some (l.update b metric, l.enter c stage)
  | some .queued =>
    if l.balancer.turn.isHeldBy c.caller then
      let (b, stage) := l.balancer.resumeRefresh c.caller l.now
      some (l.update b none, l.enter c stage)
    else none
  | some .querying =>
    match c.due with
    | none => none
    | some due =>
      if l.now < due then none
      else
        let (b, ok, metric) := l.balancer.finishRefresh c.caller l.now c.control c.answer
        some (l.update b metric, l.enter c (.done ok))
  | some (.done _) => none

/-- Calls of refresh beside a balancer. -/
def calls : Tasks LoneBalancer RefreshCall where
  step? := resume?
  wake? c := if c.ended.isNone then c.due else none
  now := LoneBalancer.now
  moveTo l time := { l with now := time }

/-- Refreshes that start together, until all are over. A call takes at most three steps. -/
def refreshAll (l : LoneBalancer) (cs : List RefreshCall) : LoneBalancer × List RefreshCall :=
  calls.run 3 (8 * cs.length) l cs

end LoneBalancer

namespace RefreshCall

/-- Whether the call ended without a failed query. -/
def ok (c : RefreshCall) : Bool := c.stage == some (.done true)

/-- Whether the call ran a query. -/
def queried (c : RefreshCall) : Bool := c.due.isSome

end RefreshCall

end ConnectionRouter
