import ConnectionRouter.Cluster.Network
import ConnectionRouter.Router.Request

/-!
# Requests in a simulated world

A world is a simulated network, the registry, named routers, the ledger and a clock. A request
in it is the stage it stands at and, while it waits for a connect, the time when that ends.

* `World.begin`: a request starts.
* `World.resume?`: a request takes its next step, if what it waits for is there.
* `World.abandon`: a request is given up.
* `World.closeRouted`, `World.dropRouted`: a connection that was handed out comes back.

Queries and closes are answered at once; a connect ends after the delay of its member or at the
router's limit, whichever is first, and at the limit itself it still succeeds.
-/

namespace ConnectionRouter

/-- A simulated network with the routers that work on it. -/
structure World where
  now : Instant := 0
  /-- How far the clock moves at every step of a request. -/
  tick : Duration := 0
  network : Network := {}
  registry : Registry := {}
  routers : Table Router := ∅
  ledger : Ledger := {}
  deriving DecidableEq

/-- When the connect that a request waits for ends. -/
structure Due where
  time : Instant
  /-- Whether it ends because its limit is reached. -/
  late : Bool
  deriving DecidableEq

/-- A request under way. -/
structure Request where
  /-- The name of the router that serves it. -/
  router : String
  caller : Caller
  stage : Stage
  /-- Present while a connect is under way. -/
  due : Option Due := none

/-- The result of a request, once it has one. -/
def Request.result? (r : Request) : Option (Except RoutingError RoutedConnection) :=
  match r.stage with
  | .finished result => some result
  | _ => none

/-- How long a connect may take under a limit in seconds. A limit that a clock of 63 bits cannot
reach is thirty years. -/
def connectLimit (secs : Nat) : Duration :=
  .ofSeconds (if secs ≤ Text.maxSigned then secs else 30 * 365 * 24 * 60 * 60)

/-- When a connect that takes `delay` under a limit ends. -/
def Due.ofDelay (now : Instant) (delay limit : Duration) : Due :=
  if limit < delay then ⟨now + limit, true⟩ else ⟨now + delay, false⟩

namespace World

/-- What a request to a router with a balancer sees and changes. -/
def scene? (w : World) (router : String) : Option Scene := do
  let r ← w.routers[router]?
  let id ← r.balancer
  let b ← w.registry.balancer? id
  return { router := r, id := id, balancer := b, ledger := w.ledger }

/-- The world after a request has changed what it sees. -/
def setScene (w : World) (router : String) (s : Scene) : World :=
  { w with
    routers := w.routers.insert router s.router
    registry := w.registry.put s.id s.balancer
    ledger := s.ledger }

/-- Lets a part of a request change what it sees; without a balancer there is nothing to see. -/
def play (w : World) (router : String) (part : Scene → Scene × Stage) : World × Stage :=
  match w.scene? router with
  | some s =>
    let (s, stage) := part s
    (w.setScene router s, stage)
  | none => (w, .finished (.error (.clusterUnavailable .noSeeds)))

/-- The request at its next stage; a connect starts here. -/
def enter (w : World) (r : Request) (stage : Stage) : World × Request :=
  match stage with
  | .opening addr _ =>
    let (network, delay) := w.network.attempt addr
    let secs := ((w.routers[r.router]?).map (·.connectSecs)).getD 0
    ({ w with network := network },
      { r with stage := stage, due := some (.ofDelay w.now delay (connectLimit secs)) })
  | _ => (w, { r with stage := stage, due := none })

/-- A request to a router starts. -/
def begin (w : World) (router : String) (caller : Caller) (pick : Nat) : World × Request :=
  let r : Request := ⟨router, caller, .finished (.error (.clusterUnavailable .noSeeds)), none⟩
  match w.routers[router]? with
  | none => (w, r)
  | some found =>
    if found.balancer.isSome then
      let (w, stage) := w.play router (·.beginRound caller w.now 1 pick)
      w.enter r stage
    else
      let (ledger, stage) := connectThroughSeeds found w.ledger
      { w with ledger := ledger }.enter r stage

/-- The end of the connect that a request waits for. -/
def arrive (w : World) (r : Request) (addr : HostAddr) (due : Due) :
    World × Except RoutingError Connection :=
  if due.late then
    let secs := ((w.routers[r.router]?).map (·.connectSecs)).getD 0
    (w, .error (.nodeUnreachable addr.text (.timedOut secs)))
  else
    let (network, result) := w.network.connect addr
    ({ w with network := network }, result)

/-- The step of a request at the present time, if what it waits for is there. -/
def proceed? (w : World) (r : Request) (pick : Nat) : Option (World × Request) :=
  match r.stage with
  | .finished _ => none
  | .awaitingControl round =>
    if ((w.routers[r.router]?).map (·.turn.isHeldBy r.caller)).getD false then
      let (w, stage) := w.play r.router (·.controlGranted r.caller w.now round pick)
      some (w.enter r stage)
    else none
  | .awaitingTurn purpose =>
    if ((w.scene? r.router).map (·.balancer.turn.isHeldBy r.caller)).getD false then
      let (w, stage) := w.play r.router (·.turnGranted r.caller w.now pick purpose)
      some (w.enter r stage)
    else none
  | .opening addr purpose =>
    match r.due with
    | none => none
    | some due =>
      if w.now < due.time then none
      else
        let (w, result) := w.arrive r addr due
        match purpose with
        | .seed later => some (w.enter r (seedOpened later result))
        | purpose =>
          let (w, stage) := w.play r.router (·.opened r.caller w.now pick purpose result)
          some (w.enter r stage)
  | .querying purpose =>
    match (w.scene? r.router).bind (·.refreshConnection? purpose) with
    | none => none
    | some conn =>
      let (network, answer) := w.network.query conn
      let w := { w with network := network }
      let (w, stage) :=
        w.play r.router (·.answered r.caller w.now pick purpose conn.addr.host answer)
      some (w.enter r stage)
  | .closing conn purpose =>
    let w := { w with network := (w.network.close conn).1 }
    let (w, stage) := w.play r.router (·.closed r.caller w.now pick purpose)
    some (w.enter r stage)

/-- The next step of a request, which takes a tick of the clock, if what it waits for is there. -/
def resume? (w : World) (r : Request) (pick : Nat) : Option (World × Request) :=
  { w with now := w.now + w.tick }.proceed? r pick

/-- Lets go of connections. -/
def drop (w : World) (conns : List Connection) : World :=
  { w with network := conns.foldl Network.drop w.network }

/-- A request is given up before it has a result. -/
def abandon (w : World) (r : Request) : World :=
  match w.scene? r.router with
  | some s =>
    let (s, conns) := s.abandon r.caller r.stage
    (w.setScene r.router s).drop conns
  | none => w

/-- Changes a balancer and counts what the change yields. -/
def withBalancer (w : World) (id : BalancerId) (f : Balancer → Balancer × Option Metric) : World :=
  match w.registry.balancer? id with
  | none => w
  | some b =>
    let (b, metric) := f b
    { w with registry := w.registry.put id b, ledger := w.ledger.note metric }

/-- Gives a lease back. -/
def release (w : World) (lease : Lease) : World :=
  w.withBalancer lease.balancer (·.release lease.host)

/-- Lets go of a connection that was handed out, and gives back its lease. -/
def dropRouted (w : World) (c : RoutedConnection) : World :=
  c.lease.elim (w.drop [c.conn]) (w.drop [c.conn]).release

/-- Closes a connection that was handed out, then gives back its lease. -/
def closeRouted (w : World) (c : RoutedConnection) : World × Except RoutingError Unit :=
  let (network, result) := w.network.close c.conn
  let w := { w with network := network }
  (c.lease.elim w w.release, result)

/-- Closes connections in order and collects the errors. -/
def closeAll (w : World) : List RoutedConnection → World × List (ConnectMode × RoutingError)
  | [] => (w, [])
  | c :: rest =>
    let (w, result) := w.closeRouted c
    let (w, errors) := w.closeAll rest
    match result with
    | .ok _ => (w, errors)
    | .error e => (w, (c.mode, e) :: errors)

end World

end ConnectionRouter
