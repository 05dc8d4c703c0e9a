import ConnectionRouter.Metrics.Exposition
import ConnectionRouter.Pool.View
import ConnectionRouter.Router.Shutdown
import ConnectionRouter.Router.Traffic

/-!
# Scenarios

A scenario is a world together with the connections that its callers keep: the routed ones in
named groups, and raw ones, opened straight to the cluster, under names of their own. It goes on
by steps, each of which is over when everything it started is.

* `Step`, `Answer`: what can be done, and what is answered.
* `Scenario.perform`: the scenario after a step, and the answer.
-/

namespace ConnectionRouter

/-- How many requests a step makes, and how. -/
inductive RequestPattern
  | single
  /-- So many, one after another. -/
  | inTurn (n : Nat)
  /-- So many at once. -/
  | atOnce (n : Nat)
  deriving DecidableEq

/-- A world and the connections that its callers keep. -/
structure Scenario where
  world : World := {}
  groups : Table (List RoutedConnection) := ∅
  raw : Table Connection := ∅

/-- A step of a scenario. -/
inductive Step
  | advance (duration : Duration)
  | change (change : Change)
  /-- Makes a router under a name. -/
  | create (router : String) (config : Config)
  /-- Requests connections into a group, while changes happen at the given times after the
  start. -/
  | connect (router group : String) (pattern : RequestPattern)
      (plan : List (Duration × Change)) (patience : Option Duration)
  /-- Closes a group, or its first connection to an address. -/
  | close (group : String) (addr : Option HostAddr)
  /-- Lets go of a group, or of its first connection to an address. -/
  | drop (group : String) (addr : Option HostAddr)
  | shutdown (router : String)
  /-- Refreshes the balancer of a router through a connection made for it. -/
  | refresh (router : String) (via : HostAddr)
  | query (router : String) (host : HostKey)
  | bootstrap (router : String)
  | metrics
  | rawConnect (name : String) (addr : HostAddr)
  | rawQuery (name : String)
  | rawClose (name : String)
  | rawDrop (name : String)
  deriving DecidableEq

/-- How a balancer sees a host. -/
structure Standing where
  count : Option Nat
  selectable : Bool
  morePreferred : Bool
  needsRefresh : Bool
  deriving DecidableEq

/-- The answer to a step. -/
inductive Answer
  | none
  | failed (error : RoutingError)
  | created (seeds : List HostAddr) (balancer : Option BalancerId) (balancers : Nat)
  | connection (outcome : Outcome) (elapsed : Duration)
  | tally (outcomes : List Outcome)
  /-- So many connections were closed, with these errors. -/
  | closed (count : Nat) (errors : List (ConnectMode × RoutingError))
  | refreshed (ok : Bool)
  | standing (standing : Standing)
  | candidates (addrs : List HostAddr)
  | metrics (series : List (String × String))
  | rawConnected (host : String) (time : Instant)
  | rows (rows : List Row)
  | rawClosed (closed : Bool)
  | existed (existed : Bool)

namespace World

/-- A connect to an address and nothing beside it; the clock moves by its delay. -/
def connectAlone (w : World) (addr : HostAddr) : World × Except RoutingError Connection :=
  let (network, delay) := w.network.attempt addr
  let (network, result) := network.connect addr
  ({ w with network := network, now := w.now + delay }, result)

/-- A connect straight to the cluster, which no fault can reach. -/
def connectRaw (w : World) (addr : HostAddr) : World × Except RoutingError Connection :=
  let faults := w.network.faults
  let (w, result) := { w with network := { cluster := w.network.cluster } }.connectAlone addr
  ({ w with network := { w.network with faults := faults } }, result)

/-- Refreshes a balancer over a connection while no other refresh is under way. -/
def refreshAlone (w : World) (id : BalancerId) (conn : Connection) : World × Bool :=
  match w.registry.balancer? id with
  | none => (w, false)
  | some b =>
    let (b, stage, metric) := b.startRefresh 0 w.now
    let w := { w with ledger := w.ledger.note metric }
    match stage with
    | .done ok => ({ w with registry := w.registry.put id b }, ok)
    | .queued => (w, false)
    | .querying =>
      let (network, answer) := w.network.query conn
      let (b, ok, metric) := b.finishRefresh 0 w.now conn.addr.host answer
      ({ w with
          network := network
          registry := w.registry.put id b
          ledger := w.ledger.note metric }, ok)

/-- How the balancer of a router sees a host. -/
def standing? (w : World) (router : String) (host : HostKey) : Option Standing := do
  let id ← w.balancerOf? router
  let b ← w.registry.balancer? id
  return { count := b.pool.count? host
           selectable := b.pool.isSelectable host
           morePreferred := b.hasMorePreferred host
           needsRefresh := b.needsRefresh w.now }

/-- The world with a router under a name; a router that had the name is gone with its control
connection. -/
def install (w : World) (name : String) (r : Router) (registry : Registry) : World :=
  let w := w.drop (((w.routers[name]?).bind (·.control)).toList)
  { w with routers := w.routers.insert name r, registry := registry }

end World

/-- Whether a connection goes to an address. -/
def RoutedConnection.goesTo (c : RoutedConnection) (addr : HostAddr) : Bool := c.conn.addr == addr

/-- The connections that a step means and the others of their group. -/
def pickOut (conns : List RoutedConnection) :
    Option HostAddr → List RoutedConnection × List RoutedConnection
  | none => (conns, [])
  | some addr =>
    match conns.findIdx? (·.goesTo addr) with
    | none => ([], conns)
    | some i => (conns[i]?.toList, conns.eraseIdx i)

namespace Scenario

/-- The scenario with another world. -/
def setWorld (s : Scenario) (w : World) : Scenario := { s with world := w }

/-- The connections of a group. -/
def group (s : Scenario) (name : String) : List RoutedConnection := s.groups[name]?.getD []

/-- Requests connections into a group. -/
def connect (s : Scenario) (router group : String) (pattern : RequestPattern)
    (plan : List (Duration × Change)) (patience : Option Duration) : Scenario × Answer :=
  let start := s.world.now
  let lanes := match pattern with
    | .single => World.lanesInTurn router 1 patience
    | .inTurn n => World.lanesInTurn router n patience
    | .atOnce n => World.lanesAtOnce router n patience
  let (w, ended) := s.world.serve lanes (plan.map fun (after, c) => (start + after, c))
  let got := ended.filterMap (·.outcome.connection?)
  let s := { s with
    world := w
    groups := s.groups.insert group (s.group group ++ got) }
  match pattern, ended with
  | .single, [e] => (s, .connection e.outcome (e.time - start))
  | _, _ => (s, .tally (ended.map (·.outcome)))

/-- Opens a raw connection under a name; a connection that had the name is dropped. -/
def rawConnect (s : Scenario) (name : String) (addr : HostAddr) : Scenario × Answer :=
  let (w, result) := s.world.connectRaw addr
  match result with
  | .error e => (s.setWorld w, .failed e)
  | .ok conn =>
    ({ s with
        world := w.drop (s.raw[name]?).toList
        raw := s.raw.insert name conn }, .rawConnected conn.addr.host w.now)

/-- Refreshes the balancer of a router through a connection made for it. -/
def refresh (s : Scenario) (router : String) (via : HostAddr) : Scenario × Answer :=
  let (w, result) := s.world.connectAlone via
  match result with
  | .error e => (s.setWorld w, .failed e)
  | .ok conn =>
    match w.balancerOf? router with
    | none => (s.setWorld (w.drop [conn]), .none)
    | some id =>
      let (w, ok) := w.refreshAlone id conn
      (s.setWorld (w.drop [conn]), .refreshed ok)

/-- The scenario after a step, and the answer. -/
def perform (s : Scenario) : Step → Scenario × Answer
  | .advance duration => (s.setWorld { s.world with now := s.world.now + duration }, .none)
  | .change c => (s.setWorld (s.world.change c), .none)
  | .create name config =>
    match Router.create config s.world.registry with
    | .error e => (s, .failed e)
    | .ok (r, registry) =>
      (s.setWorld (s.world.install name r registry), .created r.seeds r.balancer registry.size)
  | .connect router group pattern plan patience => s.connect router group pattern plan patience
  | .close name addr =>
    let (chosen, others) := pickOut (s.group name) addr
    let (w, errors) := s.world.closeAll chosen
    ({ s with world := w, groups := s.groups.insert name others }, .closed chosen.length errors)
  | .drop name addr =>
    let (chosen, others) := pickOut (s.group name) addr
    ({ s with
        world := chosen.foldl World.dropRouted s.world
        groups := s.groups.insert name others }, .closed chosen.length [])
  | .shutdown router => (s.setWorld (s.world.shutdown router), .none)
  | .refresh router via => s.refresh router via
  | .query router host => (s, (s.world.standing? router host).elim .none .standing)
  | .bootstrap router =>
    match s.world.scene? router with
    | none => (s, .none)
    | some scene =>
      (s, .candidates (scene.balancer.bootstrapCandidates scene.router.seeds))
  | .metrics => (s, .metrics s.world.ledger.series)
  | .rawConnect name addr => s.rawConnect name addr
  | .rawQuery name =>
    match s.raw[name]? with
    | none => (s, .none)
    | some conn =>
      let (cluster, result) := s.world.network.cluster.query conn
      let s := s.setWorld (s.world.withCluster fun _ => cluster)
      match result with
      | .ok rows => (s, .rows rows)
      | .error e => (s, .failed e)
  | .rawClose name =>
    match s.raw[name]? with
    | none => (s, .none)
    | some conn =>
      let (cluster, conn) := s.world.network.cluster.close conn
      ({ s with
          world := s.world.withCluster fun _ => cluster
          raw := s.raw.insert name conn }, .rawClosed conn.closed)
  | .rawDrop name =>
    match s.raw[name]? with
    | none => (s, .existed false)
    | some conn =>
      ({ s with world := s.world.drop [conn], raw := s.raw.erase name }, .existed true)

end Scenario

end ConnectionRouter
