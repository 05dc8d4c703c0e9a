import ConnectionRouter.Balancer.Refresh
import ConnectionRouter.Router.Basic

/-!
# Requests

A request for a connection goes through rounds, at most one for each priority there can be:

1. refresh the topology if it is due, through the router's control connection; if there is none
   that answers, through a new one to the first seed or known member that accepts. If a new one
   does not answer either, the request goes to the seeds without balancing;
2. reserve the least loaded host of the best priority and open a connection to it; a host that
   refuses is quarantined, and another one is reserved;
3. refresh again through the new connection; a host that is no candidate any more is
   quarantined, and another one is reserved;
4. if a more preferred host is available and rounds are left, give the connection up and start
   the next round; else hand it out.

A request stops only where it waits for something outside: a turn, the opening of a connection,
the answer of a query, or a close. `Stage` tells what it waits for and everything it holds
meanwhile, so that a request that is given up can give everything back (`Scene.abandon`).

The part of a request between two waits is a function from the `Scene`, what the request sees
and changes, to the scene after it and the next stage:

* `Scene.beginRound`, and `connectThroughSeeds` for routers without a balancer: the start;
* `Scene.controlGranted`, `Scene.turnGranted`: a turn has come;
* `Scene.opened`, `Scene.answered`, `Scene.closed`: an opening, a query, or a close is over.

The argument `pick` breaks the tie of a reservation.
-/

namespace ConnectionRouter

/-- A data connection under examination. -/
structure Held where
  lease : Lease
  conn : Connection
  /-- The hosts that failed in this round, latest first. -/
  refused : List HostKey
  deriving DecidableEq

/-- Through which connection a request refreshes the topology. -/
inductive RefreshPurpose
  /-- The router's control connection. -/
  | cached (round : Nat)
  /-- A control connection that was just opened. -/
  | fresh (round : Nat) (conn : Connection)
  /-- The data connection that was just opened. -/
  | check (round : Nat) (held : Held)
  deriving DecidableEq

/-- What a connection is opened for. -/
inductive OpenPurpose
  /-- As the control connection; `later` are the candidates not tried yet, of `total`. -/
  | control (round : Nat) (later : List HostAddr) (total : Nat)
  /-- As the data connection to a reserved host. -/
  | data (round : Nat) (lease : Lease) (refused : List HostKey)
  /-- Without balancing; `later` are the seeds not tried yet. -/
  | seed (later : List HostAddr)
  deriving DecidableEq

/-- Why a connection is closed. -/
inductive ClosePurpose
  /-- The control connection did not answer. -/
  | stale (round : Nat)
  /-- The host of the data connection is no candidate any more. -/
  | rejected (round : Nat) (lease : Lease) (refused : List HostKey)
  /-- A more preferred host is available. -/
  | preempted (round : Nat) (lease : Lease)
  deriving DecidableEq

/-- What a request waits for, and what it holds meanwhile. -/
inductive Stage
  /-- Waits for its router's control connection. -/
  | awaitingControl (round : Nat)
  /-- Waits for its balancer's turn to query. -/
  | awaitingTurn (purpose : RefreshPurpose)
  | opening (addr : HostAddr) (purpose : OpenPurpose)
  | querying (purpose : RefreshPurpose)
  | closing (conn : Connection) (purpose : ClosePurpose)
  | finished (result : Except RoutingError RoutedConnection)

/-- What a balanced request sees and changes. -/
structure Scene where
  router : Router
  id : BalancerId
  balancer : Balancer
  ledger : Ledger
  deriving DecidableEq

/-- Opens the first of a list of seeds; `last` is the result if there is none. -/
def trySeeds (last : RoutingError) : List HostAddr → Stage
  | [] => .finished (.error last)
  | addr :: later => .opening addr (.seed later)

/-- A connection without balancing was opened or failed to open. -/
def seedOpened (later : List HostAddr) : Except RoutingError Connection → Stage
  | .ok conn => .finished (.ok ⟨conn, none⟩)
  | .error e => trySeeds e later

/-- The seeds in order, without balancing. -/
def connectThroughSeeds (r : Router) (l : Ledger) : Ledger × Stage :=
  (l.record .singleHostFallback, trySeeds (.clusterUnavailable .noSeeds) r.seeds)

namespace Scene

/-- The scene with one more thing counted. -/
def count (s : Scene) (m : Metric) : Scene := { s with ledger := s.ledger.record m }

/-- Gives a lease back. -/
def release (s : Scene) (lease : Lease) : Scene :=
  let (balancer, metric) := s.balancer.release lease.host
  { s with balancer := balancer, ledger := s.ledger.note metric }

/-- Gives a lease back, quarantines its host and asks for a refresh. -/
def failHost (s : Scene) (lease : Lease) (now : Instant) : Scene :=
  let s := s.release lease
  let (balancer, metric) := s.balancer.markFailed lease.host now
  { s with balancer := balancer.forceRefresh, ledger := s.ledger.note metric }

/-- Leaves the control connection to the next request. -/
def leaveControl (s : Scene) (caller : Caller) : Scene :=
  { s with router := { s.router with turn := s.router.turn.leave caller } }

/-- Goes to the seeds without balancing. -/
def fallBack (s : Scene) : Scene × Stage :=
  let (ledger, stage) := connectThroughSeeds s.router s.ledger
  ({ s with ledger := ledger }, stage)

/-- Reserves a host that has not failed in this round, and opens a connection to it. -/
def reserveNext (s : Scene) (round : Nat) (refused : List HostKey) (pick : Nat) :
    Scene × Stage :=
  match s.balancer.reserve refused pick with
  | (_, none, _) => (s, .finished (.error (.clusterUnavailable .noCandidate)))
  | (balancer, some (host, addr), metric) =>
    ({ s with balancer := balancer, ledger := s.ledger.note metric },
      .opening addr (.data round ⟨s.id, host⟩ refused))

/-- Opens the first of a list of candidates as the control connection. -/
def tryControl (s : Scene) (caller : Caller) (round total : Nat) : List HostAddr → Scene × Stage
  | [] => (s.leaveControl caller, .finished (.error (.clusterUnavailable (.noControlHost total))))
  | addr :: later => (s, .opening addr (.control round later total))

/-- Looks for a new control connection. -/
def bootstrap (s : Scene) (caller : Caller) (round : Nat) : Scene × Stage :=
  let candidates := s.balancer.bootstrapCandidates s.router.seeds
  s.tryControl caller round candidates.length candidates

/-- Hands a data connection out, or gives it up for a more preferred host. -/
def keep (s : Scene) (round : Nat) (held : Held) : Scene × Stage :=
  let s := s.count (.connectAttempt .ok)
  if round < s.balancer.rankCount && s.balancer.hasMorePreferred held.lease.host then
    (s.count .preemption, .closing held.conn (.preempted round held.lease))
  else (s, .finished (.ok ⟨held.conn, some held.lease⟩))

/-- A refresh is over. -/
def refreshed (s : Scene) (caller : Caller) (pick : Nat) (ok : Bool) :
    RefreshPurpose → Scene × Stage
  | .cached round =>
    if ok then (s.leaveControl caller).reserveNext round [] pick
    else
      match s.router.control with
      | some conn =>
        ({ s with router := { s.router with control := none } }, .closing conn (.stale round))
      | none => s.bootstrap caller round
  | .fresh round conn =>
    let s := { s with router := { s.router with control := some conn } }.leaveControl caller
    if ok then s.reserveNext round [] pick else s.fallBack
  | .check round held =>
    if ok && !s.balancer.pool.isSelectable held.lease.host then
      (s.count (.connectAttempt .rejected),
        .closing held.conn (.rejected round held.lease held.refused))
    else s.keep round held

/-- Starts a refresh. -/
def startRefresh (s : Scene) (caller : Caller) (now : Instant) (pick : Nat)
    (purpose : RefreshPurpose) : Scene × Stage :=
  let (balancer, stage, metric) := s.balancer.startRefresh caller now
  let s := { s with balancer := balancer, ledger := s.ledger.note metric }
  match stage with
  | .queued => (s, .awaitingTurn purpose)
  | .querying => (s, .querying purpose)
  | .done ok => s.refreshed caller pick ok purpose

/-- The control connection is this request's to use or replace. -/
def controlGranted (s : Scene) (caller : Caller) (now : Instant) (round pick : Nat) :
    Scene × Stage :=
  match s.router.control with
  | some _ => s.startRefresh caller now pick (.cached round)
  | none => s.bootstrap caller round

/-- A round begins. A request that finds the control connection in use goes on with the
snapshot in force; only while there is none it waits. -/
def beginRound (s : Scene) (caller : Caller) (now : Instant) (round pick : Nat) :
    Scene × Stage :=
  if s.balancer.needsRefresh now then
    match s.router.turn.take? caller with
    | some turn =>
      { s with router := { s.router with turn := turn } }.controlGranted caller now round pick
    | none =>
      if s.balancer.pool.hasSnapshot then s.reserveNext round [] pick
      else
        ({ s with router := { s.router with turn := s.router.turn.wait caller } },
          .awaitingControl round)
  else s.reserveNext round [] pick

/-- The balancer's turn to query has come. -/
def turnGranted (s : Scene) (caller : Caller) (now : Instant) (pick : Nat)
    (purpose : RefreshPurpose) : Scene × Stage :=
  let (balancer, stage) := s.balancer.resumeRefresh caller now
  let s := { s with balancer := balancer }
  match stage with
  | .queued => (s, .awaitingTurn purpose)
  | .querying => (s, .querying purpose)
  | .done ok => s.refreshed caller pick ok purpose

/-- The connection through which a refresh asks. -/
def refreshConnection? (s : Scene) : RefreshPurpose → Option Connection
  | .cached _ => s.router.control
  | .fresh _ conn => some conn
  | .check _ held => some held.conn

/-- The query of a refresh was answered by the host `control`. -/
def answered (s : Scene) (caller : Caller) (now : Instant) (pick : Nat)
    (purpose : RefreshPurpose) (control : String) (answer : Except RoutingError (List Row)) :
    Scene × Stage :=
  let (balancer, ok, metric) := s.balancer.finishRefresh caller now control answer
  { s with balancer := balancer, ledger := s.ledger.note metric }.refreshed caller pick ok purpose

/-- A connection was opened or failed to open. -/
def opened (s : Scene) (caller : Caller) (now : Instant) (pick : Nat)
    (purpose : OpenPurpose) (result : Except RoutingError Connection) : Scene × Stage :=
  match purpose, result with
  | .control round _ _, .ok conn => s.startRefresh caller now pick (.fresh round conn)
  | .control round later total, .error _ => s.tryControl caller round total later
  | .data round lease refused, .ok conn =>
    s.startRefresh caller now pick (.check round ⟨lease, conn, refused⟩)
  | .data round lease refused, .error _ =>
    ((s.count (.connectAttempt .failed)).failHost lease now).reserveNext round
      (lease.host :: refused) pick
  | .seed later, result => (s, seedOpened later result)

/-- A connection was closed, whether without an error or with one. -/
def closed (s : Scene) (caller : Caller) (now : Instant) (pick : Nat) :
    ClosePurpose → Scene × Stage
  | .stale round => s.bootstrap caller round
  | .rejected round lease refused =>
    (s.failHost lease now).reserveNext round (lease.host :: refused) pick
  | .preempted round lease => (s.release lease).beginRound caller now (round + 1) pick

/-- The request is given up: it gives back its turns and its lease. The connections it drops
are told. -/
def abandon (s : Scene) (caller : Caller) : Stage → Scene × List Connection
  | .awaitingControl _ => (s.leaveControl caller, [])
  | .awaitingTurn purpose | .querying purpose =>
    let s := { s with balancer := s.balancer.abandonRefresh caller }
    match purpose with
    | .cached _ => (s.leaveControl caller, [])
    | .fresh _ conn => (s.leaveControl caller, [conn])
    | .check _ held => (s.release held.lease, [held.conn])
  | .opening _ (.control ..) => (s.leaveControl caller, [])
  | .opening _ (.data _ lease _) => (s.release lease, [])
  | .opening _ (.seed _) => (s, [])
  | .closing conn (.stale _) => (s.leaveControl caller, [conn])
  | .closing conn (.rejected _ lease _) | .closing conn (.preempted _ lease) =>
    (s.release lease, [conn])
  | .finished _ => (s, [])

end Scene

end ConnectionRouter
