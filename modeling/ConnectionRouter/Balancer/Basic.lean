import ConnectionRouter.Balancer.Turn
import ConnectionRouter.Config.Basic
import ConnectionRouter.Metrics.Ledger
import ConnectionRouter.Pool.Selection
import ConnectionRouter.Pool.Snapshot

/-!
# Balancers

A balancer owns a pool of hosts, a preference over their places, and the turn that keeps
topology queries apart. Requests of one configuration share it.

Every operation that counts something yields it as an `Option Metric` beside its answer. How many
reservations were made and given back is kept for the account of them; nothing depends on it.

* `Balancer.reserve`, `Balancer.adjust`, `Balancer.markFailed`: the counted changes of the pool.
* `Balancer.needsRefresh`: whether the snapshot in force is too old.
* `Balancer.bootstrapCandidates`: whom to ask for the topology.
-/

namespace ConnectionRouter

/-- A pool of hosts with what is needed to keep it up to date. -/
structure Balancer where
  /-- Without a preference all hosts rank alike. -/
  preference : Option Preference
  settings : BalancerSettings
  pool : Pool := {}
  /-- Held by the refresh whose query is under way. -/
  turn : Turn := {}
  /-- How many reservations were made. -/
  taken : Nat := 0
  /-- How many reservations were given back. -/
  returned : Nat := 0
  deriving DecidableEq

namespace Balancer

/-- How the balancer's pool reads a snapshot. -/
def rules (b : Balancer) : SnapshotRules where
  preference := b.preference
  defaultPort := b.settings.defaultPort
  failedHostTtl := b.settings.failedHostTtl

/-- Whether the last refresh is too long ago, or was forgotten. -/
def needsRefresh (b : Balancer) (now : Instant) : Bool :=
  match b.pool.lastRefresh with
  | none => true
  | some at_ => b.settings.refreshInterval ≤ now - at_

/-- Applies a snapshot to the pool. -/
def applySnapshot (b : Balancer) (s : Snapshot) (now : Instant) : Balancer :=
  { b with pool := (b.pool.apply s b.rules now).1 }

/-- Makes the next refresh due. -/
def forceRefresh (b : Balancer) : Balancer := { b with pool := b.pool.forceRefresh }

/-- Chooses a host outside `excluding` and counts a connection against it. -/
def reserve (b : Balancer) (excluding : List HostKey) (pick : Nat) :
    Balancer × Option (HostKey × HostAddr) × Option Metric :=
  let (pool, chosen) := b.pool.reserve excluding pick
  ({ b with pool := pool, taken := b.taken + chosen.toList.length }, chosen,
    chosen.bind fun (host, _) => (pool.count? host).map (.hostConnections host))

/-- Changes the count of a host and tells the new count, if the host is tracked. -/
def adjust (b : Balancer) (host : HostKey) (delta : Int) :
    Balancer × Option Nat × Option Metric :=
  let (pool, count) := b.pool.adjust host delta
  ({ b with pool := pool }, count, count.map (.hostConnections host))

/-- Gives back a reservation of a host. -/
def release (b : Balancer) (host : HostKey) : Balancer × Option Metric :=
  let (b, _, metric) := b.adjust host (-1)
  ({ b with returned := b.returned + 1 }, metric)

/-- Puts a host in quarantine; only a host that was outside before is counted. -/
def markFailed (b : Balancer) (host : HostKey) (now : Instant) : Balancer × Option Metric :=
  let (pool, isNew) := b.pool.markFailed host now
  ({ b with pool := pool }, if isNew then some (.quarantined host) else none)

/-- Whether an eligible host is preferred to `host`; never without a preference. -/
def hasMorePreferred (b : Balancer) (host : HostKey) : Bool :=
  b.preference.isSome && b.pool.hasMorePreferred host

/-- The number of different priorities there can be: the declared ranks and the rest. -/
def rankCount (b : Balancer) : Nat :=
  match b.preference with
  | none => 1
  | some p => p.tierCount + 1

/-- Whom to ask for the topology: the seeds, then every known member that is not named yet. -/
def bootstrapCandidates (b : Balancer) (seeds : List HostAddr) : List HostAddr :=
  b.pool.memberAddrs.foldl (fun known addr => if addr ∈ known then known else known ++ [addr]) seeds

end Balancer

end ConnectionRouter
