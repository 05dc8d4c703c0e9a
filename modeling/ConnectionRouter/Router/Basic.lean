import ConnectionRouter.Balancer.Registry
import ConnectionRouter.Cluster.Basic

/-!
# Routers

A router opens connections for one configuration. With balancing enabled it shares a balancer
with the routers of the same signature and keeps a control connection for topology queries.

* `Router.create`: the router of a configuration.
* `RoutedConnection`: a connection handed out, with the lease it holds if it was balanced.
-/

namespace ConnectionRouter

/-- One unit of a host's connection count, held until it is given back. -/
structure Lease where
  balancer : BalancerId
  host : HostKey
  deriving DecidableEq

/-- A connection handed out to a caller. -/
structure RoutedConnection where
  conn : Connection
  /-- Present iff the balancer chose the host. -/
  lease : Option Lease
  deriving DecidableEq

/-- How a connection was obtained. -/
inductive ConnectMode
  /-- Chosen by the balancer. -/
  | loadBalanced
  /-- Opened straight through the seeds. -/
  | singleHost
  deriving DecidableEq

def RoutedConnection.mode (c : RoutedConnection) : ConnectMode :=
  if c.lease.isSome then .loadBalanced else .singleHost

/-- Opens connections for one configuration. -/
structure Router where
  seeds : List HostAddr
  /-- The limit of every connect, in seconds. -/
  connectSecs : Nat
  /-- Absent if balancing is disabled. -/
  balancer : Option BalancerId
  /-- The control connection kept for the next topology query. -/
  control : Option Connection := none
  /-- Held by the request that uses or replaces the control connection. -/
  turn : Turn := {}
  deriving DecidableEq

/-- The router of a configuration, and the registry with its balancer. -/
def Router.create (config : Config) (registry : Registry) :
    Except RoutingError (Router × Registry) := do
  let seeds ← config.cluster.seeds.mapM (HostAddr.parse · config.cluster.defaultPort)
  if seeds = [] then
    throw (.configuration .noSeeds)
  if config.loadBalance.enabled then
    let (registry, id) ←
      registry.getOrCreate seeds config.loadBalance config.cluster.defaultPort
    return ({ seeds, connectSecs := config.timeouts.connectSecs, balancer := some id }, registry)
  else
    return ({ seeds, connectSecs := config.timeouts.connectSecs, balancer := none }, registry)

end ConnectionRouter
