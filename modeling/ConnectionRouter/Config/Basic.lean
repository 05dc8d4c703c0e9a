import ConnectionRouter.Clock
import ConnectionRouter.HostAddr

/-!
# Configuration

The settings of a router by section, each with its default, and the settings of a balancer
derived from them.

* `Config`: the whole configuration.
* `BalancerSettings.ofConfig`: intervals and port of a balancer. A refresh interval outside
  0..600 seconds falls back to 300 (`refreshInterval`).
-/

namespace ConnectionRouter

namespace Config

/-- The seeds, and the port of hosts that name none. -/
structure Cluster where
  seeds : List String := []
  defaultPort : UInt16 := standardPort
  deriving DecidableEq

/-- Whether and how requests are spread over the members. -/
structure LoadBalance where
  enabled : Bool := true
  /-- The text of the placement preference. -/
  topologyKeys : Option String := none
  refreshIntervalSecs : Int := 300
  /-- How long a failed host stays quarantined. -/
  failedHostTtlSecs : Nat := 5
  deriving DecidableEq

/-- The limit of every physical connect. -/
structure Timeouts where
  connectSecs : Nat := 5
  deriving DecidableEq

structure Observability where
  logLevel : String := "info"
  metricsEnabled : Bool := false
  deriving DecidableEq

end Config

/-- The configuration of a router. -/
structure Config where
  cluster : Config.Cluster := {}
  loadBalance : Config.LoadBalance := {}
  timeouts : Config.Timeouts := {}
  observability : Config.Observability := {}
  deriving DecidableEq

/-- The log directive of a configuration. -/
def Config.Observability.directive (o : Config.Observability) : String :=
  "cluster_balancer=" ++ o.logLevel

/-- The greatest refresh interval that is taken as it is, in seconds. -/
def maxRefreshIntervalSecs : Int := 600

/-- The refresh interval that stands in for one out of range, in seconds. -/
def defaultRefreshIntervalSecs : Nat := 300

/-- The interval between refreshes for a configured number of seconds. -/
def refreshInterval (secs : Int) : Duration :=
  .ofSeconds (if 0 ≤ secs ∧ secs ≤ maxRefreshIntervalSecs then secs.toNat
    else defaultRefreshIntervalSecs)

/-- What a balancer needs to know of its configuration. -/
structure BalancerSettings where
  /-- Zero asks for a refresh on every request. -/
  refreshInterval : Duration := .ofSeconds defaultRefreshIntervalSecs
  failedHostTtl : Duration := .ofSeconds 5
  /-- The port of members that report none. -/
  defaultPort : UInt16 := standardPort
  deriving DecidableEq

def BalancerSettings.ofConfig (c : Config.LoadBalance) (defaultPort : UInt16) :
    BalancerSettings where
  refreshInterval := ConnectionRouter.refreshInterval c.refreshIntervalSecs
  failedHostTtl := .ofSeconds c.failedHostTtlSecs
  defaultPort := defaultPort

end ConnectionRouter
