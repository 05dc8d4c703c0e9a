import ConnectionRouter.Config.Basic
import ConnectionRouter.Toml.Printer

/-!
# Configurations in text

A configuration as the TOML document that a configuration file would hold.

* `Config.toToml?`: the text. A TOML integer has 63 bits and a sign, so a larger number cannot be
  written.
-/

namespace ConnectionRouter.Config

open Toml

/-- A natural number that fits into a TOML integer. -/
def natural? (n : Nat) : Option Setting := if n ≤ Text.maxSigned then some (.integer n) else none

/-- The sections of a configuration; an absent preference is left out. -/
def sections? (c : Config) : Option (List Section) := do
  let ttl ← natural? c.loadBalance.failedHostTtlSecs
  let limit ← natural? c.timeouts.connectSecs
  return [
    ⟨"cluster", [("seeds", .strings c.cluster.seeds),
      ("default_port", .integer c.cluster.defaultPort.toNat)]⟩,
    ⟨"load_balance", [("enabled", .boolean c.loadBalance.enabled)] ++
      (c.loadBalance.topologyKeys.toList.map fun keys => ("topology_keys", .string keys)) ++
      [("refresh_interval_secs", .integer c.loadBalance.refreshIntervalSecs),
        ("failed_host_ttl_secs", ttl)]⟩,
    ⟨"timeouts", [("connect_secs", limit)]⟩,
    ⟨"observability", [("log_level", .string c.observability.logLevel),
      ("metrics_enabled", .boolean c.observability.metricsEnabled)]⟩]

/-- The text of a configuration. -/
def toToml? (c : Config) : Option String := c.sections?.map printSections

end ConnectionRouter.Config
