import ConnectionRouter.Config.Validation
import ConnectionRouter.Toml.Decode

/-!
# Configuration files

A configuration file is a TOML document with a section for each part of the configuration.
Sections and settings may be missing, and unknown ones are ignored.

* `Config.ofToml?`: the configuration of a document.
* `Config.load`: the same for a text, with the demands on a configuration checked.
-/

namespace ConnectionRouter

open Toml

/-- Why a configuration file is refused. -/
inductive LoadError
  /-- There is no file. -/
  | missing
  /-- The text is no TOML document, or a setting is of the wrong type or out of range. -/
  | malformed
  /-- The configuration does not meet the demands on it. -/
  | invalid (faults : List Config.Fault)
  deriving DecidableEq

namespace Config

def Cluster.ofToml? (v : Value) : Option Config.Cluster := do
  let f ← Fields.ofValue? ["seeds", "default_port"] v
  return { seeds := ← f.getD? "seeds" ({} : Config.Cluster).seeds (asList asString)
           defaultPort := ← f.getD? "default_port" ({} : Config.Cluster).defaultPort asPort }

def LoadBalance.ofToml? (v : Value) : Option LoadBalance := do
  let d : LoadBalance := {}
  let f ← Fields.ofValue?
    ["enabled", "topology_keys", "refresh_interval_secs", "failed_host_ttl_secs"] v
  return { enabled := ← f.getD? "enabled" d.enabled asBool
           topologyKeys := ← f.getOption? "topology_keys" asString
           refreshIntervalSecs := ← f.getD? "refresh_interval_secs" d.refreshIntervalSecs asInt
           failedHostTtlSecs := ← f.getD? "failed_host_ttl_secs" d.failedHostTtlSecs asUnsigned }

def Timeouts.ofToml? (v : Value) : Option Timeouts := do
  let f ← Fields.ofValue? ["connect_secs"] v
  return { connectSecs := ← f.getD? "connect_secs" ({} : Timeouts).connectSecs asUnsigned }

def Observability.ofToml? (v : Value) : Option Observability := do
  let d : Observability := {}
  let f ← Fields.ofValue? ["log_level", "metrics_enabled"] v
  return { logLevel := ← f.getD? "log_level" d.logLevel asString
           metricsEnabled := ← f.getD? "metrics_enabled" d.metricsEnabled asBool }

/-- The configuration of a document. -/
def ofToml? (v : Value) : Option Config := do
  let f ← Fields.ofValue? ["cluster", "load_balance", "timeouts", "observability"] v
  return { cluster := ← f.getD? "cluster" {} Cluster.ofToml?
           loadBalance := ← f.getD? "load_balance" {} LoadBalance.ofToml?
           timeouts := ← f.getD? "timeouts" {} Timeouts.ofToml?
           observability := ← f.getD? "observability" {} Observability.ofToml? }

/-- The configuration of a text that meets the demands. -/
def ofText (text : String) : Except LoadError Config :=
  match (parse? text).bind ofToml? with
  | none => .error .malformed
  | some c => if c.faults = [] then .ok c else .error (.invalid c.faults)

/-- The configuration of a file, given by its text if it exists. -/
def load : Option String → Except LoadError Config
  | none => .error .missing
  | some text => ofText text

end Config

end ConnectionRouter
