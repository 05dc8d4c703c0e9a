import ConnectionRouter.Config.Basic
import ConnectionRouter.Placement.Preference

/-!
# Validation of a configuration

The demands on a configuration beyond the types of its fields. All faults are reported, in the
order of the sections.

* `Config.faults`: the faults of a configuration; it is valid if there are none.
-/

namespace ConnectionRouter

namespace Config

/-- A demand that a configuration does not meet. -/
inductive Fault
  | noSeeds
  | seed (error : RoutingError)
  | zeroPort
  | zeroTimeout
  | topologyKeys (error : RoutingError)
  deriving DecidableEq

namespace Fault

/-- The setting at fault. -/
def field : Fault → String
  | noSeeds | seed _ => "cluster.seeds"
  | zeroPort => "cluster.default_port"
  | zeroTimeout => "timeouts.connect_secs"
  | topologyKeys _ => "load_balance.topology_keys"

def message : Fault → String
  | noSeeds => "at least one seed is required"
  | seed e | topologyKeys e => e.message
  | zeroPort => "must be non-zero"
  | zeroTimeout => "must be greater than 0"

def text (f : Fault) : String := f.field ++ ": " ++ f.message

/-- The faults of a configuration in one line. -/
def summary (faults : List Fault) : String :=
  "Validation failed: " ++ ", ".intercalate (faults.map text)

end Fault

/-- The error of a result, as a list of at most one. -/
def errorOf {α : Type} : Except RoutingError α → List RoutingError
  | .ok _ => []
  | .error e => [e]

/-- The demands that a configuration does not meet, in the order of its sections. -/
def faults (c : Config) : List Fault :=
  (if c.cluster.seeds = [] then [.noSeeds] else []) ++
  c.cluster.seeds.flatMap (fun s =>
    (errorOf (HostAddr.parse s c.cluster.defaultPort)).map .seed) ++
  (if c.cluster.defaultPort = 0 then [.zeroPort] else []) ++
  (if c.timeouts.connectSecs = 0 then [.zeroTimeout] else []) ++
  (c.loadBalance.topologyKeys.toList.flatMap fun keys =>
    (errorOf (Preference.parse keys)).map .topologyKeys)

end Config

end ConnectionRouter
