import ConnectionRouter.Cluster.File
import ConnectionRouter.CommandLine.Help
import ConnectionRouter.Config.File
import ConnectionRouter.Config.LogDirective
import ConnectionRouter.Config.Printer
import ConnectionRouter.Config.Url
import ConnectionRouter.Json.Basic
import ConnectionRouter.Metrics.Exposition
import ConnectionRouter.Pool.View
import ConnectionRouter.Router.Shutdown
import ConnectionRouter.Router.Traffic

/-!
# Commands

What each command does with the files it is given.

* `simulate`: opens connections to a simulated cluster, reports, and closes everything.
* `Command.run`: the outcome of a command, with what it prints and its exit code.

A simulation takes no time of its own, but its clock does move on, by a nanosecond a step, as
the clock of any real run would.
-/

namespace ConnectionRouter

/-- What a simulation shows. -/
structure Report where
  /-- The number of connections opened. -/
  opened : Nat
  failed : List RoutingError
  /-- How many of the connections were opened without balancing. -/
  singleHost : Nat
  /-- The pool of the balancer, if balancing is enabled. -/
  balancer : Option PoolView
  deriving DecidableEq

/-- What a command prints. -/
inductive Output
  | text (text : String)
  | tiers (tiers : List (Nat × List Placement))
  /-- A report, and the metrics if they are wanted. -/
  | report (report : Report) (metrics : Option Ledger)

/-- What a command prints, its exit code, and what it says about a failure. -/
structure CommandOutcome where
  output : Output := .text ""
  exitCode : UInt8 := 0
  complaint : Option String := none

def HostView.toJson (h : HostView) : Json :=
  .object [("connections", .ofOption .ofNat h.connections),
    ("host", .string h.host),
    ("placement", .string h.placement.text),
    ("port", .ofNat h.port.toNat),
    ("priority", .ofOption (fun p => .number p.number) h.priority),
    ("quarantined", .bool h.quarantined)]

def AddressFamily.name : AddressFamily → String
  | .privateAddress => "private"
  | .publicAddress => "public"

def PoolView.toJson (v : PoolView) : Json :=
  .object [("address_family", .ofOption (fun f => .string f.name) v.family),
    ("hosts", .array (v.hosts.map HostView.toJson)),
    ("quarantined", .array (v.quarantined.map .string)),
    ("refreshed", .bool v.refreshed)]

def Report.toJson (r : Report) : Json :=
  .object [("balancer", .ofOption PoolView.toJson r.balancer),
    ("failed", .array (r.failed.map fun e => .string e.message)),
    ("opened", .ofNat r.opened),
    ("single_host", .ofNat r.singleHost)]

/-- The tiers of a preference in JSON. -/
def tiersToJson (tiers : List (Nat × List Placement)) : Json :=
  .object [("tiers", .array (tiers.map fun (rank, patterns) =>
    .object [("patterns", .array (patterns.map fun p => .string p.text)), ("rank", .ofNat rank)]))]

namespace Output

/-- The JSON document that is printed first, if there is one. -/
def document? : Output → Option Json
  | text _ => none
  | tiers ts => some (tiersToJson ts)
  | report r _ => some r.toJson

/-- The text that is printed. -/
def render : Output → String
  | text s => s
  | tiers ts => (tiersToJson ts).pretty ++ "\n"
  | report r none => r.toJson.pretty ++ "\n"
  | report r (some l) => r.toJson.pretty ++ "\n" ++ l.render ++ "\n"

end Output

/-- A command that fails before it prints anything. -/
def CommandOutcome.failure (complaint : String) : CommandOutcome :=
  { exitCode := 1, complaint := some complaint }

/-- A command that breaks off before it prints anything. -/
def CommandOutcome.crash (complaint : String) : CommandOutcome :=
  { exitCode := 101, complaint := some complaint }

/-- The greatest number of results that one request after another can leave: room for a result is
152 bytes, set aside beforehand, and the size of a room has 63 bits. -/
def maxResults : Nat := Text.maxSigned / 152

/-- Opens connections to a simulated cluster, reports, and closes everything. -/
def simulate (config : Config) (nodes : List Node) (connections : Nat) (concurrent : Bool) :
    Except RoutingError (Report × Ledger) := do
  let name := "router"
  let (r, registry) ← Router.create config {}
  let w : World := {
    tick := 1
    network := { cluster := { nodes } }
    registry := registry
    routers := Std.ExtTreeMap.empty.insert name r }
  let lanes :=
    if concurrent then World.lanesAtOnce name connections none
    else World.lanesInTurn name connections none
  let (w, ended) := w.serve lanes []
  let results := ended.filterMap (·.outcome.result?)
  let opened := results.filterMap Except.toOption
  let report : Report := {
    opened := opened.length
    failed := results.filterMap fun
      | .ok _ => none
      | .error e => some e
    singleHost := opened.countP (·.lease.isNone)
    balancer := (r.balancer.bind w.registry.balancer?).map (·.pool.view) }
  return (report, ((w.closeAll opened).1.shutdown name).ledger)

/-- Runs a simulation with the files it names. -/
def SimulateOptions.run (o : SimulateOptions) (file? : String → Option String)
    (checkLogLevel : Bool) : CommandOutcome :=
  match Config.load (file? o.config) with
  | .error .missing => .failure "the configuration file cannot be read"
  | .error .malformed => .failure "the configuration file is malformed"
  | .error (.invalid faults) => .failure (Config.Fault.summary faults)
  | .ok config =>
    match if checkLogLevel then checkLogDirective config.observability.directive else .ok () with
    | .error .malformed => .failure "the log level is malformed"
    | .error .splitCharacter => .crash "the log level cannot be cut into its parts"
    | .ok _ =>
      match (file? o.topology).bind Node.listOfText? with
      | none => .failure "the cluster file is missing or malformed"
      | some nodes =>
        if !o.concurrent && maxResults < o.connections then
          .crash "there is no room for the results"
        else
          match simulate config nodes o.connections o.concurrent with
          | .error e => .failure e.message
          | .ok (report, ledger) =>
            let wanted := o.metrics || config.observability.metricsEnabled
            let output : Output := .report report (if wanted then some ledger else none)
            if report.failed = [] then { output }
            else
              { output
                exitCode := 1
                complaint := some (RoutingError.clusterUnavailable
                  (.connectionsFailed report.failed.length o.connections)).message }

namespace Command

/-- The outcome of a command. The files are given by their texts, if they exist; a log level is
checked unless it comes from elsewhere. -/
def run (c : Command) (file? : String → Option String) (checkLogLevel : Bool) : CommandOutcome :=
  match c with
  | checkKeys text =>
    match Preference.parse text with
    | .error e => .failure e.message
    | .ok p => { output := .tiers p.tiers.toList }
  | parseUrl url =>
    match Config.ofUrl url with
    | .error e => .failure e.message
    | .ok config =>
      match config.toToml? with
      | none => .failure "a number is too large to be written"
      | some text => { output := .text text }
  | simulate o => o.run file? checkLogLevel

end Command

/-- The outcome of arguments that are no command. -/
def Refusal.outcome : Refusal → CommandOutcome
  | .help topic => { output := .text topic.text }
  | .usage => { exitCode := 2, complaint := some HelpTopic.program.text }

end ConnectionRouter
