import ConnectionRouter.Pool.Basic

/-!
# The ledger of metrics

What a router counts while it works. Every operation that is counted yields a `Metric`; the
ledger adds them up.

* `Ledger.record`: the ledger after one more metric.
-/

namespace ConnectionRouter

/-- How a refresh ended. -/
inductive RefreshOutcome
  | ok
  | failed
  /-- No query was needed, or another refresh was under way. -/
  | skipped
  deriving DecidableEq

/-- How the connect to a candidate ended. -/
inductive AttemptOutcome
  | ok
  | failed
  /-- The connection opened, but its host was no candidate any more. -/
  | rejected
  deriving DecidableEq

/-- One thing to count. -/
inductive Metric
  /-- The connection count of a host is now this. -/
  | hostConnections (host : HostKey) (count : Nat)
  | quarantined (host : HostKey)
  | refresh (outcome : RefreshOutcome)
  | connectAttempt (outcome : AttemptOutcome)
  /-- A connection was given up for a better placed host. -/
  | preemption
  /-- A request went to the seeds without balancing. -/
  | singleHostFallback
  deriving DecidableEq

/-- A count for each outcome of a refresh. -/
structure RefreshCounts where
  ok : Nat := 0
  failed : Nat := 0
  skipped : Nat := 0
  deriving DecidableEq

/-- A count for each outcome of a connect. -/
structure AttemptCounts where
  ok : Nat := 0
  failed : Nat := 0
  rejected : Nat := 0
  deriving DecidableEq

/-- All metrics since the start. -/
structure Ledger where
  /-- The last count told for each host. -/
  hostConnections : Table Nat := ∅
  quarantined : Table Nat := ∅
  refreshes : RefreshCounts := {}
  attempts : AttemptCounts := {}
  preemptions : Nat := 0
  singleHostFallbacks : Nat := 0
  deriving DecidableEq

def RefreshCounts.add (c : RefreshCounts) : RefreshOutcome → RefreshCounts
  | .ok => { c with ok := c.ok + 1 }
  | .failed => { c with failed := c.failed + 1 }
  | .skipped => { c with skipped := c.skipped + 1 }

def AttemptCounts.add (c : AttemptCounts) : AttemptOutcome → AttemptCounts
  | .ok => { c with ok := c.ok + 1 }
  | .failed => { c with failed := c.failed + 1 }
  | .rejected => { c with rejected := c.rejected + 1 }

namespace Ledger

/-- The ledger after one more metric. -/
def record (l : Ledger) : Metric → Ledger
  | .hostConnections host count => { l with hostConnections := l.hostConnections.insert host count }
  | .quarantined host => { l with quarantined := l.quarantined.tally host 0 (· + 1) }
  | .refresh outcome => { l with refreshes := l.refreshes.add outcome }
  | .connectAttempt outcome => { l with attempts := l.attempts.add outcome }
  | .preemption => { l with preemptions := l.preemptions + 1 }
  | .singleHostFallback => { l with singleHostFallbacks := l.singleHostFallbacks + 1 }

/-- The ledger after an operation that counts at most one thing. -/
def note (l : Ledger) : Option Metric → Ledger
  | none => l
  | some m => l.record m

end Ledger

end ConnectionRouter
