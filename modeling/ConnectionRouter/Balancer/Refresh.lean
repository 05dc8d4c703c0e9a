import ConnectionRouter.Balancer.Basic

/-!
# Refreshing the topology

A refresh asks the cluster for its members through some connection and applies the answer. At
most one query is under way for a balancer: the caller that holds the balancer's turn runs it.
A caller that finds the turn taken goes on with the snapshot in force; only while there is none
it waits.

A refresh stops at most twice: for the turn, and for the answer of its query. `RefreshStage`
tells where it stands.

* `Balancer.startRefresh`: the first part, up to where the caller has to wait.
* `Balancer.resumeRefresh`: the part after the turn came.
* `Balancer.finishRefresh`: the part after the query was answered.
* `Balancer.abandonRefresh`: the caller gives up.
-/

namespace ConnectionRouter

/-- Where a refresh stands. -/
inductive RefreshStage
  /-- Waits for the turn. -/
  | queued
  /-- Holds the turn; the query is under way. -/
  | querying
  /-- Over; false if the query failed. -/
  | done (ok : Bool)
  deriving DecidableEq

namespace Balancer

/-- The start of a refresh. -/
def startRefresh (b : Balancer) (caller : Caller) (now : Instant) :
    Balancer × RefreshStage × Option Metric :=
  if b.needsRefresh now then
    match b.turn.take? caller with
    | some turn => ({ b with turn := turn }, .querying, none)
    | none =>
      if b.pool.hasSnapshot then (b, .done true, some (.refresh .skipped))
      else ({ b with turn := b.turn.wait caller }, .queued, none)
  else (b, .done true, some (.refresh .skipped))

/-- The turn has come. If another caller refreshed in the meantime, nothing is left to do. -/
def resumeRefresh (b : Balancer) (caller : Caller) (now : Instant) : Balancer × RefreshStage :=
  if b.needsRefresh now then (b, .querying)
  else ({ b with turn := b.turn.leave caller }, .done true)

/-- The query through a connection to `control` was answered. A failure leaves the pool as it
is, so that the next caller tries again. -/
def finishRefresh (b : Balancer) (caller : Caller) (now : Instant) (control : String)
    (answer : Except RoutingError (List Row)) : Balancer × Bool × Option Metric :=
  match Member.ofAnswer answer with
  | .error _ => ({ b with turn := b.turn.leave caller }, false, some (.refresh .failed))
  | .ok members =>
    ({ b.applySnapshot ⟨members, control⟩ now with turn := b.turn.leave caller }, true,
      some (.refresh .ok))

/-- The caller gives up its refresh. -/
def abandonRefresh (b : Balancer) (caller : Caller) : Balancer :=
  { b with turn := b.turn.leave caller }

end Balancer

end ConnectionRouter
