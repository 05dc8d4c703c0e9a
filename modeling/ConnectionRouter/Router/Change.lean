import ConnectionRouter.Router.World

/-!
# Changes from outside

What happens to a world besides its requests: nodes stop and start, come into the answer of the
servers query and leave it, faults and delays are set, and balancers are told of failures.

* `World.change`: the world after a change.
-/

namespace ConnectionRouter

/-- A change of a world from outside. -/
inductive Change
  | stop (target : String)
  | start (target : String)
  | list (target : String)
  | unlist (target : String)
  | add (node : Node)
  | queryFailure (on : Bool)
  /-- Connects to a member take so long from now on. -/
  | delay (member : HostKey) (delay : Duration)
  | fault (point : FaultPoint) (member : HostKey) (kind : Option ErrorKind)
  | markFailed (router : String) (host : HostKey)
  | adjust (router : String) (host : HostKey) (delta : Int)
  | forceRefresh (router : String)
  deriving DecidableEq

namespace World

/-- Changes the cluster. -/
def withCluster (w : World) (f : Cluster → Cluster) : World :=
  { w with network := { w.network with cluster := f w.network.cluster } }

/-- The balancer of a router. -/
def balancerOf? (w : World) (router : String) : Option BalancerId :=
  (w.routers[router]?).bind (·.balancer)

/-- Changes the balancer of a router, if it has one. -/
def withBalancerOf (w : World) (router : String) (f : Balancer → Balancer × Option Metric) :
    World :=
  (w.balancerOf? router).elim w (w.withBalancer · f)

def change (w : World) : Change → World
  | .stop target => w.withCluster (·.stop target)
  | .start target => w.withCluster (·.start target)
  | .list target => w.withCluster (·.list target)
  | .unlist target => w.withCluster (·.unlist target)
  | .add node => w.withCluster (·.add node)
  | .queryFailure on => w.withCluster ({ · with queryFailure := on })
  | .delay member delay =>
    w.withCluster fun c => { c with delays := c.delays.insert member delay }
  | .fault point member kind =>
    { w with network := { w.network with faults := w.network.faults.set point member kind } }
  | .markFailed router host => w.withBalancerOf router (·.markFailed host w.now)
  | .adjust router host delta =>
    w.withBalancerOf router fun b => let (b, _, metric) := b.adjust host delta; (b, metric)
  | .forceRefresh router => w.withBalancerOf router fun b => (b.forceRefresh, none)

end World

end ConnectionRouter
