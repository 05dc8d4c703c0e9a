import ConnectionRouter.Cluster.Basic

/-!
# A network with faults

A simulated cluster behind a network that can be made to fail. A fault is set for one member
and one kind of call; the call goes through to the cluster, and when the cluster carried it out
the fault turns its result into an error.

* `Network.connect`: a connection whose connect is at fault is dropped again.
* `Network.query`: a query at fault has been counted.
* `Network.close`: a close at fault has closed.
-/

namespace ConnectionRouter

/-- The calls that can be at fault. -/
inductive FaultPoint
  | connect
  | query
  | close
  deriving DecidableEq

/-- The kinds of error set for each call, by member key. -/
structure Faults where
  connect : Table ErrorKind := ∅
  query : Table ErrorKind := ∅
  close : Table ErrorKind := ∅
  deriving DecidableEq

/-- Sets a fault, or removes it if no kind is given. -/
def Faults.set (f : Faults) (point : FaultPoint) (member : HostKey) (kind : Option ErrorKind) :
    Faults :=
  let change := fun (t : Table ErrorKind) => t.alter member fun _ => kind
  match point with
  | .connect => { f with connect := change f.connect }
  | .query => { f with query := change f.query }
  | .close => { f with close := change f.close }

/-- A simulated cluster and the faults on the way to it. -/
structure Network where
  cluster : Cluster := {}
  faults : Faults := {}
  deriving DecidableEq

namespace Network

/-- Lets go of a connection. -/
def drop (n : Network) (conn : Connection) : Network :=
  { n with cluster := (n.cluster.close conn).1 }

/-- A connect to `addr` starts; it will take so long. -/
def attempt (n : Network) (addr : HostAddr) : Network × Duration :=
  let (cluster, delay) := n.cluster.attempt addr
  ({ n with cluster := cluster }, delay)

/-- A connect to `addr` reaches its node. -/
def connect (n : Network) (addr : HostAddr) : Network × Except RoutingError Connection :=
  let (cluster, result) := n.cluster.connect addr
  let n := { n with cluster := cluster }
  match result, n.faults.connect[addr.key standardPort]? with
  | .ok conn, some kind => (n.drop conn, .error (kind.withText "connect fault"))
  | result, _ => (n, result)

/-- The servers query over a connection. -/
def query (n : Network) (conn : Connection) : Network × Except RoutingError (List Row) :=
  let (cluster, result) := n.cluster.query conn
  let n := { n with cluster := cluster }
  match result, n.faults.query[conn.member]? with
  | .ok _, some kind => (n, .error (kind.withText "query fault"))
  | result, _ => (n, result)

/-- Closes a connection. -/
def close (n : Network) (conn : Connection) : Network × Except RoutingError Unit :=
  let n := n.drop conn
  match n.faults.close[conn.member]? with
  | some kind => (n, .error (kind.withText "close fault"))
  | none => (n, .ok ())

end Network

end ConnectionRouter
