import ConnectionRouter.Clock
import ConnectionRouter.Cluster.Node

/-!
# Simulated clusters

A list of nodes that accept or refuse connections and answer the servers query, with the books
on connections, attempts and queries. Connections and attempts are counted under the key of the
address that was dialed.

* `Cluster.attempt`, `Cluster.connect`: the start and the end of a connect; between them lies
  the delay set for the address.
* `Cluster.query`: the servers query over a connection.
* `Cluster.close`: releases a connection, once.
-/

namespace ConnectionRouter

/-- A connection to a node of a simulated cluster. -/
structure Connection where
  addr : HostAddr
  closed : Bool := false
  deriving DecidableEq

/-- The key under which a connection is counted. -/
def Connection.member (c : Connection) : HostKey := c.addr.key standardPort

/-- A simulated cluster. -/
structure Cluster where
  nodes : List Node := []
  /-- The open connections by member key. -/
  openCount : Table Nat := ∅
  /-- The connects started by member key. -/
  attempts : Table Nat := ∅
  /-- How long a connect takes, by member key. -/
  delays : Table Duration := ∅
  /-- Whether the servers query fails. -/
  queryFailure : Bool := false
  /-- The servers queries run. -/
  queries : Nat := 0
  deriving DecidableEq

namespace Cluster

/-- The first node reached at an address. -/
def node? (c : Cluster) (addr : HostAddr) : Option Node := c.nodes.find? (·.serves addr)

/-- Changes every node that is meant by a target. -/
def update (c : Cluster) (target : String) (f : Node → Node) : Cluster :=
  { c with nodes := c.nodes.map fun n => if n.answersTo target then f n else n }

def stop (c : Cluster) (target : String) : Cluster := c.update target ({ · with up := false })

def start (c : Cluster) (target : String) : Cluster := c.update target ({ · with up := true })

def list (c : Cluster) (target : String) : Cluster := c.update target ({ · with listed := true })

def unlist (c : Cluster) (target : String) : Cluster := c.update target ({ · with listed := false })

def add (c : Cluster) (n : Node) : Cluster := { c with nodes := c.nodes ++ [n] }

/-- The open connections counted under a key. -/
def openTo (c : Cluster) (member : HostKey) : Nat := c.openCount[member]?.getD 0

/-- The connects started under a key. -/
def attemptsTo (c : Cluster) (member : HostKey) : Nat := c.attempts[member]?.getD 0

/-- All open connections. -/
def totalOpen (c : Cluster) : Nat := c.openCount.sumBy fun _ n => n

/-- A connect to `addr` starts; it will take so long. -/
def attempt (c : Cluster) (addr : HostAddr) : Cluster × Duration :=
  let member := addr.key standardPort
  ({ c with attempts := c.attempts.tally member 0 (· + 1) }, c.delays[member]?.getD 0)

/-- A connect to `addr` reaches its node. -/
def connect (c : Cluster) (addr : HostAddr) : Cluster × Except RoutingError Connection :=
  match c.node? addr with
  | none => (c, .error (.nodeUnreachable addr.text .unknownHost))
  | some n =>
    if n.up then
      ({ c with openCount := c.openCount.tally (addr.key standardPort) 0 (· + 1) }, .ok { addr })
    else (c, .error (.nodeUnreachable addr.text .refused))

/-- The servers query over a connection: the rows of the listed nodes. -/
def query (c : Cluster) (conn : Connection) : Cluster × Except RoutingError (List Row) :=
  ({ c with queries := c.queries + 1 },
    if conn.closed then .error (.topologyQuery .closed)
    else if !(c.node? conn.addr).any (·.up) then
      .error (.nodeUnreachable conn.addr.text .reset)
    else if c.queryFailure then .error (.topologyQuery .refused)
    else .ok ((c.nodes.filter (·.listed)).map Node.row))

/-- Releases a connection; closing it again releases nothing. -/
def close (c : Cluster) (conn : Connection) : Cluster × Connection :=
  if conn.closed then (c, conn)
  else
    ({ c with openCount := c.openCount.modify conn.member (· - 1) }, { conn with closed := true })

end Cluster

end ConnectionRouter
