import ConnectionRouter.Topology.Member

/-!
# Nodes of a simulated cluster

* `Node.serves`: whether a node is reached at an address.
* `Node.answersTo`: whether a node is meant by the name of a target.
* `Node.row`: what the servers query says of a node.
-/

namespace ConnectionRouter

/-- One node of a simulated cluster. -/
structure Node where
  host : String
  publicIp : Option String := none
  port : Option UInt16 := none
  cloud : String := ""
  region : String := ""
  zone : String := ""
  /-- Accepts connections. -/
  up : Bool := true
  /-- Appears in the answer of the servers query. -/
  listed : Bool := true
  deriving DecidableEq

namespace Node

def hasAddress (n : Node) (host : String) : Bool := n.host == host || n.publicIp == some host

def listensOn (n : Node) : UInt16 := n.port.getD standardPort

/-- Whether the node is reached at an address. -/
def serves (n : Node) (addr : HostAddr) : Bool :=
  n.hasAddress addr.host && n.listensOn == addr.port

/-- Whether the node is meant by a target: an address with its port, or a bare host, which
means all nodes there. -/
def answersTo (n : Node) (target : String) : Bool :=
  match HostAddr.parse target n.listensOn with
  | .ok addr => if ':' ∈ target.toList then n.serves addr else n.hasAddress target
  | .error _ => n.hasAddress target

/-- The row of the node: an absent public address as empty text, an absent port not at all. -/
def row (n : Node) : Row :=
  let row : Row := .ofList [("host", n.host), ("public_ip", n.publicIp.getD ""),
    ("cloud", n.cloud), ("region", n.region), ("zone", n.zone)]
  match n.port with
  | none => row
  | some p => row.insert "port" (toString p.toNat)

end Node

end ConnectionRouter
