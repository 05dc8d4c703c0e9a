import ConnectionRouter.Cluster.Node
import ConnectionRouter.Toml.Decode

/-!
# Cluster files

The description of a simulated cluster is a TOML document with one `nodes` entry for each node.

* `Node.ofToml?`: a node. It must have a host; a node without other settings is up and listed.
* `Node.listOfText?`: the nodes of a text.
-/

namespace ConnectionRouter

open Toml

namespace Node

def ofToml? (v : Value) : Option Node := do
  let f ← Fields.ofValue?
    ["host", "public_ip", "port", "cloud", "region", "zone", "up", "listed"] v
  return { host := ← f.get? "host" asString
           publicIp := ← f.getOption? "public_ip" asString
           port := ← f.getOption? "port" asPort
           cloud := ← f.getD? "cloud" "" asString
           region := ← f.getD? "region" "" asString
           zone := ← f.getD? "zone" "" asString
           up := ← f.getD? "up" true asBool
           listed := ← f.getD? "listed" true asBool }

/-- The nodes of a text. -/
def listOfText? (text : String) : Option (List Node) := do
  let f ← Fields.ofValue? ["nodes"] (← parse? text)
  f.get? "nodes" (asList ofToml?)

end Node

end ConnectionRouter
