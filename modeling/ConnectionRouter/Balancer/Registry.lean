import ConnectionRouter.Balancer.Basic
import Std.Data.ExtTreeSet

/-!
# The registry of balancers

Routers with the same seeds and the same preference text share a balancer. The registry keeps
one balancer for each such signature, in the order in which they were made.

* `Registry.getOrCreate`: the balancer of a configuration, made on first use.
* `Registry.get?`: the balancer of a signature.
-/

namespace ConnectionRouter

/-- What balancers are shared by: the set of seeds and the preference text. -/
structure Signature where
  seeds : Std.ExtTreeSet String
  placement : Option String
  deriving DecidableEq

def Signature.ofSeeds (seeds : List HostAddr) (placement : Option String) : Signature where
  seeds := .ofList (seeds.map HostAddr.text)
  placement := placement

/-- The place of a balancer in the registry. -/
abbrev BalancerId : Type := Nat

/-- The balancers by signature, oldest first. -/
structure Registry where
  entries : List (Signature × Balancer) := []
  deriving DecidableEq

namespace Registry

def size (r : Registry) : Nat := r.entries.length

/-- The balancer at a place. -/
def balancer? (r : Registry) (id : BalancerId) : Option Balancer := (r.entries[id]?).map (·.2)

/-- The balancers, oldest first. -/
def balancers (r : Registry) : List Balancer := r.entries.map (·.2)

/-- The place of the balancer with a signature. -/
def get? (r : Registry) (s : Signature) : Option BalancerId := r.entries.findIdx? (·.1 = s)

/-- The registry with the balancer at a place replaced. -/
def put (r : Registry) (id : BalancerId) (b : Balancer) : Registry :=
  ⟨r.entries.modify id fun (s, _) => (s, b)⟩

/-- The balancer of a configuration, made if its signature is new. The preference text is read
in any case; an existing balancer keeps the settings it was made with. -/
def getOrCreate (r : Registry) (seeds : List HostAddr) (config : Config.LoadBalance)
    (defaultPort : UInt16) : Except RoutingError (Registry × BalancerId) := do
  let preference ← config.topologyKeys.mapM Preference.parse
  let signature := Signature.ofSeeds seeds config.topologyKeys
  match r.get? signature with
  | some id => return (r, id)
  | none =>
    let b : Balancer := { preference, settings := .ofConfig config defaultPort }
    return (⟨r.entries ++ [(signature, b)]⟩, r.size)

end Registry

end ConnectionRouter
