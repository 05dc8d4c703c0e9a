import ConnectionRouter.Pool.Basic

/-!
# Views of a pool

A pool as reports show it: its members in the order of their keys with what is known of each,
and the hosts in quarantine.

* `Pool.view`: the view of a pool.
-/

namespace ConnectionRouter

/-- A member as reports show it. -/
structure HostView where
  host : HostKey
  port : UInt16
  placement : Placement
  connections : Option Nat
  priority : Option Priority
  quarantined : Bool
  deriving DecidableEq

/-- A pool as reports show it. -/
structure PoolView where
  hosts : List HostView
  quarantined : List HostKey
  family : Option AddressFamily
  refreshed : Bool
  deriving DecidableEq

def Pool.view (p : Pool) : PoolView where
  hosts := p.members.toList.map fun (host, m) =>
    { host := host
      port := m.addr.port
      placement := m.placement
      connections := p.count? host
      priority := p.priority? host
      quarantined := p.isQuarantined host }
  quarantined := p.quarantine.hosts
  family := p.family
  refreshed := p.hasSnapshot

end ConnectionRouter
