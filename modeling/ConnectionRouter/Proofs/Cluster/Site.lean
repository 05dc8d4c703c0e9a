import ConnectionRouter.Proofs.Cluster.Responses
import ConnectionRouter.Router.Basic
import Mathlib.Data.Finset.Basic

/-!
# Clusters that stay as they are

What requests to a router find while its cluster does not change (`Site`): which addresses accept,
the first seed that does (`Site.gate?`), the members that are told there (`Site.members`), and those
of them that balancing is about, the members of the best tier that accept (`Site.front`).
-/

namespace ConnectionRouter

/-- The nodes of a cluster that does not change, the seeds of a router, and what its balancer goes
by. -/
structure Site where
  nodes : List Node
  id : BalancerId
  seeds : List HostAddr
  preference : Option Preference
  settings : BalancerSettings

namespace Site

variable (c : Site)

/-- The network, before anything has happened in it. -/
def network : Network := { cluster := { nodes := c.nodes } }

/-- The balancer, before anything has happened to it. -/
def balancer : Balancer := { preference := c.preference, settings := c.settings }

/-- Whether connections to an address are accepted. -/
def accepts (addr : HostAddr) : Bool := (c.network.cluster.node? addr).any (·.up)

/-- The first seed that accepts. -/
def gate? : Option HostAddr := c.seeds.find? c.accepts

/-- What that seed tells about the family of addresses. -/
def family : Option AddressFamily :=
  c.gate?.bind fun addr => decideFamily ⟨c.network.members, addr.host⟩

/-- The members that the router comes to know; without a seed that accepts it learns of none. -/
def members : Table PoolMember :=
  if c.gate?.isSome then
    listing c.network.members (c.family.getD .privateAddress) c.settings.defaultPort
  else ∅

/-- The priority of a member. -/
def rank (m : PoolMember) : Priority := Pool.rankOf c.balancer.rules m.placement

/-- A member that accepts connections. -/
def Good (host : HostKey) : Prop :=
  ∃ m, c.members[host]? = some m ∧ c.accepts m.addr = true

/-- The members that accept and that no other such member is preferred to. -/
def front : Finset HostKey :=
  let good := c.members.toList.filter fun (_, m) => c.accepts m.addr
  ((good.filter fun (_, m) => good.all fun (_, m') => decide (c.rank m ≤ c.rank m')).map
    (·.1)).toFinset

variable {c}

theorem mem_front {host : HostKey} : host ∈ c.front ↔
    ∃ m, (c.members[host]? = some m ∧ c.accepts m.addr = true) ∧
      ∀ (k : HostKey) (m' : PoolMember), c.members[k]? = some m' → c.accepts m'.addr = true →
        c.rank m ≤ c.rank m' := by
  simp only [front, List.mem_toFinset, List.mem_map, List.mem_filter, List.all_eq_true,
    decide_eq_true_iff, Prod.forall, Prod.exists, Std.ExtTreeMap.mem_toList_iff_getElem?_eq_some,
    and_imp]
  constructor
  · rintro ⟨k, m, h, rfl⟩
    exact ⟨m, h⟩
  · rintro ⟨m, h⟩
    exact ⟨host, m, h, rfl⟩

theorem good_of_mem_front {host : HostKey} (h : host ∈ c.front) : c.Good host := by
  obtain ⟨m, hm, -⟩ := mem_front.mp h
  exact ⟨m, hm⟩

/-- A router that finds no seed knows no member. -/
theorem front_eq_empty (h : c.gate? = none) : c.front = ∅ := by
  simp [front, members, h]

theorem members_eq {addr : HostAddr} (h : c.gate? = some addr) : c.members =
    listing c.network.members ((decideFamily ⟨c.network.members, addr.host⟩).getD .privateAddress)
      c.settings.defaultPort := by
  simp [members, family, h]

/-! ## What is answered -/

theorem attempt_eq (addr : HostAddr) : (c.network.attempt addr).2 = 0 := by
  simp [network, Network.attempt, Cluster.attempt]

theorem connect_of_accepts {addr : HostAddr} (h : c.accepts addr = true) :
    (c.network.connect addr).2 = .ok ⟨addr, false⟩ := by
  unfold accepts at h
  cases hn : c.network.cluster.node? addr with
  | none => simp [hn] at h
  | some n =>
    have hup : n.up = true := by simpa [hn] using h
    have hfaults : c.network.faults = {} := rfl
    simp [Network.connect, Cluster.connect, hn, hup, hfaults]

theorem connect_of_refuses {addr : HostAddr} (h : c.accepts addr = false) :
    ∃ e, (c.network.connect addr).2 = .error e := by
  unfold accepts at h
  cases hn : c.network.cluster.node? addr with
  | none => exact ⟨_, by simp [Network.connect, Cluster.connect, hn]; rfl⟩
  | some n =>
    have hup : n.up = false := by simpa [hn] using h
    exact ⟨_, by simp [Network.connect, Cluster.connect, hn, hup]; rfl⟩

/-- A query over a connection that was accepted tells the members. -/
theorem query_of_accepts {addr : HostAddr} (h : c.accepts addr = true) :
    (c.network.query ⟨addr, false⟩).2 = .ok c.network.rows := by
  have hup : (c.network.cluster.node? addr).any (·.up) = true := h
  have hfailure : c.network.cluster.queryFailure = false := rfl
  have hfaults : c.network.faults = {} := rfl
  simp [Network.query, Cluster.query, Network.rows, hup, hfailure, hfaults]

end Site

end ConnectionRouter
