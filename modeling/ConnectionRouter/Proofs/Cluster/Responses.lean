import ConnectionRouter.Cluster.Network
import Mathlib.Data.List.Induction

/-!
# What a network answers

How long a connect takes, whether it succeeds, and what a query over a connection is answered depend
on the nodes, the delays and the faults, but not on the books (`Network.Alike`), which are all that
connects, queries and closes change.

* `Network.members`: the members that the cluster lists.
* `Network.Prompt`, `Network.Serves`: addresses that keep nobody waiting.
-/

namespace ConnectionRouter

namespace Network

/-- The same network but for its books. -/
structure Alike (n n' : Network) : Prop where
  nodes : n'.cluster.nodes = n.cluster.nodes
  delays : n'.cluster.delays = n.cluster.delays
  queryFailure : n'.cluster.queryFailure = n.cluster.queryFailure
  faults : n'.faults = n.faults

variable {n n' n'' : Network} {addr : HostAddr} {conn : Connection}

namespace Alike

theorem refl (n : Network) : n.Alike n := ⟨rfl, rfl, rfl, rfl⟩

theorem trans (h : n.Alike n') (h' : n'.Alike n'') : n.Alike n'' :=
  ⟨h'.nodes.trans h.nodes, h'.delays.trans h.delays, h'.queryFailure.trans h.queryFailure,
    h'.faults.trans h.faults⟩

theorem drop (n : Network) (conn : Connection) : n.Alike (n.drop conn) := by
  unfold Network.drop Cluster.close
  split <;> exact ⟨rfl, rfl, rfl, rfl⟩

theorem attempt (n : Network) (addr : HostAddr) : n.Alike (n.attempt addr).1 := ⟨rfl, rfl, rfl, rfl⟩

theorem connect (n : Network) (addr : HostAddr) : n.Alike (n.connect addr).1 := by
  have hcluster : n.Alike { n with cluster := (n.cluster.connect addr).1 } := by
    unfold Cluster.connect
    split
    · exact .refl n
    · split <;> exact ⟨rfl, rfl, rfl, rfl⟩
  unfold Network.connect
  dsimp only
  split
  · exact hcluster.trans (.drop _ _)
  · exact hcluster

theorem query (n : Network) (conn : Connection) : n.Alike (n.query conn).1 := by
  unfold Network.query
  dsimp only
  split <;> exact ⟨rfl, rfl, rfl, rfl⟩

theorem close (n : Network) (conn : Connection) : n.Alike (n.close conn).1 := by
  unfold Network.close
  dsimp only
  split <;> exact .drop n conn

/-! ## Alike networks answer alike -/

theorem attempt_eq (h : n.Alike n') (addr : HostAddr) :
    (n'.attempt addr).2 = (n.attempt addr).2 := by
  simp only [Network.attempt, Cluster.attempt, h.delays]

theorem connect_eq (h : n.Alike n') (addr : HostAddr) :
    (n'.connect addr).2 = (n.connect addr).2 := by
  have hcluster : (n'.cluster.connect addr).2 = (n.cluster.connect addr).2 := by
    simp only [Cluster.connect, Cluster.node?, h.nodes]
    split
    · rfl
    · split <;> rfl
  simp only [Network.connect, h.faults, hcluster]
  split <;> rfl

theorem query_eq (h : n.Alike n') (conn : Connection) : (n'.query conn).2 = (n.query conn).2 := by
  have hcluster : (n'.cluster.query conn).2 = (n.cluster.query conn).2 := by
    simp only [Cluster.query, Cluster.node?, h.nodes, h.queryFailure]
    rfl
  simp only [Network.query, h.faults, hcluster]
  split <;> rfl

end Alike

/-- The rows of the servers query when it is answered. -/
def rows (n : Network) : List Row := (n.cluster.nodes.filter (·.listed)).map Node.row

/-- The members that the cluster lists. -/
def members (n : Network) : List Member := (n.rows.map Member.ofRow).filter Member.hasAddress

/-- A query that succeeds tells the rows of the listed nodes. -/
theorem eq_rows_of_query {answer : List Row} (h : (n.query conn).2 = .ok answer) :
    answer = n.rows := by
  have hcluster : ∀ {answer}, (n.cluster.query conn).2 = .ok answer → answer = n.rows := by
    intro answer h
    unfold Cluster.query at h
    split at h
    · cases h
    · split at h
      · cases h
      · split at h
        · cases h
        · cases h
          rfl
  unfold Network.query at h
  dsimp only at h
  split at h
  · cases h
  · exact hcluster h

theorem ofAnswer_rows (n : Network) : Member.ofAnswer (.ok n.rows) = .ok n.members := rfl

/-- A connect to the address takes no time, and if it succeeds, so does a query over the
connection. -/
structure Prompt (n : Network) (addr : HostAddr) : Prop where
  attempt : (n.attempt addr).2 = 0
  query : ∀ conn, (n.connect addr).2 = .ok conn → (n.query conn).2 = .ok n.rows

/-- A connect to the address succeeds at once, and so does a query over the connection. -/
structure Serves (n : Network) (addr : HostAddr) : Prop extends n.Prompt addr where
  connect : (n.connect addr).2 = .ok ⟨addr, false⟩

instance (n : Network) (addr : HostAddr) : Decidable (n.Prompt addr) :=
  decidable_of_iff ((n.attempt addr).2 = 0 ∧
      ∀ conn ∈ (n.connect addr).2.toOption, (n.query conn).2 = .ok n.rows)
    ⟨fun h => ⟨h.1, fun conn hc => h.2 conn (by rw [hc]; rfl)⟩,
      fun h => ⟨h.attempt, fun conn hc => h.query conn (by
        cases hr : (n.connect addr).2 with
        | ok conn' =>
          rw [hr] at hc
          cases hc
          rfl
        | error e =>
          rw [hr] at hc
          cases hc)⟩⟩

instance (n : Network) (addr : HostAddr) : Decidable (n.Serves addr) :=
  decidable_of_iff (n.Prompt addr ∧ (n.connect addr).2 = .ok ⟨addr, false⟩)
    ⟨fun h => ⟨h.1, h.2⟩, fun h => ⟨h.toPrompt, h.connect⟩⟩

end Network

end ConnectionRouter
