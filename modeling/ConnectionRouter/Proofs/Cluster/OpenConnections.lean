import ConnectionRouter.Cluster.Network
import ConnectionRouter.Proofs.Table

/-!
# Open connections of a network

What the calls of a network do to the numbers of open connections: a connect that succeeds adds the
new connection, letting go of a connection or closing it takes it off if it was open, whether or not
the close fails, and nothing else changes them.
-/

namespace ConnectionRouter

/-- The connection is open and counted under a key. -/
def Connection.opens (member : HostKey) (c : Connection) : Bool := !c.closed && c.member == member

namespace Cluster

/-- A connect fails and leaves the cluster alone, or opens a connection to the address dialed. -/
theorem connect_cases (c : Cluster) (addr : HostAddr) :
    (∃ e, c.connect addr = (c, .error e)) ∨
      c.connect addr = ({ c with openCount := c.openCount.tally (addr.key standardPort) 0 (· + 1) },
        .ok { addr }) := by
  unfold connect
  split
  · exact .inl ⟨_, rfl⟩
  · split
    · exact .inr rfl
    · exact .inl ⟨_, rfl⟩

theorem openTo_close (c : Cluster) (conn : Connection) (member : HostKey) :
    (c.close conn).1.openTo member =
      c.openTo member - if conn.opens member then 1 else 0 := by
  cases hc : conn.closed with
  | true => simp [close, hc, Connection.opens]
  | false =>
    simp only [close, hc, openTo, Connection.opens, Bool.false_eq_true, if_false,
      Std.ExtTreeMap.getElem?_modify]
    by_cases hm : conn.member = member
    · subst hm
      cases c.openCount[conn.member]? <;> simp
    · simp [hm]

theorem openTo_connect (c : Cluster) (addr : HostAddr) (member : HostKey) :
    (c.connect addr).1.openTo member =
      c.openTo member + (c.connect addr).2.toOption.toList.countP (·.opens member) := by
  rcases c.connect_cases addr with ⟨e, hfail⟩ | hok
  · simp [hfail, Except.toOption]
  · simp only [hok, openTo, Table.getElem?_tally, Except.toOption, Option.toList_some,
      List.countP_singleton, Connection.opens, Connection.member]
    by_cases hm : addr.key standardPort = member
    · simp [hm]
    · simp [hm]

/-- A new connection is open. -/
theorem closed_of_connect {c : Cluster} {addr : HostAddr} {conn : Connection}
    (h : (c.connect addr).2 = .ok conn) : conn.closed = false := by
  rcases c.connect_cases addr with ⟨e, hfail⟩ | hok
  · rw [hfail] at h
    cases h
  · rw [hok] at h
    cases h
    rfl

theorem snd_close (c : Cluster) (conn : Connection) :
    (c.close conn).2 = { conn with closed := true } := by
  unfold close
  split
  · rename_i hclosed
    rw [← hclosed]
  · rfl

theorem attempts_close (c : Cluster) (conn : Connection) :
    (c.close conn).1.attempts = c.attempts := by
  unfold close
  split <;> rfl

/-- If the open connections are counted right under every key, they are counted right in all. -/
theorem totalOpen_eq {c : Cluster} {conns : List Connection}
    (h : ∀ member, c.openTo member = conns.countP (·.opens member)) :
    c.totalOpen = conns.countP fun conn => !conn.closed := by
  have hcount : ∀ member : HostKey,
      ((conns.filter fun conn => !conn.closed).map Connection.member).count member =
        conns.countP (·.opens member) := by
    intro member
    rw [List.count, List.countP_map, List.countP_filter]
    refine List.countP_congr fun conn _ => ?_
    simp [Connection.opens, Bool.and_comm]
  rw [totalOpen, Table.sumBy_eq_length (fun member => (h member).trans (hcount member).symm),
    List.length_map, List.countP_eq_length_filter]

end Cluster

namespace Network

theorem openTo_drop (n : Network) (conn : Connection) (member : HostKey) :
    (n.drop conn).cluster.openTo member =
      n.cluster.openTo member - if conn.opens member then 1 else 0 :=
  Cluster.openTo_close ..

/-- A close at fault has closed. -/
theorem close_eq (n : Network) (conn : Connection) : (n.close conn).1 = n.drop conn := by
  unfold close
  dsimp only
  split <;> rfl

theorem openTo_query (n : Network) (conn : Connection) (member : HostKey) :
    (n.query conn).1.cluster.openTo member = n.cluster.openTo member := by
  unfold query
  dsimp only
  split <;> rfl

/-- A connect at fault leaves no open connection. -/
theorem openTo_connect (n : Network) (addr : HostAddr) (member : HostKey) :
    (n.connect addr).1.cluster.openTo member =
      n.cluster.openTo member + (n.connect addr).2.toOption.toList.countP (·.opens member) := by
  have hc := n.cluster.openTo_connect addr member
  unfold connect
  cases hr : n.cluster.connect addr with
  | mk cluster result =>
    rw [hr] at hc
    cases result with
    | error e => exact hc
    | ok conn =>
      cases hf : n.faults.connect[addr.key standardPort]? with
      | none => simpa [hf] using hc
      | some kind =>
        simp only [Except.toOption, Option.toList_some, List.countP_singleton] at hc
        simp only [hf, openTo_drop, Except.toOption, Option.toList_none, List.countP_nil, hc]
        omega

theorem closed_of_connect {n : Network} {addr : HostAddr} {conn : Connection}
    (h : (n.connect addr).2 = .ok conn) : conn.closed = false := by
  have hcluster : (n.cluster.connect addr).2 = .ok conn := by
    unfold connect at h
    dsimp only at h
    split at h
    · cases h
    · exact h
  exact Cluster.closed_of_connect hcluster

end Network

end ConnectionRouter
