import ConnectionRouter.HostAddr
import ConnectionRouter.Placement.Preference
import ConnectionRouter.Quarantine
import ConnectionRouter.Topology.Member

/-!
# The pool of hosts

What a balancer knows of its cluster: the members of the last topology snapshot, the connection
count and priority of every host that may be chosen, the counts of hosts that left the cluster,
and the quarantine.

* `Pool`: the state, with `Pool.count?`, `Pool.priority?` and `Pool.isSelectable` as its views.
* `Pool.adjust`: changes the count of a host; a release also reaches the count of a host that
  has left, so that it comes back with its live connections only.
* `Pool.markFailed`: puts a host in quarantine and forgets its count and priority.
-/

namespace ConnectionRouter

/-- A member of the snapshot in force. -/
structure PoolMember where
  addr : HostAddr
  placement : Placement
  deriving DecidableEq

/-- What a balancer knows of its cluster. -/
@[ext]
structure Pool where
  members : Table PoolMember := ∅
  /-- The connections counted against each tracked host. -/
  counts : Table Nat := ∅
  /-- The counts of hosts that left the cluster with their connections open. -/
  stashed : Table Nat := ∅
  quarantine : Quarantine := {}
  /-- The priorities of the members outside quarantine, as of the last snapshot. -/
  priorities : Table Priority := ∅
  lastRefresh : Option Instant := none
  family : Option AddressFamily := none
  hasSnapshot : Bool := false
  deriving DecidableEq

/-- A count after `n` more connections; counts stop at the largest number of 64 bits. -/
def addConnections (count n : Nat) : Nat := min (count + n) Text.maxUnsigned

/-- A count changed by a signed amount, never below zero and never above the largest count. -/
def changeCount (count : Nat) (delta : Int) : Nat :=
  if delta < 0 then count - delta.natAbs else addConnections count delta.natAbs

theorem changeCount_le {n : Nat} (h : n ≤ Text.maxUnsigned) (delta : Int) :
    changeCount n delta ≤ Text.maxUnsigned := by
  unfold changeCount
  split
  · exact Nat.le_trans (Nat.sub_le _ _) h
  · exact Nat.min_le_right _ _

namespace Pool

/-- The connections counted against a tracked host. -/
def count? (p : Pool) (host : HostKey) : Option Nat := p.counts[host]?

/-- The priority of a ranked host. -/
def priority? (p : Pool) (host : HostKey) : Option Priority := p.priorities[host]?

def isQuarantined (p : Pool) (host : HostKey) : Bool := p.quarantine.contains host

/-- Whether a host may be chosen. -/
def isSelectable (p : Pool) (host : HostKey) : Bool :=
  p.counts.contains host && p.priorities.contains host && !p.isQuarantined host

/-- The addresses of the members, in the order of their keys. -/
def memberAddrs (p : Pool) : List HostAddr := p.members.values.map (·.addr)

/-- Changes the count of a host and tells the new count, if the host is tracked. A release of a
host that has left reaches its stashed count instead. -/
def adjust (p : Pool) (host : HostKey) (delta : Int) : Pool × Option Nat :=
  match if delta < 0 then p.stashed[host]? else none with
  | some n => ({ p with stashed := p.stashed.insert host (changeCount n delta) }, none)
  | none =>
    match p.counts[host]? with
    | none => (p, none)
    | some n =>
      let count := changeCount n delta
      ({ p with counts := p.counts.insert host count }, some count)

/-- Only counts and stash are adjusted. -/
theorem adjust_eq (p : Pool) (host : HostKey) (delta : Int) :
    (p.adjust host delta).1 =
      { p with
        counts := (p.adjust host delta).1.counts
        stashed := (p.adjust host delta).1.stashed } := by
  unfold adjust
  split
  · rfl
  · split <;> rfl

@[simp] theorem members_adjust (p : Pool) (host : HostKey) (delta : Int) :
    (p.adjust host delta).1.members = p.members := by rw [adjust_eq]

@[simp] theorem quarantine_adjust (p : Pool) (host : HostKey) (delta : Int) :
    (p.adjust host delta).1.quarantine = p.quarantine := by rw [adjust_eq]

@[simp] theorem isQuarantined_adjust (p : Pool) (host k : HostKey) (delta : Int) :
    (p.adjust host delta).1.isQuarantined k = p.isQuarantined k := by
  rw [isQuarantined, isQuarantined, quarantine_adjust]

@[simp] theorem priorities_adjust (p : Pool) (host : HostKey) (delta : Int) :
    (p.adjust host delta).1.priorities = p.priorities := by rw [adjust_eq]

@[simp] theorem lastRefresh_adjust (p : Pool) (host : HostKey) (delta : Int) :
    (p.adjust host delta).1.lastRefresh = p.lastRefresh := by rw [adjust_eq]

@[simp] theorem family_adjust (p : Pool) (host : HostKey) (delta : Int) :
    (p.adjust host delta).1.family = p.family := by rw [adjust_eq]

@[simp] theorem hasSnapshot_adjust (p : Pool) (host : HostKey) (delta : Int) :
    (p.adjust host delta).1.hasSnapshot = p.hasSnapshot := by rw [adjust_eq]

/-- A release reaches the stash first. -/
theorem getElem?_stashed_adjust (p : Pool) (host k : HostKey) (delta : Int) :
    (p.adjust host delta).1.stashed[k]? =
      if host = k ∧ delta < 0 then (p.stashed[k]?).map (changeCount · delta)
      else p.stashed[k]? := by
  unfold adjust
  by_cases hd : delta < 0
  · cases hs : p.stashed[host]? with
    | some n =>
      by_cases hk : host = k
      · subst hk
        simp [hd, hs]
      · simp [hd, hk, Std.ExtTreeMap.getElem?_insert]
    | none =>
      by_cases hk : host = k
      · subst hk
        simp only [hd, hs, if_true, and_self, Option.map_none]
        split <;> exact hs
      · simp only [hd, hk, if_true, false_and, if_false]
        split <;> rfl
  · simp only [hd, if_false, and_false]
    split <;> rfl

/-- The count of a host is adjusted unless the stash took the change. -/
theorem getElem?_counts_adjust (p : Pool) (host k : HostKey) (delta : Int) :
    (p.adjust host delta).1.counts[k]? =
      if host = k ∧ ¬(delta < 0 ∧ (p.stashed[k]?).isSome) then
        (p.counts[k]?).map (changeCount · delta)
      else p.counts[k]? := by
  unfold adjust
  by_cases hd : delta < 0 ∧ (p.stashed[host]?).isSome
  · obtain ⟨n, hs⟩ := Option.isSome_iff_exists.mp hd.2
    by_cases hk : host = k
    · subst hk
      simp [hd.1, hs]
    · simp [hd.1, hs, hk]
  · have hs : (if delta < 0 then p.stashed[host]? else none) = none := by
      split
      · rename_i hneg
        simpa [hneg] using hd
      · rfl
    rw [hs]
    by_cases hk : host = k
    · subst hk
      rw [if_pos ⟨rfl, hd⟩]
      cases hc : p.counts[host]? <;> simp [hc]
    · rw [if_neg (by simp [hk])]
      cases hc : p.counts[host]? <;> simp [hk, Std.ExtTreeMap.getElem?_insert]

/-- Puts a host in quarantine, forgets its count and priority, and tells whether it was outside
before. -/
def markFailed (p : Pool) (host : HostKey) (now : Instant) : Pool × Bool :=
  let (quarantine, isNew) := p.quarantine.insert host now
  ({ p with
      quarantine := quarantine
      counts := p.counts.erase host
      stashed := p.stashed.erase host
      priorities := p.priorities.erase host }, isNew)

@[simp] theorem members_markFailed (p : Pool) (host : HostKey) (now : Instant) :
    (p.markFailed host now).1.members = p.members := rfl

@[simp] theorem isQuarantined_markFailed (p : Pool) (host k : HostKey) (now : Instant) :
    (p.markFailed host now).1.isQuarantined k = (host == k || p.isQuarantined k) :=
  Quarantine.contains_insert ..

theorem getElem?_counts_markFailed (p : Pool) (host k : HostKey) (now : Instant) :
    (p.markFailed host now).1.counts[k]? = if host = k then none else p.counts[k]? := by
  by_cases hk : host = k <;> simp [markFailed, Std.ExtTreeMap.getElem?_erase, hk]

theorem getElem?_stashed_markFailed (p : Pool) (host k : HostKey) (now : Instant) :
    (p.markFailed host now).1.stashed[k]? = if host = k then none else p.stashed[k]? := by
  by_cases hk : host = k <;> simp [markFailed, Std.ExtTreeMap.getElem?_erase, hk]

theorem getElem?_priorities_markFailed (p : Pool) (host k : HostKey) (now : Instant) :
    (p.markFailed host now).1.priorities[k]? = if host = k then none else p.priorities[k]? := by
  by_cases hk : host = k <;> simp [markFailed, Std.ExtTreeMap.getElem?_erase, hk]

/-- Forgets when the last refresh was, so that the next one is due. -/
def forceRefresh (p : Pool) : Pool := { p with lastRefresh := none }

end Pool

end ConnectionRouter
