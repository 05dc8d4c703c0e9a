import ConnectionRouter.Pool.Basic

/-!
# Topology snapshots

A snapshot replaces the members of a pool. Hosts that stay keep their counts, hosts that leave
have theirs stashed, hosts that come back get them back, and new hosts start at zero.

* `decideFamily`: what one snapshot says about the family of addresses.
* `listing`: the members of a snapshot by key.
* `Pool.stashLeaving`, `Pool.admitHost`, `Pool.rank`: the passes over the hosts.
* `Pool.apply`: the pool after a snapshot, and the summary of the change.
-/

namespace ConnectionRouter

/-- What a topology query tells: the members, and the host that was asked. -/
structure Snapshot where
  members : List Member
  control : String
  deriving DecidableEq

/-- How a pool reads a snapshot. -/
structure SnapshotRules where
  preference : Option Preference := none
  defaultPort : UInt16 := standardPort
  failedHostTtl : Duration := .ofSeconds 5
  deriving DecidableEq

/-- The change that a snapshot makes. -/
@[ext]
structure SnapshotSummary where
  /-- The number of members. -/
  members : Nat
  /-- The hosts that are tracked anew, in order. -/
  added : List HostKey
  /-- The hosts that are tracked no more, in order. -/
  removed : List HostKey
  /-- The hosts let out of quarantine, in order. -/
  released : List HostKey
  deriving DecidableEq

/-- The family in which the control host is a member's address, private first; else private if
no member has a public address; else undecided. -/
def decideFamily (s : Snapshot) : Option AddressFamily :=
  if s.members.any (·.host == some s.control) then some .privateAddress
  else if s.members.any (·.publicIp == some s.control) then some .publicAddress
  else if s.members.all (·.publicIp.isNone) then some .privateAddress
  else none

/-- Lists a member under its key, if it has an address in the family. -/
def listMember (family : AddressFamily) (defaultPort : UInt16) (t : Table PoolMember)
    (m : Member) : Table PoolMember :=
  match m.address family with
  | none => t
  | some host =>
    let addr : HostAddr := ⟨host, m.port.getD defaultPort⟩
    t.insert (addr.key defaultPort) ⟨addr, m.placement⟩

/-- The members that have an address in the family, by key; of two with one key the later. -/
def listing (members : List Member) (family : AddressFamily) (defaultPort : UInt16) :
    Table PoolMember :=
  members.foldl (listMember family defaultPort) ∅

/-- Every member is listed under its key. -/
def KeyedBy (defaultPort : UInt16) (t : Table PoolMember) : Prop :=
  ∀ (k : HostKey) (m : PoolMember), t[k]? = some m → m.addr.key defaultPort = k

theorem keyedBy_listMember {defaultPort : UInt16} {t : Table PoolMember}
    (h : KeyedBy defaultPort t) (family : AddressFamily) (m : Member) :
    KeyedBy defaultPort (listMember family defaultPort t m) := by
  unfold listMember
  split
  · exact h
  · intro k m' hm
    rw [Std.ExtTreeMap.getElem?_insert] at hm
    split at hm
    · rename_i hk
      cases hm
      simpa using hk
    · exact h k m' hm

theorem keyedBy_listing (members : List Member) (family : AddressFamily) (defaultPort : UInt16) :
    KeyedBy defaultPort (listing members family defaultPort) := by
  suffices ∀ t, KeyedBy defaultPort t →
      KeyedBy defaultPort (members.foldl (listMember family defaultPort) t) from
    this ∅ fun k m h => by simp at h
  induction members with
  | nil => exact fun t h => h
  | cons m members ih => exact fun t h => ih _ (keyedBy_listMember h family m)

namespace Pool

/-- The priority of a place; without a preference every place has rank 1. -/
def rankOf (rules : SnapshotRules) (place : Placement) : Priority :=
  match rules.preference with
  | none => .tier 1
  | some preference => preference.priorityOf place

/-- Moves the counts of the hosts that `next` does not list to the stash. -/
def stashLeaving (p : Pool) (next : Table PoolMember) : Pool :=
  { p with
    counts := p.counts.restrict next.contains
    stashed := p.stashed.putAll (p.counts.restrict fun host => !next.contains host) }

theorem getElem?_counts_stashLeaving (p : Pool) (next : Table PoolMember) (k : HostKey) :
    (p.stashLeaving next).counts[k]? = if next.contains k then p.counts[k]? else none := by
  simp only [stashLeaving, Table.getElem?_restrict]

theorem getElem?_stashed_stashLeaving (p : Pool) (next : Table PoolMember) (k : HostKey) :
    (p.stashLeaving next).stashed[k]? =
      if next.contains k then p.stashed[k]? else (p.counts[k]?).or p.stashed[k]? := by
  cases h : next.contains k <;> simp [stashLeaving, h]

/-- Whether a snapshot that lists a host has to take it in. -/
def awaitsAdmission (p : Pool) (host : HostKey) : Bool :=
  !p.isQuarantined host && !p.counts.contains host

/-- Starts to count against a host outside quarantine, from its stashed count if it has one. -/
def admitHost (p : Pool) (host : HostKey) : Pool :=
  if p.awaitsAdmission host then
    { p with
      counts := p.counts.insert host (p.stashed[host]?.getD 0)
      stashed := p.stashed.erase host }
  else p

theorem awaitsAdmission_admitHost (p : Pool) (host k : HostKey) :
    (p.admitHost host).awaitsAdmission k = (p.awaitsAdmission k && host != k) := by
  by_cases hk : host = k
  · subst hk
    cases h : p.awaitsAdmission host <;> simp [admitHost, h]
    simp [awaitsAdmission]
  · cases h : p.awaitsAdmission host <;> simp [admitHost, h, hk]
    have hc : (compare host k == .eq) = false := by simpa using hk
    simp [awaitsAdmission, isQuarantined, Std.ExtTreeMap.contains_insert, hc, hk]

theorem getElem?_counts_admitHost (p : Pool) (host k : HostKey) :
    (p.admitHost host).counts[k]? =
      if host = k ∧ p.awaitsAdmission k then some (p.stashed[k]?.getD 0) else p.counts[k]? := by
  by_cases hk : host = k
  · subst hk
    cases h : p.awaitsAdmission host <;> simp [admitHost, h]
  · cases h : p.awaitsAdmission host <;>
      simp [admitHost, h, hk, Std.ExtTreeMap.getElem?_insert]

theorem getElem?_stashed_admitHost (p : Pool) (host k : HostKey) :
    (p.admitHost host).stashed[k]? =
      if host = k ∧ p.awaitsAdmission k then none else p.stashed[k]? := by
  by_cases hk : host = k
  · subst hk
    cases h : p.awaitsAdmission host <;> simp [admitHost, h]
  · cases h : p.awaitsAdmission host <;>
      simp [admitHost, h, hk, Std.ExtTreeMap.getElem?_erase]

/-- Admissions leave everything but counts and stash alone. -/
theorem admitHost_eq (p : Pool) (host : HostKey) :
    p.admitHost host =
      { p with counts := (p.admitHost host).counts, stashed := (p.admitHost host).stashed } := by
  cases h : p.awaitsAdmission host <;> simp [admitHost, h]

/-- Takes in a list of hosts. -/
def admitAll (p : Pool) (hosts : List HostKey) : Pool := hosts.foldl admitHost p

theorem admitAll_cons (p : Pool) (host : HostKey) (hosts : List HostKey) :
    p.admitAll (host :: hosts) = (p.admitHost host).admitAll hosts := rfl

theorem getElem?_counts_admitAll (hosts : List HostKey) (p : Pool) (k : HostKey) :
    (p.admitAll hosts).counts[k]? =
      if k ∈ hosts ∧ p.awaitsAdmission k then some (p.stashed[k]?.getD 0) else p.counts[k]? := by
  induction hosts generalizing p with
  | nil => simp [admitAll]
  | cons host hosts ih =>
    rw [admitAll_cons, ih, awaitsAdmission_admitHost, getElem?_counts_admitHost,
      getElem?_stashed_admitHost]
    by_cases hk : host = k
    · simp [hk]
    · simp [hk, Ne.symm hk]

theorem getElem?_stashed_admitAll (hosts : List HostKey) (p : Pool) (k : HostKey) :
    (p.admitAll hosts).stashed[k]? =
      if k ∈ hosts ∧ p.awaitsAdmission k then none else p.stashed[k]? := by
  induction hosts generalizing p with
  | nil => simp [admitAll]
  | cons host hosts ih =>
    rw [admitAll_cons, ih, awaitsAdmission_admitHost, getElem?_stashed_admitHost]
    by_cases hk : host = k
    · simp [hk]
    · simp [hk, Ne.symm hk]

theorem admitAll_eq (hosts : List HostKey) (p : Pool) :
    p.admitAll hosts =
      { p with counts := (p.admitAll hosts).counts, stashed := (p.admitAll hosts).stashed } := by
  induction hosts generalizing p with
  | nil => rfl
  | cons host hosts ih =>
    rw [admitAll_cons, ih, admitHost_eq]

/-- Ranks the members of `next` outside quarantine. -/
def rank (p : Pool) (rules : SnapshotRules) (next : Table PoolMember) : Pool :=
  { p with
    priorities := (next.restrict fun host => !p.isQuarantined host).map
      fun _ m => rankOf rules m.placement }

/-- The members of a snapshot as the pool reads it. While the family is undecided members are
reached by their private addresses. -/
def nextMembers (p : Pool) (s : Snapshot) (rules : SnapshotRules) : Table PoolMember :=
  listing s.members ((p.family.or (decideFamily s)).getD .privateAddress) rules.defaultPort

/-- The pool with the hosts let out whose stay in quarantine is over, and the counts of the hosts
that leave stashed. -/
def beforeAdmission (p : Pool) (s : Snapshot) (rules : SnapshotRules) (now : Instant) : Pool :=
  { p with
    quarantine := (p.quarantine.release rules.failedHostTtl now).1
    family := p.family.or (decideFamily s) }.stashLeaving (p.nextMembers s rules)

/-- The pool after a snapshot, and the summary of the change. Hosts are let out of quarantine
first, so that the same snapshot can take them in. -/
def apply (p : Pool) (s : Snapshot) (rules : SnapshotRules) (now : Instant) :
    Pool × SnapshotSummary :=
  let next := p.nextMembers s rules
  let kept := p.beforeAdmission s rules now
  let full := (kept.admitAll next.keys).rank rules next
  ({ full with
      members := next
      lastRefresh := some now
      hasSnapshot := true },
   { members := next.size
     added := next.keysWhere kept.awaitsAdmission
     removed := p.counts.keysWhere fun host => !next.contains host
     released := (p.quarantine.release rules.failedHostTtl now).2 })

/-! ## A snapshot, host by host -/

variable (p : Pool) (s : Snapshot) (rules : SnapshotRules) (now : Instant) (k : HostKey)

@[simp] theorem members_apply : (p.apply s rules now).1.members = p.nextMembers s rules := rfl

@[simp] theorem lastRefresh_apply : (p.apply s rules now).1.lastRefresh = some now := rfl

@[simp] theorem hasSnapshot_apply : (p.apply s rules now).1.hasSnapshot = true := rfl

@[simp] theorem quarantine_apply :
    (p.apply s rules now).1.quarantine = (p.quarantine.release rules.failedHostTtl now).1 := by
  simp only [apply, rank]
  rw [admitAll_eq]
  rfl

@[simp] theorem family_apply :
    (p.apply s rules now).1.family = p.family.or (decideFamily s) := by
  simp only [apply, rank]
  rw [admitAll_eq]
  rfl

theorem getElem?_priorities_apply :
    (p.apply s rules now).1.priorities[k]? =
      if (p.apply s rules now).1.isQuarantined k then none
      else ((p.nextMembers s rules)[k]?).map fun m => rankOf rules m.placement := by
  have hq : (p.apply s rules now).1.isQuarantined k =
      ((p.beforeAdmission s rules now).admitAll (p.nextMembers s rules).keys).isQuarantined k := by
    rw [isQuarantined, isQuarantined, quarantine_apply, admitAll_eq]
    rfl
  rw [hq]
  simp only [apply, rank, Std.ExtTreeMap.getElem?_map, Table.getElem?_restrict]
  cases ((p.beforeAdmission s rules now).admitAll (p.nextMembers s rules).keys).isQuarantined k <;>
    simp

theorem awaitsAdmission_beforeAdmission (h : k ∈ p.nextMembers s rules) :
    (p.beforeAdmission s rules now).awaitsAdmission k =
      (!(p.apply s rules now).1.isQuarantined k && (p.counts[k]?).isNone) := by
  rw [awaitsAdmission, Std.ExtTreeMap.contains_eq_isSome_getElem?, beforeAdmission,
    getElem?_counts_stashLeaving, if_pos (by simpa using h), Option.not_isSome, isQuarantined,
    isQuarantined, quarantine_apply]
  rfl

/-- A listed host keeps its count, or gets its stashed count back, or starts at zero; in
quarantine it gets none. -/
theorem getElem?_counts_apply_of_mem (h : k ∈ p.nextMembers s rules) :
    (p.apply s rules now).1.counts[k]? =
      (p.counts[k]?).or (if (p.apply s rules now).1.isQuarantined k then none
        else some (p.stashed[k]?.getD 0)) := by
  have hc : (p.nextMembers s rules).contains k = true := by simpa using h
  show ((p.beforeAdmission s rules now).admitAll (p.nextMembers s rules).keys).counts[k]? = _
  rw [getElem?_counts_admitAll, awaitsAdmission_beforeAdmission p s rules now k h,
    beforeAdmission, getElem?_counts_stashLeaving, getElem?_stashed_stashLeaving, if_pos hc,
    if_pos hc]
  cases p.counts[k]? <;> cases (p.apply s rules now).1.isQuarantined k <;> simp [h]

theorem getElem?_counts_apply_of_not_mem (h : k ∉ p.nextMembers s rules) :
    (p.apply s rules now).1.counts[k]? = none := by
  have hc : ¬(p.nextMembers s rules).contains k = true := by simpa using h
  show ((p.beforeAdmission s rules now).admitAll (p.nextMembers s rules).keys).counts[k]? = _
  rw [getElem?_counts_admitAll, beforeAdmission, getElem?_counts_stashLeaving, if_neg hc,
    if_neg (by simp [h])]

/-- The stash of a listed host is used up when the host is taken in. -/
theorem getElem?_stashed_apply_of_mem (h : k ∈ p.nextMembers s rules) :
    (p.apply s rules now).1.stashed[k]? =
      if !(p.apply s rules now).1.isQuarantined k && (p.counts[k]?).isNone then none
      else p.stashed[k]? := by
  have hc : (p.nextMembers s rules).contains k = true := by simpa using h
  show ((p.beforeAdmission s rules now).admitAll (p.nextMembers s rules).keys).stashed[k]? = _
  rw [getElem?_stashed_admitAll, awaitsAdmission_beforeAdmission p s rules now k h,
    beforeAdmission, getElem?_stashed_stashLeaving, if_pos hc]
  simp [h]

/-- A host that is not listed has its count, if any, in the stash. -/
theorem getElem?_stashed_apply_of_not_mem (h : k ∉ p.nextMembers s rules) :
    (p.apply s rules now).1.stashed[k]? = (p.counts[k]?).or p.stashed[k]? := by
  have hc : ¬(p.nextMembers s rules).contains k = true := by simpa using h
  show ((p.beforeAdmission s rules now).admitAll (p.nextMembers s rules).keys).stashed[k]? = _
  rw [getElem?_stashed_admitAll, beforeAdmission, getElem?_stashed_stashLeaving, if_neg hc,
    if_neg (by simp [h])]

end Pool

end ConnectionRouter
