import ConnectionRouter.Proofs.Placement.Ranking
import ConnectionRouter.Proofs.Pool.Ruled
import Mathlib.Data.Finset.Dedup

/-!
# The fallback chain

Whom a pool chooses is said by a chain that knows nothing of tables of counts and priorities: of
the members that are neither in quarantine nor left out, those of rank 1 come first, then those of
rank 2, down to rank 10 and the rest of the cluster; in the first tier in which a member remains,
the least loaded may be chosen (`Pool.fallback`).

Under preferences that were read from texts, every reachable pool chooses by the chain, and what it
answers about single hosts agrees with whom it would choose (`RuledPool.run_followsChain`).

* `Pool.front`: the hosts of the best priority, from which the pool chooses
  (`Pool.mem_front_of_mem_select`).
* `Pool.eligible_eq`: the eligible hosts are the members that remain, with their ranks.
* `Pool.firstPriority?_eq`: the first tier of the chain is that of the best priority.
* `Pool.select_eq_fallback`: the choice of the pool is that of the chain.
-/

namespace ConnectionRouter

/-! ## Ranks that a text can declare -/

/-- The priorities in the order in which they are tried. -/
def fallbackChain : List Priority := (List.range' 1 maxRank).map .tier ++ [.restOfCluster]

/-- The preference, if there is one, was read from a text. -/
def SnapshotRules.Readable (rules : SnapshotRules) : Prop :=
  ∀ preference ∈ rules.preference, ∃ source, Preference.parse source = .ok preference

theorem mem_fallbackChain_of_rank {rank : Nat} (hone : 1 ≤ rank) (hmax : rank ≤ maxRank) :
    .tier rank ∈ fallbackChain := by
  refine List.mem_append_left _ (List.mem_map_of_mem ?_)
  rw [List.mem_range'_1]
  omega

theorem restOfCluster_mem_fallbackChain : .restOfCluster ∈ fallbackChain :=
  List.mem_append_right _ (List.mem_singleton_self _)

/-- Every place has a priority of the chain. -/
theorem Preference.priorityOf_mem_fallbackChain {source : String} {p : Preference}
    (h : parse source = .ok p) (place : Placement) : p.priorityOf place ∈ fallbackChain := by
  have hranked := ranked_priorityOf p place
  cases hq : p.priorityOf place with
  | restOfCluster => exact restOfCluster_mem_fallbackChain
  | tier rank =>
    rw [hq] at hranked
    -- the rank is that of an entry, which the text declares
    obtain ⟨⟨e, he, rfl, -⟩, -⟩ := hranked
    have hlegible := (written_of_parse h).legible e he
    exact mem_fallbackChain_of_rank hlegible.one_le_rank hlegible.rank_le

theorem SnapshotRules.Readable.rankOf_mem {rules : SnapshotRules} (h : rules.Readable)
    (place : Placement) : Pool.rankOf rules place ∈ fallbackChain := by
  unfold Pool.rankOf
  split
  · exact mem_fallbackChain_of_rank (Nat.le_refl 1) (by decide)
  · rename_i preference hpreference
    obtain ⟨source, hsource⟩ := h preference hpreference
    exact Preference.priorityOf_mem_fallbackChain hsource place

/-- The chain goes from better priorities to worse. -/
theorem pairwise_fallbackChain : fallbackChain.Pairwise (· < ·) := by decide

/-- In a list in order, the first element that qualifies is the least. -/
theorem List.find?_eq_least {chain : List Priority} (hsorted : chain.Pairwise (· < ·))
    {q : Priority → Bool} {best : Priority} (hmem : best ∈ chain) (hq : q best = true)
    (hle : ∀ priority, q priority = true → best ≤ priority) : chain.find? q = some best := by
  obtain ⟨before, rest, rfl⟩ := List.append_of_mem hmem
  rw [List.find?_eq_some_iff_append]
  refine ⟨hq, before, rest, rfl, fun priority hb => ?_⟩
  have hlt := (List.pairwise_append.mp hsorted).2.2 priority hb best List.mem_cons_self
  rw [Bool.not_eq_true']
  exact Bool.eq_false_iff.mpr fun hqb => hle priority hqb hlt

namespace Pool

/-! ## The chain -/

section Chain

variable (rules : SnapshotRules) (p : Pool) (excluding : List HostKey)

/-- The members that are neither in quarantine nor left out. -/
def remaining : Table PoolMember :=
  p.members.restrict fun host => !excluding.contains host && !p.isQuarantined host

/-- Those of one priority, in the order of their keys. -/
def tierOf (priority : Priority) : List (HostKey × PoolMember) :=
  (p.remaining excluding).toList.filter fun (_, m) => rankOf rules m.placement = priority

/-- The first priority of the chain with a member that remains. -/
def firstPriority? : Option Priority :=
  fallbackChain.find? fun priority => decide (p.tierOf rules excluding priority ≠ [])

/-- The first tier of the chain in which a member remains. -/
def firstTier : List (HostKey × PoolMember) :=
  match p.firstPriority? rules excluding with
  | none => []
  | some priority => p.tierOf rules excluding priority

/-- The hosts that the chain offers: the least loaded of the first tier, with the addresses of the
members that they are. -/
def fallback : List (HostKey × HostAddr) :=
  let tier := p.firstTier rules excluding
  (tier.filter fun (host, _) => decide (∀ other ∈ tier, p.countOf host ≤ p.countOf other.1)).map
    fun (host, m) => (host, m.addr)

end Chain

/-- One member is of a better priority than another. -/
def Outranks (rules : SnapshotRules) (p : Pool) (host other : HostKey) : Prop :=
  ∃ m m', p.members[host]? = some m ∧ p.members[other]? = some m' ∧
    rankOf rules m.placement < rankOf rules m'.placement

theorem getElem?_remaining {p : Pool} {excluding : List HostKey} {host : HostKey}
    {m : PoolMember} : (p.remaining excluding)[host]? = some m ↔
      p.members[host]? = some m ∧ p.isQuarantined host = false ∧ host ∉ excluding := by
  rw [remaining, Table.getElem?_restrict]
  by_cases hx : host ∈ excluding <;> cases p.isQuarantined host <;> simp [hx]

theorem available_iff {p : Pool} {excluding : List HostKey} {host : HostKey} :
    p.Available excluding host ↔ host ∈ p.remaining excluding := by
  simp only [Table.mem_iff_exists, getElem?_remaining, exists_and_right, Available]

/-- Every member but one host. -/
def others (p : Pool) (host : HostKey) : List HostKey := p.members.keys.filter (· ≠ host)

theorem mem_others {p : Pool} {host k : HostKey} :
    k ∈ p.others host ↔ k ∈ p.members ∧ k ≠ host := by
  simp [others, Std.ExtTreeMap.mem_keys]

/-! ## The hosts in front -/

/-- The hosts of the best priority that has an eligible host. -/
def front (p : Pool) (excluding : List HostKey) : Finset HostKey :=
  (((p.eligible excluding).filter fun c =>
    decide (∀ d ∈ p.eligible excluding, c.priority ≤ d.priority)).map (·.host)).toFinset

theorem mem_front {p : Pool} {excluding : List HostKey} {host : HostKey} :
    host ∈ p.front excluding ↔ ∃ c ∈ p.eligible excluding, c.host = host ∧
      ∀ d ∈ p.eligible excluding, c.priority ≤ d.priority := by
  simp only [front, List.mem_toFinset, List.mem_map, List.mem_filter, decide_eq_true_eq]
  exact ⟨fun ⟨c, ⟨hc, hle⟩, he⟩ => ⟨c, hc, he, hle⟩, fun ⟨c, hc, he, hle⟩ => ⟨c, ⟨hc, hle⟩, he⟩⟩

theorem countOf_of_mem_eligible {p : Pool} {excluding : List HostKey} {c : Candidate}
    (h : c ∈ p.eligible excluding) : p.countOf c.host = c.count := by
  rw [countOf, (mem_eligible.mp h).2.2.1, Option.getD_some]

/-- Whoever may be chosen is a least loaded host of the front. -/
theorem mem_front_of_mem_select {p : Pool} {excluding : List HostKey} {host : HostKey}
    {addr : HostAddr} (h : (host, addr) ∈ p.select excluding) :
    host ∈ p.front excluding ∧ ∀ k ∈ p.front excluding, p.countOf host ≤ p.countOf k := by
  obtain ⟨c, -, rfl, -, -, hbest⟩ := best_of_mem_select h
  refine ⟨mem_front.mpr ⟨c, hbest.mem, rfl, hbest.priority_le⟩, fun k hk => ?_⟩
  obtain ⟨d, hd, rfl, hle⟩ := mem_front.mp hk
  have hsame : d.priority = c.priority :=
    Std.IsPartialOrder.le_antisymm _ _ (hle c hbest.mem) (hbest.priority_le d hd)
  rw [countOf_of_mem_eligible hbest.mem, countOf_of_mem_eligible hd]
  exact hbest.count_le d hd hsame

theorem available_of_mem_front {p : Pool} {excluding : List HostKey} {host : HostKey}
    {defaultPort : UInt16} (v : p.Valid defaultPort) (h : host ∈ p.front excluding) :
    p.Available excluding host := by
  obtain ⟨c, hc, rfl, -⟩ := mem_front.mp h
  exact v.exists_eligible_iff.mp ⟨c, hc, rfl⟩

/-! ## The pool follows the chain -/

/-- The eligible hosts by key, with their counts and priorities. -/
def eligibleByKey (p : Pool) (excluding : List HostKey) : Table (Nat × Priority) :=
  p.counts.filterMap fun host count =>
    if excluding.contains host || p.isQuarantined host then none
    else (p.priorities[host]?).map fun priority => (count, priority)

theorem eligible_eq_toList (p : Pool) (excluding : List HostKey) : p.eligible excluding =
    (p.eligibleByKey excluding).toList.map fun entry => ⟨entry.1, entry.2.1, entry.2.2⟩ := by
  rw [eligible, eligibleByKey, Std.ExtTreeMap.toList_filterMap, List.map_filterMap]
  congr 1
  funext entry
  obtain ⟨host, count⟩ := entry
  dsimp only
  split
  · rfl
  · cases p.priorities[host]? <;> rfl

section Sound

variable {p : Pool} {rules : SnapshotRules} {excluding : List HostKey}
  (h : RuledPool.Sound ⟨p, rules⟩)
include h

/-- A member outside quarantine is tracked. -/
theorem getElem?_counts_of_free {host : HostKey} (hmem : host ∈ p.members)
    (hq : p.isQuarantined host = false) : p.counts[host]? = some (p.countOf host) := by
  obtain ⟨n, hn⟩ := Table.mem_iff_exists.mp ((h.valid.mem_counts_iff host).mpr ⟨hmem, hq⟩)
  rw [countOf, hn, Option.getD_some]

theorem eligibleByKey_eq : p.eligibleByKey excluding = (p.remaining excluding).map
    fun host m => (p.countOf host, rankOf rules m.placement) := by
  refine Std.ExtTreeMap.ext_getElem? fun host => ?_
  rw [eligibleByKey, Std.ExtTreeMap.getElem?_filterMap', Std.ExtTreeMap.getElem?_map]
  cases hr : (p.remaining excluding)[host]? with
  | some m =>
    obtain ⟨hm, hq, hx⟩ := getElem?_remaining.mp hr
    have hpriority : p.priorities[host]? = some (rankOf rules m.placement) :=
      h.priority_eq host m hm hq
    have hcount := getElem?_counts_of_free h (Table.mem_iff_exists.mpr ⟨m, hm⟩) hq
    simp [hcount, hpriority, hq, hx]
  | none =>
    rw [Option.map_none, Option.bind_eq_none_iff]
    intro count hc
    -- a tracked host is a member outside quarantine, so it was left out
    obtain ⟨hmem, hq⟩ := (h.valid.mem_counts_iff host).mp (Table.mem_iff_exists.mpr ⟨count, hc⟩)
    have hx : host ∈ excluding := by
      by_contra hx
      obtain ⟨m, hm⟩ := Table.mem_iff_exists.mp (available_iff.mp ⟨hmem, hq, hx⟩)
      rw [hr] at hm
      cases hm
    simp [hx]

/-- **The eligible hosts are the members that remain**, ranked by the rules of the last
snapshot. -/
theorem eligible_eq : p.eligible excluding = (p.remaining excluding).toList.map
    fun (host, m) => ⟨host, p.countOf host, rankOf rules m.placement⟩ := by
  rw [eligible_eq_toList, eligibleByKey_eq h, Std.ExtTreeMap.toList_map, List.map_map]
  rfl

theorem mem_eligible_of_remaining {host : HostKey} {m : PoolMember}
    (hm : (p.remaining excluding)[host]? = some m) :
    ⟨host, p.countOf host, rankOf rules m.placement⟩ ∈ p.eligible excluding := by
  rw [eligible_eq h]
  exact List.mem_map_of_mem (Std.ExtTreeMap.mem_toList_iff_getElem?_eq_some.mpr hm)

theorem exists_remaining_of_mem_eligible {c : Candidate} (hc : c ∈ p.eligible excluding) :
    ∃ m, (p.remaining excluding)[c.host]? = some m ∧
      c.priority = rankOf rules m.placement := by
  rw [eligible_eq h] at hc
  obtain ⟨⟨host, m⟩, hm, rfl⟩ := List.mem_map.mp hc
  exact ⟨m, Std.ExtTreeMap.mem_toList_iff_getElem?_eq_some.mp hm, rfl⟩

/-- Which hosts are in front is a matter of the members. -/
theorem mem_front_iff {host : HostKey} :
    host ∈ p.front excluding ↔ ∃ m, (p.remaining excluding)[host]? = some m ∧
      ∀ (other : HostKey) (m' : PoolMember), (p.remaining excluding)[other]? = some m' →
        rankOf rules m.placement ≤ rankOf rules m'.placement := by
  rw [mem_front]
  constructor
  · rintro ⟨c, hc, rfl, hle⟩
    obtain ⟨m, hm, hpriority⟩ := exists_remaining_of_mem_eligible h hc
    refine ⟨m, hm, fun other m' hm' => ?_⟩
    rw [← hpriority]
    exact hle _ (mem_eligible_of_remaining h hm')
  · rintro ⟨m, hm, hle⟩
    refine ⟨_, mem_eligible_of_remaining h hm, rfl, fun d hd => ?_⟩
    obtain ⟨m', hm', hpriority⟩ := exists_remaining_of_mem_eligible h hd
    rw [hpriority]
    exact hle d.host m' hm'

/-- **The first tier of the chain is that of the best priority.** -/
theorem firstPriority?_eq (readable : rules.Readable) :
    p.firstPriority? rules excluding = p.bestPriority? excluding := by
  have hpriorities : (p.eligible excluding).map (·.priority) =
      (p.remaining excluding).toList.map fun (_, m) => rankOf rules m.placement := by
    rw [eligible_eq h, List.map_map]
    rfl
  have htier : ∀ priority, p.tierOf rules excluding priority ≠ [] ↔
      priority ∈ (p.eligible excluding).map (·.priority) := by
    intro priority
    rw [hpriorities, List.mem_map, tierOf, ne_eq, List.filter_eq_nil_iff]
    push Not
    simp only [decide_eq_true_eq]
  rw [firstPriority?, bestPriority?]
  cases hbest : ((p.eligible excluding).map (·.priority)).min? with
  | none =>
    rw [List.min?_eq_none_iff] at hbest
    refine List.find?_eq_none.mpr fun priority _ => ?_
    rw [decide_eq_true_eq, htier, hbest]
    exact List.not_mem_nil
  | some best =>
    obtain ⟨hmem, hle⟩ := List.min?_eq_some_iff.mp hbest
    have hchain : best ∈ fallbackChain := by
      rw [hpriorities] at hmem
      obtain ⟨⟨host, m⟩, -, rfl⟩ := List.mem_map.mp hmem
      exact readable.rankOf_mem m.placement
    refine List.find?_eq_least pairwise_fallbackChain hchain ?_ fun priority hq => ?_
    · rw [decide_eq_true_eq, htier]
      exact hmem
    · rw [decide_eq_true_eq, htier] at hq
      exact hle priority hq

/-- **The choice of the pool is that of the chain.** -/
theorem select_eq_fallback (readable : rules.Readable) :
    p.select excluding = p.fallback rules excluding := by
  rw [select, fallback, firstTier, firstPriority?_eq h readable]
  cases p.bestPriority? excluding with
  | none => rfl
  | some best =>
    have htier : ((p.eligible excluding).filter (·.priority = best)).map
        (fun c => (c.host, c.count)) = (p.tierOf rules excluding best).map
        fun (host, _) => (host, p.countOf host) := by
      rw [eligible_eq h, List.filter_map, List.map_map]
      rfl
    have haddr : ∀ entry ∈ p.tierOf rules excluding best,
        ((p.members[entry.1]?).map fun m => (entry.1, m.addr)) =
          some (entry.1, entry.2.addr) := by
      intro entry hentry
      have hin := (List.mem_filter.mp hentry).1
      rw [Std.ExtTreeMap.mem_toList_iff_getElem?_eq_some, getElem?_remaining] at hin
      rw [hin.1]
      rfl
    dsimp only
    rw [htier, leastLoaded_eq, List.filter_map, List.map_map, List.filterMap_map]
    refine Eq.trans (List.filterMap_congr (g := fun entry => some (entry.1, entry.2.addr)) ?_) ?_
    · exact fun entry hentry => haddr entry (List.mem_of_mem_filter hentry)
    · rw [List.filterMap_eq_map']
      congr 1
      refine List.filter_congr fun entry _ => decide_eq_decide.mpr ?_
      exact List.forall_mem_map

/-! ## What is told of single hosts -/

theorem select_eq_nil_iff :
    p.select excluding = [] ↔
      ∀ host ∈ p.members, host ∈ excluding ∨ p.isQuarantined host = true := by
  constructor
  · intro hnil host hmem
    by_contra hfree
    rw [not_or, Bool.not_eq_true] at hfree
    exact h.valid.select_ne_nil_of_available ⟨hmem, hfree.2, hfree.1⟩ hnil
  · intro hnone
    refine select_eq_nil (List.eq_nil_iff_forall_not_mem.mpr fun c hc => ?_)
    obtain ⟨hmem, hq, hx⟩ := h.valid.exists_eligible_iff.mp ⟨c, hc, rfl⟩
    rcases hnone c.host hmem with hin | hin
    · exact hx hin
    · rw [hq] at hin
      cases hin

/-- A host that may be chosen at all is chosen where all others are left out. -/
theorem isSelectable_iff_exists {host : HostKey} :
    p.isSelectable host = true ↔ ∃ excluding addr, (host, addr) ∈ p.select excluding := by
  constructor
  · intro hs
    obtain ⟨hmem, hq, -⟩ := h.valid.isSelectable_iff.mp hs
    have hout : host ∉ p.others host := fun hin => (mem_others.mp hin).2 rfl
    have hne := h.valid.select_ne_nil_of_available ⟨hmem, hq, hout⟩
    obtain ⟨⟨k, addr⟩, hk⟩ := List.exists_mem_of_ne_nil _ hne
    obtain ⟨hx, -, m, hm, -⟩ := of_mem_select hk
    have hself : k = host := by
      by_contra hother
      exact hx (mem_others.mpr ⟨Table.mem_iff_exists.mpr ⟨m, hm⟩, hother⟩)
    exact ⟨p.others host, addr, hself ▸ hk⟩
  · rintro ⟨excluding, addr, hk⟩
    exact (of_mem_select hk).2.1

/-- What is asked of the priorities is a matter of the members. -/
theorem hasMorePreferred_iff_exists {host : HostKey} :
    p.hasMorePreferred host = true ↔ ∃ m, (p.remaining [])[host]? = some m ∧
      ∃ (other : HostKey) (m' : PoolMember), (p.remaining [])[other]? = some m' ∧
        rankOf rules m'.placement < rankOf rules m.placement := by
  unfold hasMorePreferred priority?
  constructor
  · intro ht
    split at ht
    · cases ht
    · rename_i current hcurrent
      obtain ⟨c, hc, hbefore⟩ := List.any_eq_true.mp ht
      rw [Bool.and_eq_true] at hbefore
      obtain ⟨m', hm', hpriority⟩ := exists_remaining_of_mem_eligible h hc
      -- a ranked host is a member outside quarantine
      obtain ⟨hmem, hq⟩ := (h.valid.mem_priorities_iff host).mp
        (Table.mem_iff_exists.mpr ⟨current, hcurrent⟩)
      obtain ⟨m, hm⟩ := Table.mem_iff_exists.mp hmem
      have hrank : current = rankOf rules m.placement :=
        Option.some.inj (hcurrent.symm.trans (h.priority_eq host m hm hq))
      refine ⟨m, getElem?_remaining.mpr ⟨hm, hq, List.not_mem_nil⟩, c.host, m', hm', ?_⟩
      rw [← hrank, ← hpriority]
      exact hbefore.2
  · rintro ⟨m, hm, other, m', hm', hlt⟩
    obtain ⟨hm, hq, -⟩ := getElem?_remaining.mp hm
    have hne : other ≠ host := by
      rintro rfl
      obtain rfl : m' = m := Option.some.inj ((getElem?_remaining.mp hm').1.symm.trans hm)
      have hself : rankOf rules m'.placement ≤ rankOf rules m'.placement :=
        Std.IsPreorder.le_refl _
      exact hself hlt
    rw [h.priority_eq host m hm hq]
    refine List.any_eq_true.mpr ⟨_, mem_eligible_of_remaining h hm', ?_⟩
    rw [Bool.and_eq_true, bne_iff_ne]
    exact ⟨hne, hlt⟩

/-- A host is not the most preferred iff the pool, left free, chooses one that outranks it. -/
theorem hasMorePreferred_iff_outranked {host : HostKey} :
    p.hasMorePreferred host = true ↔ host ∈ p.members ∧ p.isQuarantined host = false ∧
      ∃ c ∈ p.select [], p.Outranks rules c.1 host := by
  rw [hasMorePreferred_iff_exists h]
  constructor
  · rintro ⟨m, hm, other, m', hm', hlt⟩
    obtain ⟨hmember, hq, -⟩ := getElem?_remaining.mp hm
    have hne := h.valid.select_ne_nil_of_available
      (available_iff.mpr (Table.mem_iff_exists.mpr ⟨m', hm'⟩))
    obtain ⟨⟨k, addr⟩, hk⟩ := List.exists_mem_of_ne_nil _ hne
    obtain ⟨m'', hm'', hle⟩ := (mem_front_iff h).mp (mem_front_of_mem_select hk).1
    exact ⟨Table.mem_iff_exists.mpr ⟨m, hmember⟩, hq, (k, addr), hk, m'', m,
      (getElem?_remaining.mp hm'').1, hmember, Priority.lt_of_le_of_lt (hle other m' hm') hlt⟩
  · rintro ⟨-, hq, ⟨k, addr⟩, hk, m'', m, hm'', hm, hlt⟩
    obtain ⟨m', hm', -⟩ := (mem_front_iff h).mp (mem_front_of_mem_select hk).1
    obtain rfl : m' = m'' := Option.some.inj ((getElem?_remaining.mp hm').1.symm.trans hm'')
    exact ⟨m, getElem?_remaining.mpr ⟨hm, hq, List.not_mem_nil⟩, k, m', hm', hlt⟩

/-- Whom the pool chooses, left free, nobody outranks. -/
theorem hasMorePreferred_of_mem_select {host : HostKey} {addr : HostAddr}
    (hs : (host, addr) ∈ p.select []) : p.hasMorePreferred host = false := by
  rw [← Bool.not_eq_true, hasMorePreferred_iff_exists h]
  rintro ⟨m, hm, other, m', hm', hlt⟩
  obtain ⟨m₀, hm₀, hle⟩ := (mem_front_iff h).mp (mem_front_of_mem_select hs).1
  obtain rfl : m₀ = m := Option.some.inj (hm₀.symm.trans hm)
  exact hle other m' hm' hlt

end Sound

/-- Every host that may be chosen is reserved, if the tie is broken so. -/
theorem exists_reserve_iff {p : Pool} {excluding : List HostKey} {c : HostKey × HostAddr} :
    (∃ pick, (p.reserve excluding pick).2 = some c) ↔ c ∈ p.select excluding := by
  constructor
  · rintro ⟨pick, hpick⟩
    rcases p.reserve_cases excluding pick with he | ⟨host, addr, hmem, he⟩ <;> rw [he] at hpick
    · cases hpick
    · cases hpick
      exact hmem
  · intro hc
    obtain ⟨i, hi, hget⟩ := List.mem_iff_getElem.mp hc
    have hi' : (p.select excluding)[i % (p.select excluding).length]? = some c := by
      rw [Nat.mod_eq_of_lt hi, List.getElem?_eq_getElem hi, hget]
    exact ⟨i, by simp only [reserve, hi']⟩

/-- What a pool answers about the choice of hosts, as the fallback chain under some rules has
it. -/
structure FollowsChain (rules : SnapshotRules) (p : Pool) : Prop where
  /-- The hosts that may be chosen are those that the chain offers. -/
  select_eq : ∀ excluding, p.select excluding = p.fallback rules excluding
  /-- Breaking ties leads to all of them, and to no other. -/
  exists_reserve_iff : ∀ (excluding : List HostKey) (c : HostKey × HostAddr),
    (∃ pick, (p.reserve excluding pick).2 = some c) ↔ c ∈ p.select excluding
  /-- The chain compares the counts that the pool tells. -/
  count_eq : ∀ host ∈ p.members, p.isQuarantined host = false →
    p.count? host = some (p.countOf host)
  /-- Nobody may be chosen exactly if every member is left out or in quarantine. -/
  select_eq_nil_iff : ∀ excluding, p.select excluding = [] ↔
    ∀ host ∈ p.members, host ∈ excluding ∨ p.isQuarantined host = true
  addr_eq : ∀ (excluding : List HostKey) (host : HostKey) (addr : HostAddr),
    (host, addr) ∈ p.select excluding → ∃ m, p.members[host]? = some m ∧ m.addr = addr
  isSelectable_iff : ∀ host, p.isSelectable host = true ↔
    ∃ excluding addr, (host, addr) ∈ p.select excluding
  hasMorePreferred_iff : ∀ host, p.hasMorePreferred host = true ↔
    host ∈ p.members ∧ p.isQuarantined host = false ∧
      ∃ c ∈ p.select [], p.Outranks rules c.1 host
  /-- Whom the pool chooses, left free, is as good as it gets. -/
  settled : ∀ (host : HostKey) (addr : HostAddr), (host, addr) ∈ p.select [] →
    p.hasMorePreferred host = false

end Pool

/-- **Every reachable pool chooses by the fallback chain**, if the preferences of its run were read
from texts. -/
theorem RuledPool.run_followsChain (events : List (SnapshotRules × PoolEvent))
    (readable : ∀ e ∈ events, e.1.Readable) :
    (run events).pool.FollowsChain (run events).rules := by
  have h : Sound ⟨(run events).pool, (run events).rules⟩ := sound_run events
  have hrules : (run events).rules.Readable := rules_run (by simp [SnapshotRules.Readable]) readable
  exact {
    select_eq := fun _ => Pool.select_eq_fallback h hrules
    exists_reserve_iff := fun _ _ => Pool.exists_reserve_iff
    count_eq := fun _ => Pool.getElem?_counts_of_free h
    select_eq_nil_iff := fun _ => Pool.select_eq_nil_iff h
    addr_eq := fun _ _ _ hs => (Pool.of_mem_select hs).2.2
    isSelectable_iff := fun _ => Pool.isSelectable_iff_exists h
    hasMorePreferred_iff := fun _ => Pool.hasMorePreferred_iff_outranked h
    settled := fun _ _ hs => Pool.hasMorePreferred_of_mem_select h hs }

/-- The only member of rank 1 has failed, and one of the two of rank 2 has a connection. -/
def nearestFailed (preference : Preference) : List (SnapshotRules × PoolEvent) :=
  let member (host zone : String) : Member :=
    { Member.ofHost host with placement := ⟨"aws", "us", zone⟩ }
  [({ preference := some preference },
      .snapshot ⟨[member "a" "a", member "b" "b", member "c" "b", .ofHost "d"], "a"⟩ 0),
    ({}, .markFailed "a" 1), ({}, .adjust "b" 1)]

theorem RuledPool.run_followsChain_nearestFailed :
    ∃ preference, Preference.parse "aws.us.a:1,aws.us.*:2" = .ok preference ∧
      (run (nearestFailed preference)).pool.select [] = [("c", ⟨"c", standardPort⟩)] ∧
      (run (nearestFailed preference)).pool.select ["b", "c"] = [("d", ⟨"d", standardPort⟩)] ∧
      (run (nearestFailed preference)).pool.hasMorePreferred "c" = false := by
  let p : Preference := .ofEntries "aws.us.a:1,aws.us.*:2"
    [⟨⟨"aws", "us", "a"⟩, 1⟩, ⟨⟨"aws", "us", "*"⟩, 2⟩]
  have accepted : Preference.parse "aws.us.a:1,aws.us.*:2" = .ok p := by decide +kernel
  have readable : ∀ e ∈ nearestFailed p, e.1.Readable := by
    simp only [nearestFailed, List.mem_cons, List.not_mem_nil, or_false, forall_eq_or_imp,
      forall_eq, SnapshotRules.Readable, Option.mem_def, reduceCtorEq, false_imp_iff,
      implies_true, and_true, Option.some.injEq]
    rintro _ rfl
    exact ⟨_, accepted⟩
  have hchain := run_followsChain (nearestFailed p) readable
  have hfree : (run (nearestFailed p)).pool.select [] = [("c", ⟨"c", standardPort⟩)] := by
    rw [hchain.select_eq]
    decide +kernel
  refine ⟨p, accepted, hfree, ?_, hchain.settled "c" ⟨"c", standardPort⟩ ?_⟩
  · rw [hchain.select_eq]
    decide +kernel
  · rw [hfree]
    exact List.mem_singleton_self _

end ConnectionRouter
