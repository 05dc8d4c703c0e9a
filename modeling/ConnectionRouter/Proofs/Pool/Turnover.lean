import ConnectionRouter.Proofs.Pool.Listing
import ConnectionRouter.Proofs.Pool.Quarantine
import ConnectionRouter.Proofs.Pool.Ruled

/-!
# Who comes and who goes

A snapshot moves counts between the tracked hosts and the stash and changes none of them, and its
summary is the exact difference: the hosts tracked afterwards are those tracked before without the
removed ones, and the added ones besides (`Pool.Turnover`). This holds after every history, since
no host of a valid pool has a count in both tables.

A second look at the same moment finds nothing to do (`Pool.HasRead.apply_eq`): whoever is listed
is tracked by then, unless its stay in quarantine goes on.
-/

namespace ConnectionRouter

/-- Whoever is let out is let out at once. -/
theorem Quarantine.release_release (q : Quarantine) (ttl : Duration) (now : Instant) :
    (q.release ttl now).1.release ttl now = ((q.release ttl now).1, []) := by
  refine Prod.ext (congrArg Quarantine.mk (Std.ExtTreeMap.ext_getElem? fun k => ?_)) ?_
  · change ((q.release ttl now).1.release ttl now).1.since[k]? = (q.release ttl now).1.since[k]?
    simp only [getElem?_since_release, Option.filter_filter, Bool.and_self]
  · refine List.eq_nil_iff_forall_not_mem.mpr fun k hk => ?_
    obtain ⟨at_, hs, hover⟩ := mem_release.mp hk
    rw [getElem?_since_release, Option.filter_eq_some_iff] at hs
    rw [hover] at hs
    exact absurd hs.2 (by decide)

namespace Pool

variable {p : Pool} {s : Snapshot} {rules : SnapshotRules} {now : Instant} {k : HostKey}

/-! ## The summary -/

theorem mem_removed_apply :
    k ∈ (p.apply s rules now).2.removed ↔ k ∈ p.counts ∧ k ∉ p.nextMembers s rules := by
  show k ∈ p.counts.keysWhere (fun host => !(p.nextMembers s rules).contains host) ↔ _
  rw [Table.mem_keysWhere, Bool.not_eq_true', ← Bool.not_eq_true, Std.ExtTreeMap.contains_iff_mem]

theorem mem_added_apply : k ∈ (p.apply s rules now).2.added ↔
    k ∈ p.nextMembers s rules ∧ (p.apply s rules now).1.isQuarantined k = false ∧
      k ∉ p.counts := by
  show k ∈ (p.nextMembers s rules).keysWhere (p.beforeAdmission s rules now).awaitsAdmission ↔ _
  rw [Table.mem_keysWhere]
  refine and_congr_right fun hm => ?_
  rw [awaitsAdmission_beforeAdmission p s rules now k hm]
  simp

theorem mem_released_apply : k ∈ (p.apply s rules now).2.released ↔
    ∃ since, p.quarantine.since[k]? = some since ∧ rules.failedHostTtl < now - since := by
  show k ∈ (p.quarantine.release rules.failedHostTtl now).2 ↔ _
  simp only [Quarantine.mem_release, Quarantine.expired, decide_eq_true_eq]

/-- Who is in quarantine afterwards was there before and has not been let out. -/
theorem isQuarantined_apply_iff : (p.apply s rules now).1.isQuarantined k = true ↔
    p.isQuarantined k = true ∧ k ∉ (p.apply s rules now).2.released := by
  show _ ↔ p.quarantine.contains k = true ∧ k ∉ (p.quarantine.release rules.failedHostTtl now).2
  rw [isQuarantined, quarantine_apply, Quarantine.contains_release, Quarantine.contains_eq,
    Quarantine.mem_release]
  cases p.quarantine.since[k]? <;> simp

/-! ## The same snapshot once more -/

/-- What a pool that has read a snapshot at some time knows of it. -/
structure HasRead (s : Snapshot) (rules : SnapshotRules) (now : Instant) (p : Pool) : Prop where
  nextMembers_eq : p.nextMembers s rules = p.members
  family_eq : p.family.or (decideFamily s) = p.family
  /-- No stay in quarantine is over. -/
  release_eq : p.quarantine.release rules.failedHostTtl now = (p.quarantine, [])
  getElem?_priorities : ∀ k : HostKey, p.priorities[k]? =
    if p.isQuarantined k then none else (p.members[k]?).map fun m => rankOf rules m.placement
  lastRefresh_eq : p.lastRefresh = some now
  hasSnapshot_eq : p.hasSnapshot = true

theorem hasRead_apply (p : Pool) (s : Snapshot) (rules : SnapshotRules) (now : Instant) :
    (p.apply s rules now).1.HasRead s rules now where
  nextMembers_eq := by
    rw [members_apply, nextMembers, family_apply, Option.or_assoc, Option.or_self]
    rfl
  family_eq := by rw [family_apply, Option.or_assoc, Option.or_self]
  release_eq := by
    rw [quarantine_apply]
    exact Quarantine.release_release ..
  getElem?_priorities k := getElem?_priorities_apply p s rules now k
  lastRefresh_eq := lastRefresh_apply p s rules now
  hasSnapshot_eq := hasSnapshot_apply p s rules now

namespace HasRead

variable {defaultPort : UInt16} (r : p.HasRead s rules now)
include r

theorem quarantine_apply : (p.apply s rules now).1.quarantine = p.quarantine := by
  rw [Pool.quarantine_apply, r.release_eq]

theorem isQuarantined_apply (k : HostKey) :
    (p.apply s rules now).1.isQuarantined k = p.isQuarantined k := by
  rw [isQuarantined, r.quarantine_apply, isQuarantined]

/-- Whoever is listed is tracked already, or its stay in quarantine goes on. -/
theorem tables_apply (h : p.Valid defaultPort) (k : HostKey) :
    (p.apply s rules now).1.counts[k]? = p.counts[k]? ∧
      (p.apply s rules now).1.stashed[k]? = p.stashed[k]? := by
  have hcounts := h.mem_counts_iff k
  rw [Std.ExtTreeMap.mem_iff_isSome_getElem?] at hcounts
  by_cases hm : k ∈ p.members
  · have hm' : k ∈ p.nextMembers s rules := by rwa [r.nextMembers_eq]
    rw [getElem?_counts_apply_of_mem p s rules now k hm',
      getElem?_stashed_apply_of_mem p s rules now k hm', r.isQuarantined_apply]
    cases hc : p.counts[k]? with
    | some n => simp
    | none =>
      have hq : p.isQuarantined k = true := by simpa [hc, hm] using hcounts
      simp [hq]
  · have hm' : k ∉ p.nextMembers s rules := by rwa [r.nextMembers_eq]
    have hc : p.counts[k]? = none := by simpa [hm] using hcounts
    rw [getElem?_counts_apply_of_not_mem p s rules now k hm',
      getElem?_stashed_apply_of_not_mem p s rules now k hm', hc]
    exact ⟨rfl, rfl⟩

theorem pool_apply (h : p.Valid defaultPort) : (p.apply s rules now).1 = p := by
  refine Pool.ext r.nextMembers_eq (Std.ExtTreeMap.ext_getElem? fun k => (r.tables_apply h k).1)
    (Std.ExtTreeMap.ext_getElem? fun k => (r.tables_apply h k).2) r.quarantine_apply
    (Std.ExtTreeMap.ext_getElem? fun k => ?_) r.lastRefresh_eq.symm ?_ r.hasSnapshot_eq.symm
  · rw [getElem?_priorities_apply, r.isQuarantined_apply, r.nextMembers_eq, r.getElem?_priorities]
  · rw [family_apply, r.family_eq]

/-- **A snapshot that was read at the same time changes nothing.** -/
theorem apply_eq (h : p.Valid defaultPort) :
    p.apply s rules now = (p, ⟨p.members.size, [], [], []⟩) := by
  have hpool := r.pool_apply h
  have hadded : (p.apply s rules now).2.added = [] := by
    refine List.eq_nil_iff_forall_not_mem.mpr fun k hk => ?_
    obtain ⟨hm, hq, hc⟩ := mem_added_apply.mp hk
    rw [hpool] at hq
    exact hc ((h.mem_counts_iff k).mpr ⟨r.nextMembers_eq ▸ hm, hq⟩)
  have hremoved : (p.apply s rules now).2.removed = [] := by
    refine List.eq_nil_iff_forall_not_mem.mpr fun k hk => ?_
    obtain ⟨hc, hm⟩ := mem_removed_apply.mp hk
    exact hm (r.nextMembers_eq ▸ ((h.mem_counts_iff k).mp hc).1)
  have hreleased : (p.apply s rules now).2.released = [] := congrArg Prod.snd r.release_eq
  have hmembers : (p.apply s rules now).2.members = p.members.size :=
    congrArg Std.ExtTreeMap.size r.nextMembers_eq
  exact Prod.ext hpool (SnapshotSummary.ext hmembers hadded hremoved hreleased)

end HasRead

/-! ## The whole change -/

/-- How a snapshot leads from one pool to the next, and what the summary says of it. -/
structure Turnover (s : Snapshot) (rules : SnapshotRules) (now : Instant) (p next : Pool)
    (summary : SnapshotSummary) : Prop where
  /-- No count is made or lost. -/
  countOf_eq : ∀ k, next.countOf k = p.countOf k
  /-- No host has a count in both tables. -/
  not_stashed : ∀ k ∈ next.counts, k ∉ next.stashed
  /-- Whoever stays tracked keeps its count. -/
  count?_eq : ∀ k ∈ p.counts, k ∈ next.counts → next.count? k = p.count? k
  /-- The removed hosts are those that were tracked and have no member. -/
  mem_removed : ∀ k, k ∈ summary.removed ↔ k ∈ p.counts ∧
    k ∉ keysOf (next.family.getD .privateAddress) rules.defaultPort s.members
  /-- The added hosts are the members outside quarantine that were not tracked. -/
  mem_added : ∀ k, k ∈ summary.added ↔
    k ∈ keysOf (next.family.getD .privateAddress) rules.defaultPort s.members ∧
      next.isQuarantined k = false ∧ k ∉ p.counts
  /-- The hosts tracked afterwards are those that were tracked and are not removed, and the added
  ones; none of them is both. -/
  tracked : next.counts.keys.Perm
    (p.counts.keys.filter (fun k => decide (k ∉ summary.removed)) ++ summary.added)
  /-- The hosts let out are those whose stay in quarantine is longer than it has to be. -/
  mem_released : ∀ k, k ∈ summary.released ↔
    ∃ since, p.quarantine.since[k]? = some since ∧ rules.failedHostTtl < now - since
  /-- The others stay in. -/
  isQuarantined_iff : ∀ k, next.isQuarantined k = true ↔
    p.isQuarantined k = true ∧ k ∉ summary.released
  /-- The summary names no host twice. -/
  nodup : summary.added.Nodup ∧ summary.removed.Nodup ∧ summary.released.Nodup

theorem mem_nextMembers : k ∈ p.nextMembers s rules ↔
    k ∈ keysOf ((p.apply s rules now).1.family.getD .privateAddress) rules.defaultPort
      s.members := by
  rw [family_apply]
  exact mem_listing

theorem Valid.mem_counts_apply {defaultPort : UInt16} (h : p.Valid defaultPort) :
    k ∈ (p.apply s rules now).1.counts ↔
      (k ∈ p.counts ∧ k ∉ (p.apply s rules now).2.removed) ∨ k ∈ (p.apply s rules now).2.added := by
  rw [(h.apply s rules now).mem_counts_iff, mem_removed_apply, mem_added_apply, members_apply]
  by_cases hc : k ∈ p.counts
  · have hq := isQuarantined_apply_of_false ((h.mem_counts_iff k).mp hc).2 s rules now
    simp [hc, hq]
  · simp [hc]

theorem Valid.turnover {defaultPort : UInt16} (h : p.Valid defaultPort) (s : Snapshot)
    (rules : SnapshotRules) (now : Instant) :
    Turnover s rules now p (p.apply s rules now).1 (p.apply s rules now).2 where
  countOf_eq := p.countOf_apply s rules now
  not_stashed k hc hs := (h.apply s rules now).not_mem_counts_of_stashed hs hc
  count?_eq k hc hc' := by
    obtain ⟨n, hn⟩ := Table.mem_iff_exists.mp hc
    have hm : k ∈ p.nextMembers s rules := (((h.apply s rules now).mem_counts_iff k).mp hc').1
    rw [count?, count?, getElem?_counts_apply_of_mem p s rules now k hm, hn, Option.some_or]
  mem_removed k := by rw [mem_removed_apply, mem_nextMembers]
  mem_added k := by rw [mem_added_apply, mem_nextMembers]
  tracked := by
    refine (List.perm_ext_iff_of_nodup Std.ExtTreeMap.nodup_keys ?_).mpr fun k => ?_
    · refine List.nodup_append.mpr ⟨Std.ExtTreeMap.nodup_keys.filter _,
        Std.ExtTreeMap.nodup_keys.filter _, ?_⟩
      rintro k hk _ hadded rfl
      exact (mem_added_apply.mp hadded).2.2 (Std.ExtTreeMap.mem_keys.mp (List.mem_filter.mp hk).1)
    · simp [h.mem_counts_apply]
  mem_released k := mem_released_apply
  isQuarantined_iff k := isQuarantined_apply_iff
  nodup := ⟨Std.ExtTreeMap.nodup_keys.filter _, Std.ExtTreeMap.nodup_keys.filter _,
    Std.ExtTreeMap.nodup_keys⟩

end Pool

/-- **Every snapshot after every history moves counts and changes none, and its summary is the exact
difference**; the same snapshot at the same time changes nothing more. -/
theorem RuledPool.run_turnover (events : List (SnapshotRules × PoolEvent)) (s : Snapshot)
    (rules : SnapshotRules) (now : Instant) :
    let p := (run events).pool
    let next := (p.apply s rules now).1
    Pool.Turnover s rules now p next (p.apply s rules now).2 ∧
      next.apply s rules now = (next, ⟨next.members.size, [], [], []⟩) := by
  intro p next
  have hvalid : p.Valid (run events).rules.defaultPort := (sound_run events).valid
  exact ⟨hvalid.turnover s rules now,
    (p.hasRead_apply s rules now).apply_eq (hvalid.apply s rules now)⟩

end ConnectionRouter
