import ConnectionRouter.Pool.Selection
import ConnectionRouter.Pool.Snapshot
import ConnectionRouter.Pool.View

/-!
# Valid pools

A pool keeps what it knows of a host in five tables. `Pool.Valid` says how they fit together:

* exactly the members outside quarantine have a count, and exactly they have a priority;
* a count is in the stash only for a host that is neither a member nor in quarantine;
* every member stands under its own key;
* a time of the last refresh is known only after a snapshot.

An event of a pool is a snapshot, a reservation, an adjustment, a failure or a forced refresh
(`PoolEvent`). Each preserves validity (`Valid.after`), so every run from the empty pool leads to a
valid pool, whose view tells a count and a priority of exactly the members outside quarantine
(`run_valid_consistent`).
-/

namespace ConnectionRouter

/-- A member by its private address alone. -/
def Member.ofHost (host : String) : Member where
  host := some host
  publicIp := none
  port := none
  placement := ⟨"", "", ""⟩

/-- What happens to a pool. -/
inductive PoolEvent
  | snapshot (s : Snapshot) (now : Instant)
  /-- `pick` breaks a tie. -/
  | reserve (excluding : List HostKey) (pick : Nat)
  | adjust (host : HostKey) (delta : Int)
  | markFailed (host : HostKey) (now : Instant)
  | forceRefresh
  deriving DecidableEq

namespace Pool

/-- The pool after an event. -/
def after (rules : SnapshotRules) (p : Pool) : PoolEvent → Pool
  | .snapshot s now => (p.apply s rules now).1
  | .reserve excluding pick => (p.reserve excluding pick).1
  | .adjust host delta => (p.adjust host delta).1
  | .markFailed host now => (p.markFailed host now).1
  | .forceRefresh => p.forceRefresh

/-- The empty pool after a list of events. -/
def run (rules : SnapshotRules) (events : List PoolEvent) : Pool := events.foldl (after rules) {}

/-- How the tables of a pool fit together. -/
structure Valid (defaultPort : UInt16) (p : Pool) : Prop where
  mem_counts_iff : ∀ k, k ∈ p.counts ↔ k ∈ p.members ∧ p.isQuarantined k = false
  mem_priorities_iff : ∀ k, k ∈ p.priorities ↔ k ∈ p.members ∧ p.isQuarantined k = false
  not_member_of_stashed : ∀ k ∈ p.stashed, k ∉ p.members
  not_quarantined_of_stashed : ∀ k ∈ p.stashed, p.isQuarantined k = false
  keyed : KeyedBy defaultPort p.members
  hasSnapshot_of_lastRefresh : p.lastRefresh.isSome → p.hasSnapshot = true

/-! ## Which hosts an event touches -/

theorem mem_counts_adjust {p : Pool} {host k : HostKey} {delta : Int} :
    k ∈ (p.adjust host delta).1.counts ↔ k ∈ p.counts := by
  rw [Std.ExtTreeMap.mem_iff_isSome_getElem?, Std.ExtTreeMap.mem_iff_isSome_getElem?,
    getElem?_counts_adjust]
  split <;> simp

theorem mem_stashed_adjust {p : Pool} {host k : HostKey} {delta : Int} :
    k ∈ (p.adjust host delta).1.stashed ↔ k ∈ p.stashed := by
  rw [Std.ExtTreeMap.mem_iff_isSome_getElem?, Std.ExtTreeMap.mem_iff_isSome_getElem?,
    getElem?_stashed_adjust]
  split <;> simp

/-- Nobody is put in quarantine by a snapshot. -/
theorem isQuarantined_apply_of_false {p : Pool} {k : HostKey} (h : p.isQuarantined k = false)
    (s : Snapshot) (rules : SnapshotRules) (now : Instant) :
    (p.apply s rules now).1.isQuarantined k = false := by
  rw [isQuarantined, quarantine_apply]
  exact Quarantine.contains_release_of_false h _ _

theorem mem_priorities_apply {p : Pool} {s : Snapshot} {rules : SnapshotRules} {now : Instant}
    {k : HostKey} : k ∈ (p.apply s rules now).1.priorities ↔
      k ∈ p.nextMembers s rules ∧ (p.apply s rules now).1.isQuarantined k = false := by
  rw [Std.ExtTreeMap.mem_iff_isSome_getElem?, Std.ExtTreeMap.mem_iff_isSome_getElem?,
    getElem?_priorities_apply]
  cases (p.apply s rules now).1.isQuarantined k <;> simp

namespace Valid

variable {defaultPort : UInt16} {p : Pool}

theorem empty : Valid defaultPort {} where
  mem_counts_iff := by simp
  mem_priorities_iff := by simp
  not_member_of_stashed := by simp
  not_quarantined_of_stashed := by simp
  keyed := fun k m h => by simp at h
  hasSnapshot_of_lastRefresh := by simp

/-! ## What validity says of one host -/

theorem not_mem_counts_of_stashed (h : p.Valid defaultPort) {k : HostKey} (hk : k ∈ p.stashed) :
    k ∉ p.counts :=
  fun hc => h.not_member_of_stashed k hk ((h.mem_counts_iff k).mp hc).1

theorem getElem?_stashed_of_mem_counts (h : p.Valid defaultPort) {k : HostKey}
    (hk : k ∈ p.counts) : p.stashed[k]? = none :=
  Std.ExtTreeMap.getElem?_eq_none fun hs => h.not_mem_counts_of_stashed hs hk

/-! ## Every event preserves validity -/

theorem adjust (h : p.Valid defaultPort) (host : HostKey) (delta : Int) :
    (p.adjust host delta).1.Valid defaultPort where
  mem_counts_iff k := by
    rw [mem_counts_adjust, members_adjust, isQuarantined_adjust]
    exact h.mem_counts_iff k
  mem_priorities_iff k := by
    rw [priorities_adjust, members_adjust, isQuarantined_adjust]
    exact h.mem_priorities_iff k
  not_member_of_stashed k hk := by
    rw [members_adjust]
    exact h.not_member_of_stashed k (mem_stashed_adjust.mp hk)
  not_quarantined_of_stashed k hk := by
    rw [isQuarantined_adjust]
    exact h.not_quarantined_of_stashed k (mem_stashed_adjust.mp hk)
  keyed := by
    rw [members_adjust]
    exact h.keyed
  hasSnapshot_of_lastRefresh := by
    rw [lastRefresh_adjust, hasSnapshot_adjust]
    exact h.hasSnapshot_of_lastRefresh

theorem reserve (h : p.Valid defaultPort) (excluding : List HostKey) (pick : Nat) :
    (p.reserve excluding pick).1.Valid defaultPort := by
  rcases p.reserve_cases excluding pick with he | ⟨host, addr, -, he⟩
  · rwa [he]
  · rw [he]
    exact h.adjust host 1

theorem markFailed (h : p.Valid defaultPort) (host : HostKey) (now : Instant) :
    (p.markFailed host now).1.Valid defaultPort where
  mem_counts_iff k := by
    rw [Std.ExtTreeMap.mem_iff_isSome_getElem?, getElem?_counts_markFailed,
      isQuarantined_markFailed]
    have hk := h.mem_counts_iff k
    rw [Std.ExtTreeMap.mem_iff_isSome_getElem?] at hk
    by_cases he : host = k
    · simp [he]
    · simpa [he] using hk
  mem_priorities_iff k := by
    rw [Std.ExtTreeMap.mem_iff_isSome_getElem?, getElem?_priorities_markFailed,
      isQuarantined_markFailed]
    have hk := h.mem_priorities_iff k
    rw [Std.ExtTreeMap.mem_iff_isSome_getElem?] at hk
    by_cases he : host = k
    · simp [he]
    · simpa [he] using hk
  not_member_of_stashed k hk :=
    h.not_member_of_stashed k (Std.ExtTreeMap.mem_of_mem_erase hk)
  not_quarantined_of_stashed k hk := by
    have he : host ≠ k := by
      rintro rfl
      simp [Pool.markFailed] at hk
    rw [isQuarantined_markFailed,
      h.not_quarantined_of_stashed k (Std.ExtTreeMap.mem_of_mem_erase hk)]
    simpa using he
  keyed := h.keyed
  hasSnapshot_of_lastRefresh := h.hasSnapshot_of_lastRefresh

theorem apply (h : p.Valid defaultPort) (s : Snapshot) (rules : SnapshotRules) (now : Instant) :
    (p.apply s rules now).1.Valid rules.defaultPort where
  mem_counts_iff k := by
    rw [Std.ExtTreeMap.mem_iff_isSome_getElem?, members_apply]
    by_cases hk : k ∈ p.nextMembers s rules
    · rw [getElem?_counts_apply_of_mem p s rules now k hk]
      cases hc : p.counts[k]? with
      | none => cases (p.apply s rules now).1.isQuarantined k <;> simp [hk]
      | some n =>
        -- a tracked host was outside quarantine, and nobody is put in
        have hmem : k ∈ p.counts := by simp [Std.ExtTreeMap.mem_iff_isSome_getElem?, hc]
        have hq := ((h.mem_counts_iff k).mp hmem).2
        simp [hk, isQuarantined_apply_of_false hq s rules now]
    · simp [getElem?_counts_apply_of_not_mem p s rules now k hk, hk]
  mem_priorities_iff k := mem_priorities_apply
  not_member_of_stashed k hk hm := by
    rw [members_apply] at hm
    rw [Std.ExtTreeMap.mem_iff_isSome_getElem?, getElem?_stashed_apply_of_mem p s rules now k hm]
      at hk
    split at hk
    · simp at hk
    · -- a stashed host was neither tracked nor in quarantine, so the snapshot takes it in
      rename_i hn
      rw [← Std.ExtTreeMap.mem_iff_isSome_getElem?] at hk
      have hq := isQuarantined_apply_of_false (h.not_quarantined_of_stashed k hk) s rules now
      have hc := Std.ExtTreeMap.getElem?_eq_none (h.not_mem_counts_of_stashed hk)
      simp [hq, hc] at hn
  not_quarantined_of_stashed k hk := by
    refine isQuarantined_apply_of_false ?_ s rules now
    rw [Std.ExtTreeMap.mem_iff_isSome_getElem?] at hk
    by_cases hm : k ∈ p.nextMembers s rules
    · rw [getElem?_stashed_apply_of_mem p s rules now k hm] at hk
      split at hk
      · simp at hk
      · exact h.not_quarantined_of_stashed k (Std.ExtTreeMap.mem_iff_isSome_getElem?.mpr hk)
    · rw [getElem?_stashed_apply_of_not_mem p s rules now k hm, Option.isSome_or, Bool.or_eq_true]
        at hk
      rcases hk with hk | hk
      · exact ((h.mem_counts_iff k).mp (Std.ExtTreeMap.mem_iff_isSome_getElem?.mpr hk)).2
      · exact h.not_quarantined_of_stashed k (Std.ExtTreeMap.mem_iff_isSome_getElem?.mpr hk)
  keyed := by
    rw [members_apply]
    exact keyedBy_listing _ _ _
  hasSnapshot_of_lastRefresh := fun _ => rfl

theorem forceRefresh (h : p.Valid defaultPort) : p.forceRefresh.Valid defaultPort where
  mem_counts_iff := h.mem_counts_iff
  mem_priorities_iff := h.mem_priorities_iff
  not_member_of_stashed := h.not_member_of_stashed
  not_quarantined_of_stashed := h.not_quarantined_of_stashed
  keyed := h.keyed
  hasSnapshot_of_lastRefresh := by simp [Pool.forceRefresh]

theorem after {rules : SnapshotRules} (h : p.Valid rules.defaultPort) (e : PoolEvent) :
    (p.after rules e).Valid rules.defaultPort := by
  cases e with
  | snapshot s now => exact h.apply s rules now
  | reserve excluding pick => exact h.reserve excluding pick
  | adjust host delta => exact h.adjust host delta
  | markFailed host now => exact h.markFailed host now
  | forceRefresh => exact h.forceRefresh

theorem foldl_after {rules : SnapshotRules} (events : List PoolEvent) :
    ∀ {p : Pool}, p.Valid rules.defaultPort →
      (events.foldl (Pool.after rules) p).Valid rules.defaultPort := by
  induction events with
  | nil => exact fun h => h
  | cons e events ih => exact fun h => ih (h.after e)

/-- A view of a valid pool tells a count and a priority of exactly the hosts outside
quarantine. -/
theorem view_consistent (h : p.Valid defaultPort) {v : HostView} (hv : v ∈ p.view.hosts) :
    (v.connections.isSome ↔ v.quarantined = false) ∧
      (v.priority.isSome ↔ v.quarantined = false) := by
  obtain ⟨⟨host, m⟩, hm, rfl⟩ := List.mem_map.mp hv
  have hmem : host ∈ p.members := by
    rw [Std.ExtTreeMap.mem_toList_iff_getElem?_eq_some] at hm
    simp [Std.ExtTreeMap.mem_iff_isSome_getElem?, hm]
  have hc := h.mem_counts_iff host
  have hp := h.mem_priorities_iff host
  rw [Std.ExtTreeMap.mem_iff_isSome_getElem?] at hc hp
  simp only [hmem, true_and] at hc hp
  exact ⟨hc, hp⟩

end Valid

/-- **Every run leads to a valid pool**, and its view tells a count of a host iff it tells a
priority, and that iff the host is not in quarantine. -/
theorem run_valid_consistent (rules : SnapshotRules) (events : List PoolEvent) :
    (run rules events).Valid rules.defaultPort ∧
      ∀ v ∈ (run rules events).view.hosts,
        (v.connections.isSome ↔ v.priority.isSome) ∧
          (v.priority.isSome ↔ v.quarantined = false) := by
  have hvalid : (run rules events).Valid rules.defaultPort := Valid.foldl_after events Valid.empty
  refine ⟨hvalid, fun v hv => ?_⟩
  obtain ⟨hc, hp⟩ := hvalid.view_consistent hv
  exact ⟨hc.trans hp.symm, hp⟩

/-- One of two hosts fails with a connection, and stays in quarantine. -/
def failedHost : List PoolEvent :=
  [.snapshot ⟨[.ofHost "a", .ofHost "b"], "a"⟩ 0, .reserve [] 0, .markFailed "a" 1,
    .snapshot ⟨[.ofHost "a", .ofHost "b"], "b"⟩ 2]

theorem run_valid_consistent_failedHost :
    ∃ v ∈ (run {} failedHost).view.hosts,
      v.host = "a" ∧ ¬v.priority.isSome ∧ ¬v.connections.isSome := by
  have hhost : ∃ v ∈ (run {} failedHost).view.hosts, v.host = "a" ∧ v.quarantined = true := by
    decide +kernel
  obtain ⟨v, hv, hname, hq⟩ := hhost
  obtain ⟨hcount, hpriority⟩ := (run_valid_consistent {} failedHost).2 v hv
  have hnone : ¬v.priority.isSome := by
    rw [hpriority, hq]
    exact Bool.noConfusion
  exact ⟨v, hv, hname, hnone, fun h => hnone (hcount.mp h)⟩

end Pool

end ConnectionRouter
