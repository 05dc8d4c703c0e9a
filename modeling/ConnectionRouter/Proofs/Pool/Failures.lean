import ConnectionRouter.Proofs.Balancer.UpToDate
import ConnectionRouter.Proofs.Pool.Choice

/-!
# What failures leave of a pool

A host that is reserved and fails is given back, put in quarantine, and leaves everybody else as
they were. `Pool.Lost` says what is left of a pool once several hosts have failed in this way at
one instant; who is eligible then was eligible before and has not failed
(`Pool.Lost.mem_eligible`).

When a snapshot with the same members comes, the hosts that are tracked keep their counts
(`Pool.getElem?_counts_apply_of_tracked`).
-/

namespace ConnectionRouter

namespace Pool

/-! ## Failures at one instant -/

/-- The pool after a host was given back and has failed. -/
def fail (p : Pool) (host : HostKey) (now : Instant) : Pool :=
  ((p.adjust host (-1)).1.markFailed host now).1.forceRefresh

/-- What is left of the pool `p₀` after some hosts have failed at `now`. -/
structure Lost (p₀ : Pool) (now : Instant) (failed : List HostKey) (p : Pool) : Prop where
  members_eq : p.members = p₀.members
  family_eq : p.family = p₀.family
  counts_eq : ∀ k : HostKey, p.counts[k]? = if k ∈ failed then none else p₀.counts[k]?
  priorities_eq : ∀ k : HostKey,
    p.priorities[k]? = if k ∈ failed then none else p₀.priorities[k]?
  since_eq : ∀ k : HostKey, p.quarantine.since[k]? =
    if k ∈ failed then some ((p₀.quarantine.since[k]?).getD now) else p₀.quarantine.since[k]?

namespace Lost

variable {p₀ p : Pool} {now : Instant} {failed : List HostKey}

theorem refl (p : Pool) (now : Instant) : p.Lost now [] p :=
  ⟨rfl, rfl, by simp, by simp, by simp⟩

/-- A host that was reserved fails. -/
theorem fail (h : p₀.Lost now failed p) (host : HostKey) :
    p₀.Lost now (host :: failed) ((p.adjust host 1).1.fail host now) where
  members_eq := by
    rw [← h.members_eq]
    simp [Pool.fail, forceRefresh]
  family_eq := by
    rw [← h.family_eq]
    simp [Pool.fail, forceRefresh, markFailed]
  counts_eq k := by
    show ((((p.adjust host 1).1.adjust host (-1)).1.markFailed host now).1.counts)[k]? = _
    rw [getElem?_counts_markFailed]
    by_cases hk : host = k
    · simp [hk]
    · simp [hk, Ne.symm hk, getElem?_counts_adjust, h.counts_eq]
  priorities_eq k := by
    show ((((p.adjust host 1).1.adjust host (-1)).1.markFailed host now).1.priorities)[k]? = _
    rw [getElem?_priorities_markFailed]
    by_cases hk : host = k
    · simp [hk]
    · simp [hk, Ne.symm hk, h.priorities_eq]
  since_eq k := by
    have hsince : ((p.adjust host 1).1.fail host now).quarantine.since[k]? =
        if host = k then some ((p.quarantine.since[host]?).getD now)
        else p.quarantine.since[k]? := by
      have hadjust : ((p.adjust host 1).1.adjust host (-1)).1.quarantine = p.quarantine := by simp
      rw [← hadjust]
      exact Quarantine.getElem?_since_insert ..
    rw [hsince]
    by_cases hk : host = k
    · subst hk
      rw [if_pos rfl, if_pos List.mem_cons_self, h.since_eq]
      split <;> rfl
    · simp [hk, Ne.symm hk, h.since_eq]

theorem isQuarantined_iff (h : p₀.Lost now failed p) (k : HostKey) :
    p.isQuarantined k = true ↔ k ∈ failed ∨ p₀.isQuarantined k = true := by
  rw [isQuarantined, isQuarantined, Quarantine.contains_eq, Quarantine.contains_eq, h.since_eq]
  by_cases hk : k ∈ failed <;> simp [hk]

/-- Who is eligible still is who was eligible and has not failed. -/
theorem mem_eligible (h : p₀.Lost now failed p) {c : Candidate} :
    c ∈ p.eligible failed ↔ c ∈ p₀.eligible [] ∧ c.host ∉ failed := by
  have hq := h.isQuarantined_iff c.host
  rw [Pool.mem_eligible, Pool.mem_eligible, h.counts_eq, h.priorities_eq]
  by_cases hk : c.host ∈ failed
  · simp [hk]
  · simp only [hk, false_or] at hq
    have hq' : p.isQuarantined c.host = false ↔ p₀.isQuarantined c.host = false := by
      rw [← Bool.not_eq_true, ← Bool.not_eq_true, hq]
    simp [hk, hq']

end Lost

/-! ## Snapshots of the same members -/

section Apply

variable {p : Pool} {s : Snapshot} {rules : SnapshotRules} {now : Instant} {k : HostKey}

theorem getElem?_counts_apply_of_tracked (hm : k ∈ p.nextMembers s rules) {n : Nat}
    (h : p.counts[k]? = some n) : (p.apply s rules now).1.counts[k]? = some n := by
  rw [getElem?_counts_apply_of_mem p s rules now k hm, h, Option.some_or]

/-- A listed host outside quarantine is a candidate after a snapshot. -/
theorem isSelectable_apply (hm : k ∈ p.nextMembers s rules) (hq : p.isQuarantined k = false) :
    (p.apply s rules now).1.isSelectable k = true := by
  have hq' := isQuarantined_apply_of_false hq s rules now
  have hcount := getElem?_counts_apply_of_mem p s rules now k hm
  have hpriority := getElem?_priorities_apply p s rules now k
  obtain ⟨m, hm⟩ := Table.mem_iff_exists.mp hm
  simp only [isSelectable, Std.ExtTreeMap.contains_eq_isSome_getElem?, hcount, hpriority, hq', hm]
  simp

end Apply

end Pool

end ConnectionRouter
