import ConnectionRouter.Clock
import ConnectionRouter.Table

/-!
# Quarantine

The hosts that failed a connect, each with the time of its first failure. A repeated failure
does not extend the stay; hosts are let out when they are asked for, not by a timer.

* `Quarantine.insert`: puts a host in, unless it is there already.
* `Quarantine.release`: lets out the hosts whose stay is longer than the limit.

What both do to the times of the hosts is said by `getElem?_since_insert` and
`getElem?_since_release`; the hosts that are let out are those whose stay is over
(`mem_release`).
-/

namespace ConnectionRouter

/-- The hosts that failed a connect, with the time since when they are in. -/
structure Quarantine where
  since : Table Instant := ∅
  deriving DecidableEq

namespace Quarantine

def contains (q : Quarantine) (host : String) : Bool := q.since.contains host

/-- The hosts that are in, in order. -/
def hosts (q : Quarantine) : List String := q.since.keys

/-- Puts a host in as of `now`, and tells whether it was outside before. -/
def insert (q : Quarantine) (host : String) (now : Instant) : Quarantine × Bool :=
  if q.contains host then (q, false) else (⟨q.since.insert host now⟩, true)

/-- Whether a stay that began at `at_` is longer than `ttl`. -/
def expired (ttl : Duration) (now at_ : Instant) : Bool := ttl < now - at_

/-- Lets out the hosts whose stay is longer than `ttl`, and names them in order. -/
def release (q : Quarantine) (ttl : Duration) (now : Instant) : Quarantine × List String :=
  (⟨q.since.filter fun _ at_ => !expired ttl now at_⟩,
    (q.since.filter fun _ at_ => expired ttl now at_).keys)

theorem getElem?_since_insert (q : Quarantine) (host k : String) (now : Instant) :
    (q.insert host now).1.since[k]? =
      if host = k then some (q.since[host]?.getD now) else q.since[k]? := by
  by_cases h : host ∈ q.since
  · have hc : q.contains host = true := by simpa [contains] using h
    by_cases hk : host = k
    · subst hk
      simp [insert, hc, h]
    · simp [insert, hc, hk]
  · have hc : q.contains host = false := by simpa [contains, ← Bool.not_eq_true] using h
    simp [insert, hc, h, Std.ExtTreeMap.getElem?_insert]

theorem insert_isNew (q : Quarantine) (host : String) (now : Instant) :
    (q.insert host now).2 = !q.contains host := by
  unfold insert
  split <;> simp_all

theorem contains_eq (q : Quarantine) (k : String) : q.contains k = (q.since[k]?).isSome :=
  Std.ExtTreeMap.contains_eq_isSome_getElem?

@[simp] theorem contains_insert (q : Quarantine) (host k : String) (now : Instant) :
    (q.insert host now).1.contains k = (host == k || q.contains k) := by
  rw [contains_eq, getElem?_since_insert, contains_eq]
  by_cases h : host = k <;> simp [h]

theorem getElem?_since_release (q : Quarantine) (ttl : Duration) (now : Instant) (k : String) :
    (q.release ttl now).1.since[k]? = q.since[k]?.filter fun at_ => !expired ttl now at_ := by
  simp [release, Std.ExtTreeMap.getElem?_filter]

/-- Nobody is put in by a release. -/
theorem contains_release_of_false {q : Quarantine} {k : String} (h : q.contains k = false)
    (ttl : Duration) (now : Instant) : (q.release ttl now).1.contains k = false := by
  rw [contains_eq] at h
  rw [contains_eq, getElem?_since_release]
  cases hk : q.since[k]? <;> simp_all

theorem mem_release {q : Quarantine} {ttl : Duration} {now : Instant} {k : String} :
    k ∈ (q.release ttl now).2 ↔ ∃ at_, q.since[k]? = some at_ ∧ expired ttl now at_ = true := by
  rw [release, Std.ExtTreeMap.mem_keys, ← Std.ExtTreeMap.isSome_getElem?_iff_mem,
    Std.ExtTreeMap.getElem?_filter]
  cases q.since[k]? <;> simp [Option.filter]

end Quarantine

end ConnectionRouter
