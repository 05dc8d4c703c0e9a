import ConnectionRouter.Proofs.Balancer.Leases

/-!
# What tracked counts tell of leases

The main statements about whole runs of a balancer by itself.

* `LoneBalancer.run_countOf_leases`: a host never has more connections counted against it than
  leases on it are out, and exactly as many if it fails only while it is idle. When no lease is out
  every count is zero.
* `LeaseHistory.lapsed_release`: giving back a lease that has lapsed changes the counts exactly if
  the host has new connections, and then a new lease loses its unit.
-/

namespace ConnectionRouter

namespace LoneBalancer

variable (preference : Option Preference) (settings : BalancerSettings)

theorem countOf_le_leasesOn (events : List LeaseEvent) (host : HostKey) :
    (run preference settings events).countOf host ≤
      (run preference settings events).leasesOn host := by
  rw [← LeaseHistory.lone_run]
  exact Nat.le_trans (LeaseHistory.books_le preference settings events host)
    (LeaseHistory.current_le_leases _ host)

/-- **Tracked counts and leases.** In every run the tracked count of a host is at most the number of
leases on it that are out. With fewer than `2 ^ 64` reservations it is that number for every host
that fails only while no lease on it is out. Once no lease is out at all, every tracked count and
every stashed count is zero. -/
theorem run_countOf_leases (events : List LeaseEvent) :
    (∀ host, (run preference settings events).countOf host ≤
        (run preference settings events).leasesOn host) ∧
      (events.countP LeaseEvent.isReserve < 2 ^ 64 → ∀ host,
        LeaseHistory.FailsIdle preference settings host events →
          (run preference settings events).countOf host =
            (run preference settings events).leasesOn host) ∧
      ((run preference settings events).leases = ∅ → ∀ (host : HostKey) (n : Nat),
        ((run preference settings events).balancer.pool.counts[host]? = some n → n = 0) ∧
          ((run preference settings events).balancer.pool.stashed[host]? = some n → n = 0)) := by
  refine ⟨countOf_le_leasesOn preference settings events, fun hn host hidle => ?_,
    fun hnone host n => ?_⟩
  · rw [← LeaseHistory.lone_run]
    exact (hidle.books_eq hn).1
  · have hle := countOf_le_leasesOn preference settings events host
    rw [leasesOn, hnone, Table.sumBy_empty] at hle
    exact Pool.Valid.eq_zero_of_countOf (valid_run preference settings events)
      (Nat.le_zero.mp hle) n

/-- A host leaves and comes back with a lease, and fails after the lease is given back. -/
def idleFailure : List LeaseEvent :=
  [.snapshot ⟨[.ofHost "a"], "a"⟩, .reserve "x" [] 0, .snapshot ⟨[.ofHost "b"], "b"⟩,
    .snapshot ⟨[.ofHost "a"], "a"⟩, .release "x", .markFailed "a"]

theorem run_countOf_leases_idleFailure :
    (∀ host, (run none {} idleFailure).countOf host = (run none {} idleFailure).leasesOn host) ∧
      ∀ (host : HostKey) (n : Nat),
        (run none {} idleFailure).balancer.pool.counts[host]? = some n → n = 0 := by
  obtain ⟨-, heq, hzero⟩ := run_countOf_leases none {} idleFailure
  refine ⟨fun host => heq (by decide) host ?_, fun host n => (hzero (by decide +kernel) host n).1⟩
  intro before rest h
  obtain ⟨rfl, rfl, -⟩ : before = idleFailure.take 5 ∧ host = "a" ∧ rest = [] := by
    simpa [idleFailure, List.cons_eq_append_iff] using h
  decide +kernel

end LoneBalancer

namespace LeaseHistory

variable (preference : Option Preference) (settings : BalancerSettings)

/-- Giving back a lapsed lease takes a connection from the count of its host, though it leaves the
current leases as they are. -/
theorem release_of_lapsed {events : List LeaseEvent} {name : String} {host : HostKey}
    (hlease : (run preference settings events).lone.leases[name]? = some host)
    (hlapsed : (run preference settings events).lapsed name = true) :
    (∀ k, (run preference settings (events ++ [.release name])).lone.countOf k =
        if host = k then (run preference settings events).lone.countOf k - 1
        else (run preference settings events).lone.countOf k) ∧
      (run preference settings (events ++ [.release name])).currentOn host =
        (run preference settings events).currentOn host := by
  rw [run_append]
  constructor
  · exact LoneBalancer.countOf_release (valid_run preference settings events) hlease
  · simpa [hlapsed] using currentOn_release hlease host

/-- The current leases of a host are all counted at every moment if and only if the host is
undisturbed. -/
theorem current_le_count_iff {events : List LeaseEvent} {host : HostKey}
    (hn : events.countP LeaseEvent.isReserve < 2 ^ 64) :
    (∀ before, before <+: events → (run preference settings before).currentOn host ≤
      (run preference settings before).lone.countOf host) ↔
        Undisturbed preference settings host events := by
  constructor
  · rintro h before name rest rfl hlease hlapsed
    have hle : (run preference settings before).lone.countOf host ≤
      (run preference settings before).currentOn host := books_le preference settings before host
    obtain ⟨hcount, hcur⟩ := release_of_lapsed preference settings hlease hlapsed
    have hafter := h (before ++ [.release name]) ⟨rest, by simp⟩
    rw [hcur, hcount, if_pos rfl] at hafter
    omega
  · intro h before hp
    have hb := (h.of_prefix hp).count_eq (Nat.lt_of_le_of_lt hp.sublist.countP_le hn)
    exact Nat.le_of_eq hb.symm

/-- **Late releases.** A lease that has lapsed is given back. The counts stay as they are exactly
if no connection is counted against the host; else the host loses one that it should keep. So all
leases taken since the last failure of a host are counted at every moment exactly if no lapsed lease
on it is given back at a positive count. -/
theorem lapsed_release (events : List LeaseEvent) (host : HostKey) :
    (∀ name, (run preference settings events).lone.leases[name]? = some host →
      (run preference settings events).lapsed name = true →
        (∀ k, (run preference settings (events ++ [.release name])).lone.countOf k =
          if host = k then (run preference settings events).lone.countOf k - 1
          else (run preference settings events).lone.countOf k) ∧
        ((∀ k, (run preference settings (events ++ [.release name])).lone.countOf k =
          (run preference settings events).lone.countOf k) ↔
            (run preference settings events).lone.countOf host = 0)) ∧
      (events.countP LeaseEvent.isReserve < 2 ^ 64 →
        ((∀ before, before <+: events → (run preference settings before).currentOn host ≤
          (run preference settings before).lone.countOf host) ↔
            Undisturbed preference settings host events)) := by
  refine ⟨fun name hlease hlapsed => ?_, current_le_count_iff preference settings⟩
  have hcount := (release_of_lapsed preference settings hlease hlapsed).1
  refine ⟨hcount, fun h => ?_, fun h k => ?_⟩
  · have hhost := h host
    rw [hcount, if_pos rfl] at hhost
    omega
  · rw [hcount]
    split
    · rename_i hk
      rw [← hk, h]
    · rfl

/-- Two leases on a host with a failure between them; the first has lapsed. -/
def lateRelease : List LeaseEvent :=
  [.snapshot ⟨[.ofHost "a"], "a"⟩, .reserve "x" [] 0, .markFailed "a", .advance (.ofSeconds 6),
    .snapshot ⟨[.ofHost "a"], "a"⟩, .reserve "y" [] 0]

theorem lapsed_release_lateRelease :
    ¬(∀ k, (run none {} (lateRelease ++ [.release "x"])).lone.countOf k =
        (run none {} lateRelease).lone.countOf k) ∧
      ¬Undisturbed none {} "a" (lateRelease ++ [.release "x"]) := by
  constructor
  · intro h
    have hzero := (((lapsed_release none {} lateRelease "a").1 "x" (by decide +kernel)
      (by decide +kernel)).2).mp h
    revert hzero
    decide +kernel
  · intro h
    have hall := ((lapsed_release none {} (lateRelease ++ [.release "x"]) "a").2
      (by decide +kernel)).mpr h
    have hlast := hall _ List.prefix_rfl
    revert hlast
    decide +kernel

end LeaseHistory

end ConnectionRouter
