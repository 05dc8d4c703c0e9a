import ConnectionRouter.Pool.Basic
import Mathlib.Algebra.Order.BigOperators.Group.Finset

/-!
# Connections spread evenly

Connections that are always counted against a least loaded host of some hosts are spread evenly over
them (`Spread`): the counts differ by at most one, and they add up to all connections, up to what
the hosts can count. A host whose count cannot grow any more loses one when it is given back; that
is all that a connection taken and given back can change (`NearlySpread`).
-/

namespace ConnectionRouter

variable {hosts : Finset HostKey} {n : Nat} {count : HostKey → Nat} {host : HostKey}

/-- The counts after that of one host has changed. -/
def recount (count : HostKey → Nat) (host : HostKey) (delta : Int) : HostKey → Nat :=
  Function.update count host (changeCount (count host) delta)

/-- The most connections that some hosts can count. -/
def capacity (hosts : Finset HostKey) : Nat := hosts.card * Text.maxUnsigned

/-- So many connections are spread evenly over some hosts. -/
structure Spread (hosts : Finset HostKey) (n : Nat) (count : HostKey → Nat) : Prop where
  close : ∀ j ∈ hosts, ∀ k ∈ hosts, count j ≤ count k + 1
  le_max : ∀ k ∈ hosts, count k ≤ Text.maxUnsigned
  sum_eq : ∑ k ∈ hosts, count k = min n (capacity hosts)

/-- Connections are spread evenly, but one may be missing where no more than `n` can be counted. -/
structure NearlySpread (hosts : Finset HostKey) (n : Nat) (count : HostKey → Nat) : Prop where
  close : ∀ j ∈ hosts, ∀ k ∈ hosts, count j ≤ count k + 1
  le_max : ∀ k ∈ hosts, count k ≤ Text.maxUnsigned
  sum_le : ∑ k ∈ hosts, count k ≤ min n (capacity hosts)
  le_sum : min (n + 1) (capacity hosts) ≤ ∑ k ∈ hosts, count k + 1

theorem Spread.nearly (h : Spread hosts n count) : NearlySpread hosts n count := by
  refine ⟨h.close, h.le_max, Nat.le_of_eq h.sum_eq, ?_⟩
  rw [h.sum_eq]
  omega

/-- Nothing is spread evenly. -/
theorem spread_zero (hosts : Finset HostKey) : Spread hosts 0 fun _ => 0 :=
  ⟨fun _ _ _ _ => Nat.zero_le _, fun _ _ => Nat.zero_le _, by simp⟩

/-- Only the counts of the hosts matter. -/
theorem Spread.congr {count' : HostKey → Nat} (h : Spread hosts n count)
    (heq : ∀ k ∈ hosts, count k = count' k) : Spread hosts n count' where
  close j hj k hk := by
    rw [← heq j hj, ← heq k hk]
    exact h.close j hj k hk
  le_max k hk := by
    rw [← heq k hk]
    exact h.le_max k hk
  sum_eq := by rw [← h.sum_eq, Finset.sum_congr rfl heq]

theorem recount_self (count : HostKey → Nat) (host : HostKey) (delta : Int) :
    recount count host delta host = changeCount (count host) delta := Function.update_self ..

theorem recount_of_ne {k : HostKey} (h : k ≠ host) (delta : Int) :
    recount count host delta k = count k := Function.update_of_ne h ..

theorem sum_recount (count : HostKey → Nat) (h : host ∈ hosts) (delta : Int) :
    ∑ k ∈ hosts, recount count host delta k + count host =
      ∑ k ∈ hosts, count k + changeCount (count host) delta := by
  have hrest : ∑ k ∈ hosts.erase host, recount count host delta k =
      ∑ k ∈ hosts.erase host, count k :=
    Finset.sum_congr rfl fun k hk => recount_of_ne (Finset.ne_of_mem_erase hk) delta
  rw [← Finset.add_sum_erase hosts _ h, ← Finset.add_sum_erase hosts count h, hrest, recount_self]
  omega

theorem sum_le_capacity (h : ∀ k ∈ hosts, count k ≤ Text.maxUnsigned) :
    ∑ k ∈ hosts, count k ≤ capacity hosts := Finset.sum_le_card_nsmul hosts count _ h

/-- If the least of some counts cannot grow any more, none can. -/
theorem eq_max_of_least (h : ∀ k ∈ hosts, count k ≤ Text.maxUnsigned)
    (hleast : ∀ k ∈ hosts, count host ≤ count k) (hfull : Text.maxUnsigned ≤ count host) :
    (∀ k ∈ hosts, count k = Text.maxUnsigned) ∧ ∑ k ∈ hosts, count k = capacity hosts := by
  have heq : ∀ k ∈ hosts, count k = Text.maxUnsigned := fun k hk =>
    Nat.le_antisymm (h k hk) (Nat.le_trans hfull (hleast k hk))
  exact ⟨heq, Finset.sum_eq_card_nsmul heq⟩

/-- A connection that was counted and is given back leaves nothing behind. -/
theorem recount_recount (h : count host < Text.maxUnsigned) :
    recount (recount count host 1) host (-1) = count := by
  have hback : changeCount (min (count host + 1) Text.maxUnsigned) (-1) = count host := by
    show min (count host + 1) Text.maxUnsigned - 1 = count host
    omega
  rw [recount, recount_self, recount, Function.update_idem]
  exact (congrArg _ hback).trans (Function.update_eq_self host count)

/-- A count that cannot grow stays. -/
theorem recount_eq_self (h : count host = Text.maxUnsigned) : recount count host 1 = count := by
  have hstays : changeCount (count host) 1 = count host := by
    show min (count host + 1) Text.maxUnsigned = count host
    omega
  rw [recount, hstays, Function.update_eq_self]

/-- Where all hosts count as many connections as they can, one may be missing. -/
theorem nearlySpread_of_full (h : ∀ k ∈ hosts, count k = Text.maxUnsigned) (hh : host ∈ hosts)
    (hcap : capacity hosts ≤ n) : NearlySpread hosts n (recount count host (-1)) := by
  have hpos : 0 < Text.maxUnsigned := by decide
  have hself : recount count host (-1) host = Text.maxUnsigned - 1 := by
    rw [recount_self, h host hh]
    rfl
  have hnear : ∀ k ∈ hosts, recount count host (-1) k ≤ Text.maxUnsigned ∧
      Text.maxUnsigned ≤ recount count host (-1) k + 1 := by
    intro k hk
    by_cases he : k = host
    · rw [he, hself]
      omega
    · rw [recount_of_ne he, h k hk]
      omega
  have hsum : ∑ k ∈ hosts, recount count host (-1) k + 1 = capacity hosts := by
    have hall : ∑ k ∈ hosts, count k = capacity hosts := Finset.sum_eq_card_nsmul h
    have hone := sum_recount count hh (-1)
    rw [← recount_self, hself, hall, h host hh] at hone
    omega
  refine ⟨fun j hj k hk => Nat.le_trans (hnear j hj).1 (hnear k hk).2,
    fun k hk => (hnear k hk).1, ?_, ?_⟩
  · omega
  · rw [hsum]
    exact Nat.min_le_right _ _

theorem recount_le_max (h : ∀ k ∈ hosts, count k ≤ Text.maxUnsigned) (host : HostKey)
    (delta : Int) :
    ∀ k ∈ hosts, recount count host delta k ≤ Text.maxUnsigned := by
  intro k hk
  by_cases he : k = host
  · subst he
    rw [recount_self]
    exact changeCount_le (h k hk) delta
  · rw [recount_of_ne he]
    exact h k hk

/-- A connection counted against a least loaded host is lost only if no host can count it. -/
theorem sum_recount_least (h : ∀ k ∈ hosts, count k ≤ Text.maxUnsigned) (hh : host ∈ hosts)
    (hleast : ∀ k ∈ hosts, count host ≤ count k) :
    ∑ k ∈ hosts, recount count host 1 k = min (∑ k ∈ hosts, count k + 1) (capacity hosts) := by
  have hself : changeCount (count host) 1 = min (count host + 1) Text.maxUnsigned := rfl
  have hsum := sum_recount count hh 1
  have hcap := sum_le_capacity (recount_le_max h host 1)
  have hmax := h host hh
  rcases Nat.lt_or_ge (count host) Text.maxUnsigned with hlt | hfull
  · omega
  · obtain ⟨-, hall⟩ := eq_max_of_least h hleast hfull
    omega

namespace NearlySpread

variable (h : NearlySpread hosts n count) (hh : host ∈ hosts)
  (hleast : ∀ k ∈ hosts, count host ≤ count k)
include h hh hleast

/-- One more connection, counted against a least loaded host. -/
theorem reserve : Spread hosts (n + 1) (recount count host 1) := by
  have hself : recount count host 1 host = min (count host + 1) Text.maxUnsigned :=
    recount_self ..
  refine ⟨fun j hj k hk => ?_, recount_le_max h.le_max host 1, ?_⟩
  · have hclose := h.close j hj k hk
    have hmax := h.le_max j hj
    have hlow := hleast k hk
    by_cases hj' : j = host <;> by_cases hk' : k = host
    · rw [hj', hk']
      exact Nat.le_succ _
    · rw [hj', hself, recount_of_ne hk']
      omega
    · rw [hk'] at hclose
      rw [hk', hself, recount_of_ne hj']
      omega
    · rwa [recount_of_ne hj', recount_of_ne hk']
  · have hlow := h.sum_le
    have hhigh := h.le_sum
    rw [sum_recount_least h.le_max hh hleast]
    omega

/-- The connection is given back. -/
theorem release : NearlySpread hosts n (recount (recount count host 1) host (-1)) := by
  rcases Nat.lt_or_ge (count host) Text.maxUnsigned with hlt | hfull
  · rwa [recount_recount hlt]
  · obtain ⟨hmax, hall⟩ := eq_max_of_least h.le_max hleast hfull
    have hcap : capacity hosts ≤ n := hall ▸ Nat.le_trans h.sum_le (Nat.min_le_left _ _)
    rw [recount_eq_self (hmax host hh)]
    exact nearlySpread_of_full hmax hh hcap

end NearlySpread

end ConnectionRouter
