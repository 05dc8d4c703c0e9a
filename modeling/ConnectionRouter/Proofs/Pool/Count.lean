import ConnectionRouter.Proofs.Pool.Validity

/-!
# The tracked count of a host

The tracked count of a host is its connection count, else its stashed count, else zero
(`Pool.countOf`). In a valid pool a host has at most one of the two, so that the tracked count does
not depend on where the host stands:

* a snapshot moves counts between the tables and changes none (`countOf_apply`);
* a release takes from the tracked count, wherever it is kept (`Valid.countOf_release`);
* a failure sets it to zero (`countOf_markFailed`), and only a reservation adds to it
  (`countOf_reserve`).
-/

namespace ConnectionRouter

namespace Pool

/-- The connections counted against a host, tracked or not. -/
def countOf (p : Pool) (k : HostKey) : Nat := (p.counts[k]?).getD ((p.stashed[k]?).getD 0)

@[simp] theorem countOf_empty (k : HostKey) : countOf {} k = 0 := by simp [countOf]

@[simp] theorem countOf_forceRefresh (p : Pool) (k : HostKey) :
    p.forceRefresh.countOf k = p.countOf k := rfl

theorem countOf_markFailed (p : Pool) (host k : HostKey) (now : Instant) :
    (p.markFailed host now).1.countOf k = if host = k then 0 else p.countOf k := by
  rw [countOf, getElem?_counts_markFailed, getElem?_stashed_markFailed]
  split <;> simp [countOf]

theorem countOf_adjust_of_ne (p : Pool) {host k : HostKey} (h : host ≠ k) (delta : Int) :
    (p.adjust host delta).1.countOf k = p.countOf k := by
  rw [countOf, getElem?_counts_adjust, getElem?_stashed_adjust]
  simp [h, countOf]

theorem countOf_adjust_of_nonneg (p : Pool) {host : HostKey} (h : host ∈ p.counts) {delta : Int}
    (hd : 0 ≤ delta) : (p.adjust host delta).1.countOf host =
      addConnections (p.countOf host) delta.natAbs := by
  obtain ⟨n, hn⟩ := Table.mem_iff_exists.mp h
  have hneg : ¬delta < 0 := by omega
  rw [countOf, getElem?_counts_adjust]
  simp [hneg, hn, countOf, changeCount]

/-- What is given back to a host that is away is not told. -/
theorem adjust_snd_of_away (p : Pool) {host : HostKey} {delta : Int} (hd : delta < 0)
    (hs : host ∈ p.stashed) : (p.adjust host delta).2 = none := by
  obtain ⟨n, hn⟩ := Table.mem_iff_exists.mp hs
  simp [adjust, hd, hn]

theorem stash_untouched (p : Pool) {host : HostKey} {delta : Int}
    (h : ¬(delta < 0 ∧ host ∈ p.stashed)) :
    (if delta < 0 then p.stashed[host]? else none) = none := by
  split
  · rename_i hd
    exact Std.ExtTreeMap.getElem?_eq_none fun hs => h ⟨hd, hs⟩
  · rfl

/-- Otherwise the new count is told, if the host is tracked. -/
theorem adjust_snd_of_present (p : Pool) {host : HostKey} {delta : Int}
    (h : ¬(delta < 0 ∧ host ∈ p.stashed)) :
    (p.adjust host delta).2 = (p.adjust host delta).1.counts[host]? := by
  rw [adjust, p.stash_untouched h]
  cases hc : p.counts[host]? <;> simp [hc]

/-- Where no count is told and none is away, nothing is adjusted. -/
theorem adjust_eq_self (p : Pool) {host : HostKey} {delta : Int}
    (h : ¬(delta < 0 ∧ host ∈ p.stashed)) (hnone : (p.adjust host delta).2 = none) :
    (p.adjust host delta).1 = p := by
  rw [adjust, p.stash_untouched h] at hnone ⊢
  cases hc : p.counts[host]? with
  | none => rfl
  | some n => simp [hc] at hnone

/-- A snapshot changes no tracked count. -/
theorem countOf_apply (p : Pool) (s : Snapshot) (rules : SnapshotRules) (now : Instant)
    (k : HostKey) : (p.apply s rules now).1.countOf k = p.countOf k := by
  rw [countOf, countOf]
  by_cases hm : k ∈ p.nextMembers s rules
  · rw [getElem?_counts_apply_of_mem p s rules now k hm,
      getElem?_stashed_apply_of_mem p s rules now k hm]
    cases hc : p.counts[k]? with
    | some n => simp
    | none => cases (p.apply s rules now).1.isQuarantined k <;> simp
  · rw [getElem?_counts_apply_of_not_mem p s rules now k hm,
      getElem?_stashed_apply_of_not_mem p s rules now k hm]
    cases p.counts[k]? <;> simp

/-- A reservation adds a connection to the host it chooses. -/
theorem countOf_reserve (p : Pool) (excluding : List HostKey) (pick : Nat) :
    p.reserve excluding pick = (p, none) ∨
      ∃ host addr, (p.reserve excluding pick).2 = some (host, addr) ∧
        ∀ k, (p.reserve excluding pick).1.countOf k =
          if host = k then addConnections (p.countOf k) 1 else p.countOf k := by
  rcases p.reserve_cases excluding pick with he | ⟨host, addr, hm, he⟩
  · exact .inl he
  · refine .inr ⟨host, addr, by rw [he], fun k => ?_⟩
    rw [he]
    by_cases hk : host = k
    · subst hk
      have hc : host ∈ p.counts := by
        have hs := (of_mem_select hm).2.1
        simp only [isSelectable, Bool.and_eq_true] at hs
        simpa using hs.1.1
      rw [if_pos rfl]
      exact countOf_adjust_of_nonneg p hc (by omega)
    · rw [if_neg hk]
      exact countOf_adjust_of_ne p hk 1

namespace Valid

variable {defaultPort : UInt16} {p : Pool}

theorem countOf_adjust_of_neg (h : p.Valid defaultPort) (host k : HostKey) {delta : Int}
    (hd : delta < 0) : (p.adjust host delta).1.countOf k =
      if host = k then p.countOf k - delta.natAbs else p.countOf k := by
  by_cases hk : host = k
  · subst hk
    rw [if_pos rfl, countOf, getElem?_counts_adjust, getElem?_stashed_adjust, countOf]
    cases hc : p.counts[host]? with
    | none => cases p.stashed[host]? <;> simp [hd, changeCount]
    | some n =>
      have hs := h.getElem?_stashed_of_mem_counts
        (Table.mem_iff_exists.mpr ⟨n, hc⟩)
      simp [hd, hs, changeCount]
  · rw [if_neg hk, countOf_adjust_of_ne p hk]

/-- A tracked count of zero leaves nothing in the tables of counts. -/
theorem eq_zero_of_countOf (h : p.Valid defaultPort) {host : HostKey} (hc : p.countOf host = 0)
    (n : Nat) : (p.counts[host]? = some n → n = 0) ∧ (p.stashed[host]? = some n → n = 0) := by
  rw [countOf] at hc
  constructor
  · intro hn
    simpa [hn] using hc
  · intro hn
    have hnot : p.counts[host]? = none := Std.ExtTreeMap.getElem?_eq_none
      (h.not_mem_counts_of_stashed (Table.mem_iff_exists.mpr ⟨n, hn⟩))
    simpa [hnot, hn] using hc

/-- A release takes from the tracked count, wherever it is kept. -/
theorem countOf_release (h : p.Valid defaultPort) (host k : HostKey) :
    (p.adjust host (-1)).1.countOf k = if host = k then p.countOf k - 1 else p.countOf k :=
  h.countOf_adjust_of_neg host k (by omega)

end Valid

end Pool

end ConnectionRouter
