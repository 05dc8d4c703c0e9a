import ConnectionRouter.Proofs.Pool.Eligibility

/-!
# Whom a reservation chooses

A host that may be chosen has the best priority of all eligible hosts and, of those with its
priority, the fewest connections (`Pool.best_of_mem_select`). It is still the best of every part of
them that it belongs to (`Pool.Candidate.Best.mono`).
-/

namespace ConnectionRouter

/-! ## The best priority -/

namespace Priority

theorem le_iff {a b : Priority} : a ≤ b ↔ b.isBefore a = false := by
  rw [← Bool.not_eq_true]
  exact Iff.rfl

instance : Std.IsLinearOrder Priority where
  le_refl a := by cases a <;> simp [le_iff, isBefore]
  le_trans a b c := by
    cases a <;> cases b <;> cases c <;> simp [le_iff, isBefore]
    omega
  le_antisymm a b := by
    cases a <;> cases b <;> simp [le_iff, isBefore]
    omega
  le_total a b := by
    cases a <;> cases b <;> simp [le_iff, isBefore]
    omega

theorem lt_of_le_of_lt {a b c : Priority} (hab : a ≤ b) (hbc : b < c) : a < c :=
  Decidable.not_not.mp fun hca => Std.IsPreorder.le_trans c a b hca hab hbc

instance : Std.LawfulOrderMin Priority where
  le_min_iff a b c := by
    show a ≤ (if c < b then c else b) ↔ a ≤ b ∧ a ≤ c
    split
    · rename_i hlt
      have hle : c ≤ b := by
        rcases Std.IsLinearPreorder.le_total b c with h | h
        · exact absurd hlt h
        · exact h
      exact ⟨fun h => ⟨Std.IsPreorder.le_trans a c b h hle, h⟩, And.right⟩
    · rename_i hle
      exact ⟨fun h => ⟨h, Std.IsPreorder.le_trans a b c h hle⟩, And.left⟩

end Priority

namespace Pool

/-- A candidate with the best priority of those that qualify and, among those with its priority, the
fewest connections. -/
structure Candidate.Best (qualifies : Candidate → Prop) (c : Candidate) : Prop where
  mem : qualifies c
  priority_le : ∀ d, qualifies d → c.priority ≤ d.priority
  count_le : ∀ d, qualifies d → d.priority = c.priority → c.count ≤ d.count

/-- The best of all is the best of every part that it belongs to. -/
theorem Candidate.Best.mono {P Q : Candidate → Prop} {c : Candidate} (h : c.Best P) (hc : Q c)
    (hQ : ∀ d, Q d → P d) : c.Best Q :=
  ⟨hc, fun d hd => h.priority_le d (hQ d hd), fun d hd => h.count_le d (hQ d hd)⟩

/-- **A host that may be chosen is the best of the eligible hosts.** -/
theorem best_of_mem_select {p : Pool} {excluding : List HostKey} {host : HostKey}
    {addr : HostAddr} (h : (host, addr) ∈ p.select excluding) :
    ∃ (c : Candidate) (m : PoolMember), c.host = host ∧ p.members[host]? = some m ∧ m.addr = addr ∧
      c.Best (· ∈ p.eligible excluding) := by
  unfold select at h
  split at h
  · simp at h
  · rename_i best hbest
    obtain ⟨host', hl, h⟩ := List.mem_filterMap.mp h
    obtain ⟨m, hm, he⟩ := Option.map_eq_some_iff.mp h
    cases he
    obtain ⟨n, hn, hle⟩ := mem_leastLoaded.mp hl
    obtain ⟨c, hc, he⟩ := List.mem_map.mp hn
    cases he
    obtain ⟨hc, hpriority⟩ := List.mem_filter.mp hc
    have hpriority : c.priority = best := of_decide_eq_true hpriority
    obtain ⟨-, hmin⟩ := List.min?_eq_some_iff.mp hbest
    refine ⟨c, m, rfl, hm, rfl, hc, fun d hd => ?_, fun d hd hsame => ?_⟩
    · rw [hpriority]
      exact hmin d.priority (List.mem_map_of_mem hd)
    · have hd' : d ∈ (p.eligible excluding).filter (·.priority = best) :=
        List.mem_filter.mpr ⟨hd, decide_eq_true (hsame.trans hpriority)⟩
      exact hle (d.host, d.count) (List.mem_map_of_mem hd')

end Pool

end ConnectionRouter
