import ConnectionRouter.Balancer.Basic
import ConnectionRouter.Proofs.Table
import Mathlib.Data.List.Perm.Subperm

/-!
# Whom to ask for the topology

A balancer without a control connection asks the seeds in their order, and then each known member
that is not a seed, once (`Balancer.bootstrapCandidates_eq`).
-/

namespace ConnectionRouter.Balancer

/-- The seeds in order, then each known member that is not a seed, once. -/
theorem bootstrapCandidates_eq (b : Balancer) (seeds : List HostAddr) :
    ∃ others, b.bootstrapCandidates seeds = seeds ++ others ∧ others.Nodup ∧
      ∀ addr, addr ∈ others ↔ addr ∈ b.pool.memberAddrs ∧ addr ∉ seeds := by
  suffices h : ∀ addrs known : List HostAddr, ∃ others,
      addrs.foldl (fun known addr => if addr ∈ known then known else known ++ [addr]) known =
        known ++ others ∧ others.Nodup ∧
      ∀ addr, addr ∈ others ↔ addr ∈ addrs ∧ addr ∉ known from h b.pool.memberAddrs seeds
  intro addrs
  induction addrs with
  | nil => exact fun known => ⟨[], by simp, List.nodup_nil, by simp⟩
  | cons a addrs ih =>
    intro known
    rw [List.foldl_cons]
    by_cases ha : a ∈ known
    · rw [if_pos ha]
      obtain ⟨others, he, hn, hm⟩ := ih known
      refine ⟨others, he, hn, fun addr => (hm addr).trans ?_⟩
      constructor
      · exact fun h => ⟨List.mem_cons_of_mem _ h.1, h.2⟩
      · rintro ⟨h, hk⟩
        exact ⟨(List.mem_cons.mp h).resolve_left fun he => hk (he ▸ ha), hk⟩
    · rw [if_neg ha]
      obtain ⟨others, he, hn, hm⟩ := ih (known ++ [a])
      have hnot : a ∉ others := fun h => ((hm a).mp h).2 (by simp)
      refine ⟨a :: others, by simp [he], List.nodup_cons.mpr ⟨hnot, hn⟩, fun addr => ?_⟩
      rw [List.mem_cons, hm, List.mem_cons, List.mem_append, List.mem_singleton, not_or]
      by_cases hx : addr = a
      · simp [hx, ha]
      · simp [hx]

theorem mem_bootstrapCandidates {b : Balancer} {seeds : List HostAddr} {addr : HostAddr} :
    addr ∈ b.bootstrapCandidates seeds ↔ addr ∈ seeds ∨ addr ∈ b.pool.memberAddrs := by
  obtain ⟨others, he, -, hm⟩ := b.bootstrapCandidates_eq seeds
  rw [he, List.mem_append, hm]
  by_cases hseed : addr ∈ seeds <;> simp [hseed]

theorem length_bootstrapCandidates_le (b : Balancer) (seeds : List HostAddr) :
    (b.bootstrapCandidates seeds).length ≤ seeds.length + b.pool.members.size := by
  obtain ⟨others, he, hn, hm⟩ := b.bootstrapCandidates_eq seeds
  have hsub : others ⊆ b.pool.memberAddrs := fun addr h => ((hm addr).mp h).1
  have hlen := (hn.subperm hsub).length_le
  rw [Pool.memberAddrs, List.length_map, Table.length_values] at hlen
  rw [he, List.length_append]
  omega

end ConnectionRouter.Balancer
