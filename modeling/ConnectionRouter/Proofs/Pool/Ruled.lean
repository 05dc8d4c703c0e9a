import ConnectionRouter.Proofs.Pool.Count
import Mathlib.Data.List.Induction

/-!
# Pools under changing rules

The rules by which snapshots are read may change from one snapshot to the next. Whatever happens,
every member outside quarantine has the priority that its place has by the rules of the last
snapshot, and no tracked count is greater than a count can be (`RuledPool.Sound`).
-/

namespace ConnectionRouter

/-- A pool, with the rules by which its last snapshot was read. -/
structure RuledPool where
  pool : Pool := {}
  rules : SnapshotRules := {}

namespace RuledPool

/-- The pool after an event. Only a snapshot puts rules in force. -/
def after (r : RuledPool) (e : SnapshotRules × PoolEvent) : RuledPool where
  pool := r.pool.after e.1 e.2
  rules := match e.2 with
    | .snapshot .. => e.1
    | _ => r.rules

/-- The empty pool after a list of events. -/
def run (events : List (SnapshotRules × PoolEvent)) : RuledPool := events.foldl after {}

theorem run_concat (events : List (SnapshotRules × PoolEvent)) (e : SnapshotRules × PoolEvent) :
    run (events ++ [e]) = (run events).after e := by
  rw [run, List.foldl_append]
  rfl

/-- The rules in force are those of some event, or the rules at the start. -/
theorem rules_run {P : SnapshotRules → Prop} (hstart : P {})
    {events : List (SnapshotRules × PoolEvent)} (h : ∀ e ∈ events, P e.1) :
    P (run events).rules := by
  induction events using List.reverseRecOn with
  | nil => exact hstart
  | append_singleton events e ih =>
    have hbefore := ih fun e he => h e (List.mem_append_left _ he)
    have hlast : P e.1 := h e (by simp)
    rw [run_concat, after]
    split
    · exact hlast
    · exact hbefore

/-- What holds of a pool and the rules of its last snapshot. -/
structure Sound (r : RuledPool) : Prop where
  valid : r.pool.Valid r.rules.defaultPort
  priority_eq : ∀ (k : HostKey) (m : PoolMember), r.pool.members[k]? = some m →
    r.pool.isQuarantined k = false →
      r.pool.priorities[k]? = some (Pool.rankOf r.rules m.placement)
  count_le : ∀ k, r.pool.countOf k ≤ Text.maxUnsigned

namespace Sound

variable {p : Pool} {rules : SnapshotRules} (h : Sound ⟨p, rules⟩)
include h

theorem adjust (host : HostKey) (delta : Int) : Sound ⟨(p.adjust host delta).1, rules⟩ where
  valid := h.valid.adjust host delta
  priority_eq k m hm hq := by
    rw [Pool.members_adjust] at hm
    rw [Pool.isQuarantined_adjust] at hq
    rw [Pool.priorities_adjust]
    exact h.priority_eq k m hm hq
  count_le k := by
    have hle := h.count_le k
    unfold Pool.countOf at hle ⊢
    simp only at hle ⊢
    rw [Pool.getElem?_counts_adjust, Pool.getElem?_stashed_adjust]
    cases hc : p.counts[k]? with
    | some n =>
      rw [hc] at hle
      split
      · exact changeCount_le hle delta
      · exact hle
    | none =>
      simp only [hc, Option.map_none, ite_self, Option.getD_none] at hle ⊢
      cases hs : p.stashed[k]? with
      | none => simp
      | some n =>
        rw [hs] at hle
        split
        · exact changeCount_le hle delta
        · exact hle

theorem reserve (excluding : List HostKey) (pick : Nat) :
    Sound ⟨(p.reserve excluding pick).1, rules⟩ := by
  rcases p.reserve_cases excluding pick with he | ⟨host, addr, -, he⟩
  · rwa [he]
  · rw [he]
    exact h.adjust host 1

theorem markFailed (host : HostKey) (now : Instant) :
    Sound ⟨(p.markFailed host now).1, rules⟩ where
  valid := h.valid.markFailed host now
  priority_eq k m hm hq := by
    simp only [Pool.isQuarantined_markFailed, Bool.or_eq_false_iff, beq_eq_false_iff_ne] at hq
    simp only [Pool.getElem?_priorities_markFailed, if_neg hq.1]
    exact h.priority_eq k m hm hq.2
  count_le k := by
    simp only [Pool.countOf_markFailed]
    split
    · exact Nat.zero_le _
    · exact h.count_le k

/-- A snapshot ranks the members by its own rules. -/
theorem apply (s : Snapshot) (rules' : SnapshotRules) (now : Instant) :
    Sound ⟨(p.apply s rules' now).1, rules'⟩ where
  valid := h.valid.apply s rules' now
  priority_eq k m hm hq := by
    rw [Pool.members_apply] at hm
    rw [Pool.getElem?_priorities_apply, hq, hm]
    rfl
  count_le k := by
    rw [Pool.countOf_apply]
    exact h.count_le k

end Sound

theorem Sound.after {r : RuledPool} (h : r.Sound) (e : SnapshotRules × PoolEvent) :
    (r.after e).Sound := by
  obtain ⟨rules', e⟩ := e
  cases e with
  | snapshot s now => exact h.apply s rules' now
  | reserve excluding pick => exact h.reserve excluding pick
  | adjust host delta => exact h.adjust host delta
  | markFailed host now => exact h.markFailed host now
  | forceRefresh => exact ⟨h.valid.forceRefresh, h.priority_eq, h.count_le⟩

/-- **Every run leads to a sound pool.** -/
theorem sound_run (events : List (SnapshotRules × PoolEvent)) : (run events).Sound := by
  induction events using List.reverseRecOn with
  | nil => exact ⟨Pool.Valid.empty, fun k m hm _ => by simp [run] at hm, fun k => by simp [run]⟩
  | append_singleton events e ih =>
    rw [run_concat]
    exact ih.after e

end RuledPool

end ConnectionRouter
