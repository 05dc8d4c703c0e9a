import ConnectionRouter.Placement.Preference
import Mathlib.Data.List.Induction

/-!
# Tiers

Entries declare tiers one after the other. What a tier holds in the end is said without the order
in which ranks come up: the patterns that entries of its rank declare, each once, in the order in
which they first appear (`Preference.getElem?_foldl_declare`). A tier without such a pattern is
not declared.

Read off tier by tier, declared tiers are entries again (`Preference.listed`), and these declare
the same tiers (`Preference.foldl_declare_listed`).
-/

namespace ConnectionRouter

/-! ## Lists without repetitions -/

section EraseDups

variable {α : Type} [DecidableEq α] {l : List α}

theorem List.eraseDups_concat (l : List α) (a : α) :
    (l ++ [a]).eraseDups = if a ∈ l then l.eraseDups else l.eraseDups ++ [a] := by
  rw [List.eraseDups_append]
  by_cases h : a ∈ l <;> simp [List.removeAll, h, List.eraseDups_cons]

theorem List.nodup_eraseDups (l : List α) : l.eraseDups.Nodup := by
  induction l using List.reverseRecOn with
  | nil => exact List.nodup_nil
  | append_singleton l a ih =>
    rw [List.eraseDups_concat]
    split
    · exact ih
    · rename_i h
      refine List.nodup_append.mpr ⟨ih, List.pairwise_singleton _ a, fun b hb c hc => ?_⟩
      rw [List.mem_singleton] at hc
      rintro rfl
      exact h (hc ▸ List.mem_eraseDups.mp hb)

theorem List.eraseDups_eq_self (h : l.Nodup) : l.eraseDups = l := by
  induction l using List.reverseRecOn with
  | nil => rfl
  | append_singleton l a ih =>
    obtain ⟨hl, -, hnew⟩ := List.nodup_append.mp h
    have hout : a ∉ l := fun hmem => hnew a hmem a (List.mem_singleton_self a) rfl
    rw [List.eraseDups_concat, if_neg hout, ih hl]

end EraseDups

namespace Preference

/-! ## What entries declare -/

/-- The patterns that some entries declare at a rank, in order. -/
def patternsAt (entries : List Entry) (rank : Nat) : List Placement :=
  (entries.filter (·.rank = rank)).map (·.pattern)

theorem patternsAt_append (entries entries' : List Entry) (rank : Nat) :
    patternsAt (entries ++ entries') rank =
      patternsAt entries rank ++ patternsAt entries' rank := by
  simp [patternsAt]

theorem mem_patternsAt {entries : List Entry} {rank : Nat} {pattern : Placement} :
    pattern ∈ patternsAt entries rank ↔ ⟨pattern, rank⟩ ∈ entries := by
  simp only [patternsAt, List.mem_map, List.mem_filter, decide_eq_true_eq]
  constructor
  · rintro ⟨⟨_, _⟩, ⟨hmem, rfl⟩, rfl⟩
    exact hmem
  · exact fun h => ⟨_, ⟨h, rfl⟩, rfl⟩

/-- **A tier holds the patterns of its rank, each once, in the order of first appearance.** -/
theorem getElem?_foldl_declare (entries : List Entry) (rank : Nat) :
    (entries.foldl declare ∅)[rank]? =
      if patternsAt entries rank = [] then none else some (patternsAt entries rank).eraseDups := by
  induction entries using List.reverseRecOn with
  | nil => simp [patternsAt]
  | append_singleton entries e ih =>
    rw [List.foldl_append, List.foldl_cons, List.foldl_nil, declare, patternsAt_append,
      Std.ExtTreeMap.getElem?_insert]
    by_cases hr : e.rank = rank
    · subst hr
      have hone : patternsAt [e] e.rank = [e.pattern] := by simp [patternsAt]
      have htier : (entries.foldl declare ∅)[e.rank]?.getD [] =
          (patternsAt entries e.rank).eraseDups := by
        rw [ih]
        split
        · rename_i hnil
          rw [hnil]
          rfl
        · rfl
      rw [hone, htier, List.eraseDups_concat]
      simp [List.mem_eraseDups]
    · have hnone : patternsAt [e] rank = [] := by simp [patternsAt, hr]
      simp [hr, hnone, ih]

/-! ## Tiers read off -/

/-- The tiers as a list of entries, in the order of ranks. -/
def listed (tiers : Std.ExtTreeMap Nat (List Placement)) : List Entry :=
  tiers.toList.flatMap fun (rank, patterns) => patterns.map fun pattern => ⟨pattern, rank⟩

/-- No tier is empty, and none repeats a pattern. -/
def Proper (tiers : Std.ExtTreeMap Nat (List Placement)) : Prop :=
  ∀ (rank : Nat) (patterns : List Placement), tiers[rank]? = some patterns →
    patterns ≠ [] ∧ patterns.Nodup

theorem proper_foldl_declare (entries : List Entry) : Proper (entries.foldl declare ∅) := by
  intro rank patterns h
  rw [getElem?_foldl_declare] at h
  split at h
  · cases h
  · rename_i hne
    cases h
    refine ⟨fun hnil => hne ?_, List.nodup_eraseDups _⟩
    refine List.eq_nil_iff_forall_not_mem.mpr fun a ha => ?_
    rw [← List.mem_eraseDups, hnil] at ha
    cases ha

theorem mem_listed {tiers : Std.ExtTreeMap Nat (List Placement)} {e : Entry} :
    e ∈ listed tiers ↔ e.pattern ∈ tiers[e.rank]?.getD [] := by
  obtain ⟨pattern, rank⟩ := e
  simp only [listed, List.mem_flatMap, Prod.exists, List.mem_map, Entry.mk.injEq,
    Std.ExtTreeMap.mem_toList_iff_getElem?_eq_some]
  constructor
  · rintro ⟨_, patterns, h, _, hmem, rfl, rfl⟩
    simpa [h] using hmem
  · intro h
    cases ht : tiers[rank]? with
    | none => simp [ht] at h
    | some patterns => exact ⟨rank, patterns, ht, pattern, by simpa [ht] using h, rfl, rfl⟩

/-- The entries of the tiers that some entries declare are these entries. -/
theorem mem_listed_foldl {entries : List Entry} {e : Entry} :
    e ∈ listed (entries.foldl declare ∅) ↔ e ∈ entries := by
  rw [mem_listed, getElem?_foldl_declare, ← mem_patternsAt]
  split
  · rename_i hnil
    simp [hnil]
  · rw [Option.getD_some, List.mem_eraseDups]

theorem patternsAt_tier (rank rank' : Nat) (patterns : List Placement) :
    patternsAt (patterns.map fun pattern => ⟨pattern, rank'⟩) rank =
      if rank' = rank then patterns else [] := by
  split
  · rename_i h
    subst h
    simp [patternsAt, List.filter_eq_self.mpr, Function.comp_def]
  · rename_i h
    simp [patternsAt, h]

/-- Of tiers with different ranks, only the one of a rank contributes to it. -/
theorem patternsAt_flatMap {rank : Nat} {patterns : List Placement}
    {tiers : List (Nat × List Placement)} (hdistinct : tiers.Pairwise fun t t' => t.1 ≠ t'.1)
    (h : (rank, patterns) ∈ tiers) :
    patternsAt (tiers.flatMap fun (r, ps) => ps.map fun pattern => ⟨pattern, r⟩) rank =
      patterns := by
  induction tiers with
  | nil => cases h
  | cons t tiers ih =>
    obtain ⟨hfirst, hrest⟩ := List.pairwise_cons.mp hdistinct
    rw [List.flatMap_cons, patternsAt_append, patternsAt_tier]
    rcases List.mem_cons.mp h with rfl | h
    · have hnone : patternsAt (tiers.flatMap fun (r, ps) => ps.map fun pattern => ⟨pattern, r⟩)
          rank = [] := by
        refine List.eq_nil_iff_forall_not_mem.mpr fun pattern hp => ?_
        obtain ⟨⟨r, ps⟩, ht, hp⟩ := List.mem_flatMap.mp (mem_patternsAt.mp hp)
        obtain ⟨_, -, he⟩ := List.mem_map.mp hp
        exact hfirst (r, ps) ht (congrArg Entry.rank he).symm
      simp [hnone]
    · rw [if_neg (hfirst _ h), List.nil_append, ih hrest h]

theorem patternsAt_listed (tiers : Std.ExtTreeMap Nat (List Placement)) (rank : Nat) :
    patternsAt (listed tiers) rank = tiers[rank]?.getD [] := by
  cases ht : tiers[rank]? with
  | none =>
    refine List.eq_nil_iff_forall_not_mem.mpr fun pattern hp => ?_
    have hmem := mem_listed.mp (mem_patternsAt.mp hp)
    rw [ht] at hmem
    cases hmem
  | some patterns =>
    refine patternsAt_flatMap ?_ (Std.ExtTreeMap.mem_toList_iff_getElem?_eq_some.mpr ht)
    exact Std.ExtTreeMap.distinct_keys_toList.imp fun h he => h (by simp [he])

/-- **Tiers read off as entries declare the same tiers.** -/
theorem foldl_declare_listed {tiers : Std.ExtTreeMap Nat (List Placement)} (h : Proper tiers) :
    (listed tiers).foldl declare ∅ = tiers := by
  refine Std.ExtTreeMap.ext_getElem? fun rank => ?_
  rw [getElem?_foldl_declare, patternsAt_listed]
  cases ht : tiers[rank]? with
  | none => rfl
  | some patterns =>
    obtain ⟨hne, hnodup⟩ := h rank patterns ht
    rw [Option.getD_some, if_neg hne, List.eraseDups_eq_self hnodup]

end Preference

end ConnectionRouter
