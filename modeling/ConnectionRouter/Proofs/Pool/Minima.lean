import ConnectionRouter.Proofs.Pool.Eligibility
import Mathlib.Data.List.Perm.Basic

/-!
# Exactly the minima

Whoever is picked is picked from the candidates whose count is the smallest, each of them as often
as it was given, whatever the order. That a pass over the candidates starts from the largest count
there is, and so cannot tell it from a count that somebody has, costs no candidate.

* `pickLeast`: the candidate that a number picks.
* `Pool.Valid.reserve_eq_pickLeast`: a pool reserves what is picked from the tier it chooses from.
* `leastLoaded_minima`: from whom is picked, and when nobody is.
-/

namespace ConnectionRouter

section Minima

variable {α : Type} {candidates others : List (α × Nat)}

/-- The candidate that a number picks from the least loaded ones. -/
def pickLeast (candidates : List (α × Nat)) (pick : Nat) : Option α :=
  (leastLoaded candidates)[pick % (leastLoaded candidates).length]?

theorem leastLoaded_eq_nil_iff : leastLoaded candidates = [] ↔ candidates = [] := by
  constructor
  · intro hnil
    by_contra hne
    exact leastLoaded_ne_nil hne hnil
  · rintro rfl
    rfl

theorem pickLeast_eq_none_iff {pick : Nat} :
    pickLeast candidates pick = none ↔ candidates = [] := by
  rw [pickLeast, List.getElem?_eq_none_iff, ← leastLoaded_eq_nil_iff, ← List.length_eq_zero_iff]
  constructor
  · intro hle
    by_contra hne
    exact absurd (Nat.mod_lt pick (Nat.pos_of_ne_zero hne)) (Nat.not_lt.mpr hle)
  · intro hzero
    rw [hzero]
    exact Nat.zero_le _

/-- Every least loaded candidate can be picked, and nobody else. -/
theorem mem_leastLoaded_iff_pickLeast {a : α} :
    a ∈ leastLoaded candidates ↔ ∃ pick, pickLeast candidates pick = some a := by
  constructor
  · intro hmem
    obtain ⟨i, hi, hget⟩ := List.mem_iff_getElem.mp hmem
    refine ⟨i, ?_⟩
    rw [pickLeast, Nat.mod_eq_of_lt hi, List.getElem?_eq_getElem hi, hget]
  · rintro ⟨pick, hpick⟩
    exact List.mem_of_getElem? hpick

/-- The least loaded candidates are those that have the smallest count. -/
theorem leastLoaded_eq_filter {least : Nat} (h : (candidates.map (·.2)).min? = some least) :
    leastLoaded candidates = (candidates.filter (·.2 = least)).map (·.1) := by
  obtain ⟨hmem, hle⟩ := List.min?_eq_some_iff.mp h
  obtain ⟨first, hfirst, hcount⟩ := List.mem_map.mp hmem
  have hleast : ∀ d ∈ candidates, least ≤ d.2 := fun d hd => hle d.2 (List.mem_map_of_mem hd)
  rw [leastLoaded_eq]
  congr 1
  refine List.filter_congr fun c hc => decide_eq_decide.mpr ⟨fun hmin => ?_, ?_⟩
  · exact Nat.le_antisymm (hcount ▸ hmin first hfirst) (hleast c hc)
  · rintro rfl
    exact hleast

/-- The order of the candidates tells only the order of the least loaded. -/
theorem leastLoaded_perm (h : others.Perm candidates) :
    (leastLoaded others).Perm (leastLoaded candidates) := by
  have hsame : (others.filter fun c => decide (∀ d ∈ others, c.2 ≤ d.2)) =
      others.filter fun c => decide (∀ d ∈ candidates, c.2 ≤ d.2) := by
    simp only [h.mem_iff]
  rw [leastLoaded_eq, leastLoaded_eq, hsame]
  exact (h.filter _).map _

end Minima

/-! ## What a pool picks from -/

namespace Pool

variable {p : Pool} {excluding : List HostKey}

/-- The eligible hosts of the best priority, with their counts. -/
def bestTier (p : Pool) (excluding : List HostKey) : List (HostKey × Nat) :=
  match p.bestPriority? excluding with
  | none => []
  | some best =>
    ((p.eligible excluding).filter (·.priority = best)).map fun c => (c.host, c.count)

theorem exists_eligible_of_mem_bestTier {host : HostKey} {n : Nat}
    (h : (host, n) ∈ p.bestTier excluding) : ∃ c ∈ p.eligible excluding, c.host = host := by
  unfold bestTier at h
  split at h
  · exact absurd h List.not_mem_nil
  · obtain ⟨c, hc, he⟩ := List.mem_map.mp h
    exact ⟨c, (List.mem_filter.mp hc).1, congrArg Prod.fst he⟩

theorem select_eq_bestTier (p : Pool) (excluding : List HostKey) :
    p.select excluding = (leastLoaded (p.bestTier excluding)).filterMap
      fun host => (p.members[host]?).map fun m => (host, m.addr) := by
  rw [select, bestTier]
  cases p.bestPriority? excluding <;> rfl

namespace Valid

variable {defaultPort : UInt16}

/-- The hosts that may be chosen are the least loaded of the best tier. -/
theorem map_fst_select (v : p.Valid defaultPort) (excluding : List HostKey) :
    (p.select excluding).map (·.1) = leastLoaded (p.bestTier excluding) := by
  rw [select_eq_bestTier, List.map_filterMap]
  refine Eq.trans (List.filterMap_congr (g := some) fun host hhost => ?_) List.filterMap_some
  obtain ⟨n, hn, -⟩ := mem_leastLoaded.mp hhost
  have hmember := (v.exists_eligible_iff.mp (exists_eligible_of_mem_bestTier hn)).1
  obtain ⟨m, hm⟩ := Table.mem_iff_exists.mp hmember
  rw [hm]
  rfl

/-- **A pool reserves the host that is picked from its best tier.** -/
theorem reserve_eq_pickLeast (v : p.Valid defaultPort) (excluding : List HostKey) (pick : Nat) :
    (p.reserve excluding pick).2.map (·.1) = pickLeast (p.bestTier excluding) pick := by
  rw [pickLeast, ← v.map_fst_select, List.length_map, List.getElem?_map]
  simp only [Pool.reserve]
  split
  · rename_i hnone
    rw [hnone, Option.map_none]
  · rename_i host addr hsome
    rw [hsome, Option.map_some]

end Valid

end Pool

/-! ## The minima -/

/-- **Exactly the minima are picked from.** The least loaded of any candidates are those with the
smallest count, in the order given; a pass that starts from the largest count of 64 bits finds the
same ones, even if this is the count of them all. Each of them can be picked and nobody else, nobody
is picked exactly if there are no candidates, and in another order of the candidates they are the
same but for their order. -/
theorem leastLoaded_minima {candidates : List (HostKey × Nat)}
    (counted : ∀ c ∈ candidates, c.2 ≤ Text.maxUnsigned) :
    (Ties.scan Text.maxUnsigned candidates).candidates.reverse = leastLoaded candidates ∧
      (∀ least, (candidates.map (·.2)).min? = some least →
        leastLoaded candidates = (candidates.filter (·.2 = least)).map (·.1)) ∧
      (∀ host, host ∈ leastLoaded candidates ↔ ∃ pick, pickLeast candidates pick = some host) ∧
      (∀ pick, pickLeast candidates pick = none ↔ candidates = []) ∧
      ∀ others : List (HostKey × Nat), others.Perm candidates →
        (leastLoaded others).Perm (leastLoaded candidates) := by
  refine ⟨scan_eq_leastLoaded fun hne => ?_, fun _ => leastLoaded_eq_filter,
    fun _ => mem_leastLoaded_iff_pickLeast, fun _ => pickLeast_eq_none_iff,
    fun _ => leastLoaded_perm⟩
  obtain ⟨c, hc⟩ := List.exists_mem_of_ne_nil _ hne
  exact ⟨c, hc, counted c hc⟩

/-- Two hosts with as many connections as can be counted. -/
def fullHosts : List (HostKey × Nat) := [("a", Text.maxUnsigned), ("b", Text.maxUnsigned)]

theorem leastLoaded_minima_fullHosts :
    (∀ c ∈ fullHosts, c.2 ≤ Text.maxUnsigned) ∧
      (Ties.scan Text.maxUnsigned fullHosts).candidates.reverse = ["a", "b"] ∧
      (leastLoaded fullHosts.reverse).Perm ["a", "b"] := by
  have counted : ∀ c ∈ fullHosts, c.2 ≤ Text.maxUnsigned := by decide
  obtain ⟨hscan, hfilter, -, -, hperm⟩ := leastLoaded_minima counted
  have hleast : leastLoaded fullHosts = ["a", "b"] := hfilter Text.maxUnsigned (by decide)
  rw [hleast] at hscan
  have hturned := hperm fullHosts.reverse (List.reverse_perm _)
  rw [hleast] at hturned
  exact ⟨counted, hscan, hturned⟩

end ConnectionRouter
