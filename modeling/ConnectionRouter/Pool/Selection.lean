import ConnectionRouter.Pool.Basic
import ConnectionRouter.Pool.LeastLoaded

/-!
# Choosing a host

A host is chosen from the best priority that has an eligible host, among the least loaded ones.
All hosts that may be chosen are told; a tie between them is broken by a number from outside.

* `Pool.select`: the hosts that may be chosen.
* `Pool.reserve`: chooses one of them and counts a connection against it in the same step.
* `Pool.hasMorePreferred`: whether an eligible host has a strictly better priority.
-/

namespace ConnectionRouter

namespace Pool

/-- A host that may be chosen, with what decides the choice. -/
structure Candidate where
  host : HostKey
  count : Nat
  priority : Priority
  deriving DecidableEq

/-- The hosts that may be chosen, leaving out `excluding`, in the order of their keys. -/
def eligible (p : Pool) (excluding : List HostKey) : List Candidate :=
  p.counts.toList.filterMap fun (host, count) =>
    if excluding.contains host || p.isQuarantined host then none
    else (p.priorities[host]?).map fun priority => ⟨host, count, priority⟩

/-- The best priority with an eligible host. -/
def bestPriority? (p : Pool) (excluding : List HostKey) : Option Priority :=
  ((p.eligible excluding).map (·.priority)).min?

/-- The least loaded hosts of the best priority, in the order of their keys. -/
def select (p : Pool) (excluding : List HostKey) : List (HostKey × HostAddr) :=
  match p.bestPriority? excluding with
  | none => []
  | some best =>
    (leastLoaded (((p.eligible excluding).filter (·.priority = best)).map
      fun c => (c.host, c.count))).filterMap
      fun host => (p.members[host]?).map fun m => (host, m.addr)

/-- Chooses one of the hosts that may be chosen and counts a connection against it. The number
`pick` breaks ties. -/
def reserve (p : Pool) (excluding : List HostKey) (pick : Nat) :
    Pool × Option (HostKey × HostAddr) :=
  let hosts := p.select excluding
  match hosts[pick % hosts.length]? with
  | none => (p, none)
  | some (host, addr) => ((p.adjust host 1).1, some (host, addr))

theorem mem_eligible {p : Pool} {excluding : List HostKey} {c : Candidate} :
    c ∈ p.eligible excluding ↔
      c.host ∉ excluding ∧ p.isQuarantined c.host = false ∧ p.counts[c.host]? = some c.count ∧
        p.priorities[c.host]? = some c.priority := by
  obtain ⟨host, count, priority⟩ := c
  simp only [eligible, List.mem_filterMap, Prod.exists,
    Std.ExtTreeMap.mem_toList_iff_getElem?_eq_some]
  constructor
  · rintro ⟨host', count', hc, h⟩
    split at h
    · cases h
    · rename_i hx
      obtain ⟨priority', hp, h⟩ := Option.map_eq_some_iff.mp h
      cases h
      simp only [Bool.or_eq_true, List.contains_iff_mem, not_or, Bool.not_eq_true] at hx
      exact ⟨hx.1, hx.2, hc, hp⟩
  · rintro ⟨hx, hq, hc, hp⟩
    exact ⟨host, count, hc, by simp_all⟩

/-- A host that may be chosen is tracked and a member. -/
theorem of_mem_select {p : Pool} {excluding : List HostKey} {host : HostKey} {addr : HostAddr}
    (h : (host, addr) ∈ p.select excluding) :
    host ∉ excluding ∧ p.isSelectable host = true ∧
      ∃ m, p.members[host]? = some m ∧ m.addr = addr := by
  unfold select at h
  split at h
  · simp at h
  · obtain ⟨host', hl, h⟩ := List.mem_filterMap.mp h
    obtain ⟨m, hm, he⟩ := Option.map_eq_some_iff.mp h
    cases he
    obtain ⟨n, hn, -⟩ := mem_leastLoaded.mp hl
    obtain ⟨c, hc, he⟩ := List.mem_map.mp hn
    cases he
    obtain ⟨hx, hq, hcount, hp⟩ := mem_eligible.mp (List.mem_filter.mp hc).1
    refine ⟨hx, ?_, m, hm, rfl⟩
    simp [isSelectable, Std.ExtTreeMap.contains_eq_isSome_getElem?, hq, hcount, hp]

/-- A reservation is a choice and one more connection counted. -/
theorem reserve_cases (p : Pool) (excluding : List HostKey) (pick : Nat) :
    p.reserve excluding pick = (p, none) ∨
      ∃ host addr, (host, addr) ∈ p.select excluding ∧
        p.reserve excluding pick = ((p.adjust host 1).1, some (host, addr)) := by
  unfold reserve
  dsimp only
  split
  · exact .inl rfl
  · rename_i host addr h
    exact .inr ⟨host, addr, List.mem_of_getElem? h, rfl⟩

/-- Whether another eligible host has a strictly better priority than `host`. -/
def hasMorePreferred (p : Pool) (host : HostKey) : Bool :=
  match p.priority? host with
  | none => false
  | some current =>
    (p.eligible []).any fun c => c.host != host && c.priority.isBefore current

end Pool

end ConnectionRouter
