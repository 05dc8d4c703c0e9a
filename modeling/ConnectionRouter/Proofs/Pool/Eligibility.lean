import ConnectionRouter.Proofs.Pool.Validity

/-!
# When a host can be reserved

A valid pool reserves a host as long as there is a member outside quarantine that is not left out
(`Pool.Valid.reserve_of_available`), and only then (`Pool.reserve_of_unavailable`): neither
priorities nor counts nor the number that breaks ties keep the last host back.
-/

namespace ConnectionRouter

/-! ## Somebody is chosen -/

/-- The better of two priorities is one of them. -/
instance : Std.MinEqOr Priority where
  min_eq_or a b := by
    show (if b < a then b else a) = a ∨ (if b < a then b else a) = b
    split
    · exact .inr rfl
    · exact .inl rfl

namespace Pool

variable {p : Pool} {excluding : List HostKey}

/-- A member outside quarantine that is not left out. -/
def Available (p : Pool) (excluding : List HostKey) (host : HostKey) : Prop :=
  host ∈ p.members ∧ p.isQuarantined host = false ∧ host ∉ excluding

theorem available_adjust {host k : HostKey} {delta : Int} :
    (p.adjust host delta).1.Available excluding k ↔ p.Available excluding k := by
  rw [Available, members_adjust, isQuarantined_adjust]
  rfl

theorem select_ne_nil (h : p.eligible excluding ≠ [])
    (hm : ∀ c ∈ p.eligible excluding, c.host ∈ p.members) : p.select excluding ≠ [] := by
  obtain ⟨best, hbest⟩ : ∃ best, p.bestPriority? excluding = some best := by
    refine Option.ne_none_iff_exists'.mp fun hn => h ?_
    simpa using List.min?_eq_none_iff.mp hn
  -- the best priority is that of an eligible host, so somebody is least loaded there
  obtain ⟨c, hc, hpriority⟩ := List.mem_map.mp (List.min?_mem hbest)
  have hbestc : c ∈ (p.eligible excluding).filter (·.priority = best) :=
    List.mem_filter.mpr ⟨hc, decide_eq_true hpriority⟩
  have hleast := leastLoaded_ne_nil (List.ne_nil_of_mem
    (List.mem_map_of_mem (f := fun c : Candidate => (c.host, c.count)) hbestc))
  obtain ⟨host, hhost⟩ := List.exists_mem_of_ne_nil _ hleast
  obtain ⟨n, hn, -⟩ := mem_leastLoaded.mp hhost
  obtain ⟨d, hd, he⟩ := List.mem_map.mp hn
  cases he
  obtain ⟨m, hm'⟩ := Table.mem_iff_exists.mp (hm d (List.mem_filter.mp hd).1)
  simp only [select, hbest]
  exact List.ne_nil_of_mem (List.mem_filterMap.mpr ⟨d.host, hhost, by rw [hm']; rfl⟩)

theorem select_eq_nil (h : p.eligible excluding = []) : p.select excluding = [] := by
  have hbest : p.bestPriority? excluding = none := by
    rw [bestPriority?, h]
    rfl
  simp only [select, hbest]

/-- A reservation takes a host that may be chosen. -/
theorem reserve_of_select (h : p.select excluding ≠ []) (pick : Nat) :
    ∃ host addr, (host, addr) ∈ p.select excluding ∧
      p.reserve excluding pick = ((p.adjust host 1).1, some (host, addr)) := by
  have hlt : pick % (p.select excluding).length < (p.select excluding).length :=
    Nat.mod_lt _ (List.length_pos_iff.mpr h)
  obtain ⟨⟨host, addr⟩, hget⟩ : ∃ c,
      (p.select excluding)[pick % (p.select excluding).length]? = some c :=
    ⟨_, List.getElem?_eq_getElem hlt⟩
  exact ⟨host, addr, List.mem_of_getElem? hget, by simp only [reserve, hget]⟩

namespace Valid

variable {defaultPort : UInt16}

/-- The eligible hosts of a valid pool are those that are available. -/
theorem exists_eligible_iff (v : p.Valid defaultPort) {host : HostKey} :
    (∃ c ∈ p.eligible excluding, c.host = host) ↔ p.Available excluding host := by
  constructor
  · rintro ⟨c, hc, rfl⟩
    obtain ⟨hx, hq, hcount, -⟩ := mem_eligible.mp hc
    have hmem : c.host ∈ p.counts := Table.mem_iff_exists.mpr ⟨c.count, hcount⟩
    exact ⟨((v.mem_counts_iff _).mp hmem).1, hq, hx⟩
  · rintro ⟨hm, hq, hx⟩
    obtain ⟨count, hcount⟩ := Table.mem_iff_exists.mp ((v.mem_counts_iff host).mpr ⟨hm, hq⟩)
    obtain ⟨priority, hpriority⟩ :=
      Table.mem_iff_exists.mp ((v.mem_priorities_iff host).mpr ⟨hm, hq⟩)
    exact ⟨⟨host, count, priority⟩, mem_eligible.mpr ⟨hx, hq, hcount, hpriority⟩, rfl⟩

/-- While a host is available, one may be chosen. -/
theorem select_ne_nil_of_available (v : p.Valid defaultPort) {k : HostKey}
    (h : p.Available excluding k) : p.select excluding ≠ [] := by
  obtain ⟨c, hc, -⟩ := v.exists_eligible_iff.mpr h
  exact select_ne_nil (List.ne_nil_of_mem hc) fun d hd =>
    (v.exists_eligible_iff.mp ⟨d, hd, rfl⟩).1

/-- While a host is available, one is reserved. -/
theorem reserve_of_available (v : p.Valid defaultPort) {k : HostKey}
    (h : p.Available excluding k) (pick : Nat) :
    ∃ host m, p.members[host]? = some m ∧ p.Available excluding host ∧
      p.reserve excluding pick = ((p.adjust host 1).1, some (host, m.addr)) := by
  obtain ⟨host, addr, hmem, hreserve⟩ :=
    reserve_of_select (v.select_ne_nil_of_available h) pick
  obtain ⟨hx, hs, m, hm, rfl⟩ := of_mem_select hmem
  simp only [isSelectable, Bool.and_eq_true, Bool.not_eq_true'] at hs
  exact ⟨host, m, hm, ⟨Table.mem_iff_exists.mpr ⟨m, hm⟩, hs.2, hx⟩, hreserve⟩

/-- Without an available host none is reserved. -/
theorem reserve_of_unavailable (v : p.Valid defaultPort)
    (h : ∀ host, ¬p.Available excluding host) (pick : Nat) :
    p.reserve excluding pick = (p, none) := by
  have heligible : p.eligible excluding = [] := List.eq_nil_iff_forall_not_mem.mpr fun c hc =>
    h c.host (v.exists_eligible_iff.mp ⟨c, hc, rfl⟩)
  simp [Pool.reserve, select_eq_nil heligible]

/-- The hosts of a valid pool that may be chosen are its members outside quarantine. -/
theorem isSelectable_iff (v : p.Valid defaultPort) {host : HostKey} :
    p.isSelectable host = true ↔ p.Available [] host := by
  simp only [isSelectable, Bool.and_eq_true, Bool.not_eq_true', Std.ExtTreeMap.contains_iff_mem,
    v.mem_counts_iff, v.mem_priorities_iff, Available, List.not_mem_nil, not_false_iff, and_true,
    and_self]
  exact ⟨fun h => h.1, fun h => ⟨h, h.2⟩⟩

end Valid

end Pool

end ConnectionRouter
