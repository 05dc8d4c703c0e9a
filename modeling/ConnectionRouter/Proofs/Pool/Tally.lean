import ConnectionRouter.Proofs.Cluster.Site
import ConnectionRouter.Proofs.Pool.Evenness
import ConnectionRouter.Proofs.Pool.Failures

/-!
# The tally of a cluster that stays as it is

A pool that knows a cluster that does not change keeps the members that accept out of quarantine and
counts their connections (`Site.Tallied`), whatever happens to the others: connections counted,
failures of members that refuse, and further answers. So whoever is chosen refuses, or is a least
loaded host of the best tier that accepts (`Site.Tallied.mem_front_of_select`).
-/

namespace ConnectionRouter

namespace Site

variable {c : Site}

/-- A pool that knows the members of a site, with the counts of those that accept. -/
structure Tallied (c : Site) (count : HostKey → Nat) (p : Pool) : Prop where
  valid : p.Valid c.settings.defaultPort
  members_eq : p.members = c.members
  /-- What the seed left open may have been settled by a member since. -/
  family : p.family = c.family ∨ p.family = some (c.family.getD .privateAddress)
  rank_eq : ∀ (k : HostKey) (priority : Priority), p.priorities[k]? = some priority →
    ∃ m, c.members[k]? = some m ∧ c.rank m = priority
  free : ∀ k, c.Good k → p.isQuarantined k = false
  count_eq : ∀ k, c.Good k → p.counts[k]? = some (count k)

namespace Tallied

variable {count count' : HostKey → Nat} {p : Pool} {host k : HostKey} {now : Instant}
  {refused : List HostKey}

/-- Only the counts of members that accept matter. -/
theorem congr (t : c.Tallied count p) (h : ∀ k, c.Good k → count k = count' k) :
    c.Tallied count' p where
  valid := t.valid
  members_eq := t.members_eq
  family := t.family
  rank_eq := t.rank_eq
  free := t.free
  count_eq k hk := (h k hk) ▸ t.count_eq k hk

theorem mem_counts (t : c.Tallied count p) (hk : c.Good k) : k ∈ p.counts :=
  Table.mem_iff_exists.mpr ⟨count k, t.count_eq k hk⟩

theorem priority_eq (t : c.Tallied count p) {m : PoolMember} (hm : c.members[k]? = some m)
    (ha : c.accepts m.addr = true) : p.priorities[k]? = some (c.rank m) := by
  have hk : c.Good k := ⟨m, hm, ha⟩
  have hmem := (t.valid.mem_priorities_iff k).mpr ((t.valid.mem_counts_iff k).mp (t.mem_counts hk))
  obtain ⟨priority, hp⟩ := Table.mem_iff_exists.mp hmem
  obtain ⟨m', hm', rfl⟩ := t.rank_eq k priority hp
  rw [hm] at hm'
  cases hm'
  exact hp

/-! ## What happens to the pool -/

theorem adjust (t : c.Tallied count p) (host : HostKey) (delta : Int) :
    c.Tallied (recount count host delta) (p.adjust host delta).1 where
  valid := t.valid.adjust host delta
  members_eq := (p.members_adjust host delta).trans t.members_eq
  family := by
    rw [Pool.family_adjust]
    exact t.family
  rank_eq := by
    rw [Pool.priorities_adjust]
    exact t.rank_eq
  free k hk := by
    rw [Pool.isQuarantined_adjust]
    exact t.free k hk
  count_eq k hk := by
    rw [Pool.getElem?_counts_adjust, t.count_eq k hk,
      t.valid.getElem?_stashed_of_mem_counts (t.mem_counts hk)]
    by_cases he : k = host
    · subst he
      simp [recount_self]
    · simp [recount_of_ne he, Ne.symm he]

/-- A member that refuses is counted for nothing. -/
theorem adjust_of_not_good (t : c.Tallied count p) (h : ¬c.Good host) (delta : Int) :
    c.Tallied count (p.adjust host delta).1 :=
  (t.adjust host delta).congr fun k hk => recount_of_ne (fun he : k = host => h (he ▸ hk)) delta

/-- A member that refuses fails. -/
theorem fail (t : c.Tallied count p) (h : ¬c.Good host) (now : Instant) :
    c.Tallied count (p.fail host now) := by
  have ht := t.adjust_of_not_good h (-1)
  have hne : ∀ k, c.Good k → ¬host = k := fun k hk he => h (he ▸ hk)
  refine ⟨(ht.valid.markFailed host now).forceRefresh, ht.members_eq, ht.family,
    fun k priority hp => ht.rank_eq k priority ?_, fun k hk => ?_, fun k hk => ?_⟩
  · have hp' : ((p.adjust host (-1)).1.markFailed host now).1.priorities[k]? = some priority := hp
    rw [Pool.getElem?_priorities_markFailed] at hp'
    split at hp'
    · cases hp'
    · exact hp'
  · show ((p.adjust host (-1)).1.markFailed host now).1.isQuarantined k = false
    rw [Pool.isQuarantined_markFailed, ht.free k hk]
    simpa using hne k hk
  · show ((p.adjust host (-1)).1.markFailed host now).1.counts[k]? = _
    rw [Pool.getElem?_counts_markFailed, if_neg (hne k hk)]
    exact ht.count_eq k hk

/-- After an answer hosts are ranked as the members that they are. -/
theorem rank_eq_apply {s : Snapshot} (hmembers : p.nextMembers s c.balancer.rules = c.members)
    {priority : Priority}
    (hp : (p.apply s c.balancer.rules now).1.priorities[k]? = some priority) :
    ∃ m, c.members[k]? = some m ∧ c.rank m = priority := by
  rw [Pool.getElem?_priorities_apply] at hp
  split at hp
  · cases hp
  · rw [hmembers] at hp
    obtain ⟨m, hm, rfl⟩ := Option.map_eq_some_iff.mp hp
    exact ⟨m, hm, rfl⟩

theorem mem_of_good (h : c.Good k) : k ∈ c.members := by
  obtain ⟨m, hm, -⟩ := h
  exact Table.mem_iff_exists.mpr ⟨m, hm⟩

/-- The members are told again. -/
theorem apply (t : c.Tallied count p) {s : Snapshot} (now : Instant)
    (hmembers : p.nextMembers s c.balancer.rules = c.members)
    (hfamily : p.family.or (decideFamily s) = c.family ∨
      p.family.or (decideFamily s) = some (c.family.getD .privateAddress)) :
    c.Tallied count (p.apply s c.balancer.rules now).1 where
  valid := t.valid.apply s c.balancer.rules now
  members_eq := hmembers
  family := by rwa [Pool.family_apply]
  rank_eq _ _ hp := rank_eq_apply hmembers hp
  free k hk := Pool.isQuarantined_apply_of_false (t.free k hk) s _ now
  count_eq k hk :=
    Pool.getElem?_counts_apply_of_tracked (hmembers ▸ mem_of_good hk) (t.count_eq k hk)

/-- The seed through which the router came tells the members. -/
theorem apply_gate (t : c.Tallied count p) {addr : HostAddr} (h : c.gate? = some addr)
    (now : Instant) :
    c.Tallied count (p.apply ⟨c.network.members, addr.host⟩ c.balancer.rules now).1 := by
  have hfamily : c.family = decideFamily ⟨c.network.members, addr.host⟩ := by simp [Site.family, h]
  refine t.apply now ?_ ?_
  · rw [Pool.nextMembers, c.members_eq h, ← hfamily]
    rcases t.family with hp | hp
    · rw [hp, Option.or_self]
      rfl
    · rw [hp]
      rfl
  · rw [← hfamily]
    rcases t.family with hp | hp
    · rw [hp, Option.or_self]
      exact .inl rfl
    · rw [hp]
      exact .inr rfl

/-- A member tells the members. -/
theorem apply_member (t : c.Tallied count p) {m : PoolMember} (h : c.members[k]? = some m)
    (now : Instant) :
    c.Tallied count (p.apply ⟨c.network.members, m.addr.host⟩ c.balancer.rules now).1 := by
  obtain ⟨addr, haddr⟩ : ∃ addr, c.gate? = some addr := by
    refine Option.ne_none_iff_exists'.mp fun hn => ?_
    simp [Site.members, hn] at h
  have hfamily : c.family = decideFamily ⟨c.network.members, addr.host⟩ := by
    simp [Site.family, haddr]
  have hlisted : c.members = listing c.network.members (c.family.getD .privateAddress)
      c.balancer.rules.defaultPort := by
    rw [c.members_eq haddr, ← hfamily]
    rfl
  have hget : p.family.getD .privateAddress = c.family.getD .privateAddress := by
    rcases t.family with hp | hp <;> rw [hp]
    rfl
  refine t.apply now ?_ ?_
  · rw [← t.members_eq] at h hlisted
    rw [Pool.nextMembers_of_member (by rw [hget]; exact hlisted) h, t.members_eq]
  · cases hp : p.family with
    | some family =>
      have hsettled := t.family
      rwa [hp] at hsettled
    | none =>
      -- the member is known by its private address, and that settles the family
      have hnone : c.family.getD .privateAddress = .privateAddress := by rw [← hget, hp]; rfl
      rw [hlisted, hnone] at h
      obtain ⟨m', hm', ha, -⟩ := address_of_listing h
      have hdecided : decideFamily ⟨c.network.members, m.addr.host⟩ = some .privateAddress :=
        decideFamily_eq_some_iff.mpr (.askedPrivate hm' ha)
      rw [Option.none_or, hdecided, hnone]
      exact .inr rfl

end Tallied

/-- The first time that the members are told. -/
theorem tallied_first {addr : HostAddr} (h : c.gate? = some addr) (now : Instant) :
    c.Tallied (fun _ => 0)
      (({} : Pool).apply ⟨c.network.members, addr.host⟩ c.balancer.rules now).1 := by
  have hfamily : c.family = decideFamily ⟨c.network.members, addr.host⟩ := by simp [Site.family, h]
  have hmembers : ({} : Pool).nextMembers ⟨c.network.members, addr.host⟩ c.balancer.rules =
      c.members := by
    rw [c.members_eq h]
    rfl
  have hfree : ∀ k : HostKey, ({} : Pool).isQuarantined k = false := fun k => by
    simp [Pool.isQuarantined, Quarantine.contains_eq]
  have hempty : ({} : Pool).Valid c.settings.defaultPort := Pool.Valid.empty
  refine ⟨hempty.apply _ c.balancer.rules now, hmembers, .inl ?_,
    fun _ _ hp => Tallied.rank_eq_apply hmembers hp,
    fun k _ => Pool.isQuarantined_apply_of_false (hfree k) _ _ now, fun k hk => ?_⟩
  · rw [Pool.family_apply, hfamily]
    rfl
  · rw [Pool.getElem?_counts_apply_of_mem _ _ _ _ _ (hmembers ▸ Tallied.mem_of_good hk),
      Pool.isQuarantined_apply_of_false (hfree k)]
    simp

namespace Tallied

variable {count : HostKey → Nat} {p : Pool} {host k : HostKey} {refused : List HostKey}

/-! ## Who is chosen -/

theorem mem_eligible (t : c.Tallied count p) {m : PoolMember} (hm : c.members[k]? = some m)
    (ha : c.accepts m.addr = true) (hr : ∀ k ∈ refused, ¬c.Good k) :
    ⟨k, count k, c.rank m⟩ ∈ p.eligible refused := by
  have hk : c.Good k := ⟨m, hm, ha⟩
  exact Pool.mem_eligible.mpr ⟨fun hmem => hr k hmem hk, t.free k hk, t.count_eq k hk,
    t.priority_eq hm ha⟩

/-- Somebody is chosen as long as a member accepts. -/
theorem select_ne_nil (t : c.Tallied count p) (hk : c.Good k) (hr : ∀ k ∈ refused, ¬c.Good k) :
    p.select refused ≠ [] := by
  obtain ⟨m, hm, ha⟩ := hk
  refine Pool.select_ne_nil (List.ne_nil_of_mem (t.mem_eligible hm ha hr)) fun d hd => ?_
  exact (t.valid.exists_eligible_iff.mp ⟨d, hd, rfl⟩).1

/-- Whoever is chosen and accepts is a least loaded host of the best tier that accepts. -/
theorem mem_front_of_select (t : c.Tallied count p) {addr : HostAddr}
    (h : (host, addr) ∈ p.select refused) (ha : c.accepts addr = true)
    (hr : ∀ k ∈ refused, ¬c.Good k) :
    host ∈ c.front ∧ ∀ k ∈ c.front, count host ≤ count k := by
  obtain ⟨d, m, rfl, hm, rfl, hbest⟩ := Pool.best_of_mem_select h
  rw [t.members_eq] at hm
  obtain ⟨-, -, hcount, hpriority⟩ := Pool.mem_eligible.mp hbest.mem
  rw [t.count_eq d.host ⟨m, hm, ha⟩] at hcount
  rw [t.priority_eq hm ha] at hpriority
  have hfront : d.host ∈ c.front := mem_front.mpr ⟨m, ⟨hm, ha⟩, fun k m' hm' ha' => by
    have hle := hbest.priority_le _ (t.mem_eligible hm' ha' hr)
    rwa [← Option.some.inj hpriority] at hle⟩
  refine ⟨hfront, fun k hk => ?_⟩
  obtain ⟨m', ⟨hm', ha'⟩, hfirst⟩ := mem_front.mp hk
  have hsame : c.rank m' = d.priority := by
    rw [← Option.some.inj hpriority]
    refine Std.IsPartialOrder.le_antisymm _ _ (hfirst _ m hm ha) ?_
    obtain ⟨m'', ⟨hm'', -⟩, hfirst'⟩ := mem_front.mp hfront
    rw [hm] at hm''
    cases hm''
    exact hfirst' k m' hm' ha'
  have hle := hbest.count_le _ (t.mem_eligible hm' ha' hr) hsame
  rwa [← Option.some.inj hcount] at hle

/-- A member that accepts is a candidate. -/
theorem isSelectable (t : c.Tallied count p) (hk : c.Good k) : p.isSelectable k = true := by
  obtain ⟨m, hm, ha⟩ := hk
  have hg : c.Good k := ⟨m, hm, ha⟩
  simp [Pool.isSelectable, Std.ExtTreeMap.contains_eq_isSome_getElem?, t.count_eq k hg,
    t.priority_eq hm ha, t.free k hg]

end Tallied

end Site

end ConnectionRouter
