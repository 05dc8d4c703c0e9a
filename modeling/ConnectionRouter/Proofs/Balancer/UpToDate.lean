import ConnectionRouter.Proofs.Balancer.Validity
import ConnectionRouter.Proofs.Pool.Eligibility
import ConnectionRouter.Proofs.Pool.Listing

/-!
# Balancers that are up to date

A balancer is up to date with an answer of its cluster (`Balancer.UpToDate`) if its members are
those of the answer, all of them can be reached, and whoever is in quarantine has been there for
longer than is asked for. It stays so while connections are counted and while the same answer comes
again (`UpToDate.applySnapshot`), whichever host gives it, although the answer may settle by which
addresses the members are reached. After such an answer nobody is in quarantine.
-/

namespace ConnectionRouter

/-! ## Further answers -/

/-- When a member answers through the address that it is known by, the members stay. -/
theorem Pool.nextMembers_of_member {p : Pool} {rules : SnapshotRules} {answer : List Member}
    (hl : p.members = listing answer (p.family.getD .privateAddress) rules.defaultPort)
    {k : HostKey} {m : PoolMember} (h : p.members[k]? = some m) :
    p.nextMembers ⟨answer, m.addr.host⟩ rules = p.members := by
  rw [hl] at h ⊢
  rw [Pool.nextMembers]
  cases hf : p.family with
  | some family => rfl
  | none =>
    rw [hf] at h
    obtain ⟨m', hm', ha, -⟩ := address_of_listing h
    have hdecided : decideFamily ⟨answer, m.addr.host⟩ = some .privateAddress :=
      decideFamily_eq_some_iff.mpr (.askedPrivate hm' ha)
    rw [hdecided]
    rfl

/-! ## Up to date -/

namespace Balancer

/-- The members of a balancer with `ranks` priorities are those of an answer, and nobody has to stay
in quarantine. -/
structure UpToDate (answer : List Member) (reachable : HostAddr → Prop) (ranks : Nat)
    (now : Instant) (b : Balancer) : Prop where
  valid : b.Valid
  hasSnapshot : b.pool.hasSnapshot = true
  listed : b.pool.members =
    listing answer (b.pool.family.getD .privateAddress) b.settings.defaultPort
  nonempty : b.pool.members ≠ ∅
  expired : ∀ (host : HostKey) (at_ : Instant), b.pool.quarantine.since[host]? = some at_ →
    Quarantine.expired b.settings.failedHostTtl now at_ = true
  /-- Whichever family of addresses is settled on, the members are reached by it. -/
  reachable : ∀ family, b.pool.family = none ∨ b.pool.family = some family →
    ∀ (k : HostKey) (m : PoolMember),
      (listing answer family b.settings.defaultPort)[k]? = some m → reachable m.addr
  rankCount_eq : b.rankCount = ranks

namespace UpToDate

variable {answer : List Member} {reachable : HostAddr → Prop} {ranks : Nat} {now now' : Instant}
  {b : Balancer}

/-- Time only makes stays longer. -/
theorem later (u : b.UpToDate answer reachable ranks now) (h : now ≤ now') :
    b.UpToDate answer reachable ranks now' where
  valid := u.valid
  hasSnapshot := u.hasSnapshot
  listed := u.listed
  nonempty := u.nonempty
  expired host at_ hs := by
    have he := u.expired host at_ hs
    rw [Quarantine.expired, decide_eq_true_iff] at he ⊢
    exact Nat.lt_of_lt_of_le he (Nat.sub_le_sub_right h at_)
  reachable := u.reachable
  rankCount_eq := u.rankCount_eq

theorem withTurn (u : b.UpToDate answer reachable ranks now) (turn : Turn) :
    UpToDate answer reachable ranks now { b with turn := turn } :=
  ⟨u.valid, u.hasSnapshot, u.listed, u.nonempty, u.expired, u.reachable, u.rankCount_eq⟩

/-- Connections are counted. -/
theorem adjust (u : b.UpToDate answer reachable ranks now) (host : HostKey) (delta : Int)
    (taken returned : Nat) : UpToDate answer reachable ranks now
      { b with pool := (b.pool.adjust host delta).1, taken := taken, returned := returned } := by
  have hv : (b.pool.adjust host delta).1.Valid b.settings.defaultPort :=
    Pool.Valid.adjust u.valid host delta
  have he := b.pool.adjust_eq host delta
  refine ⟨hv, ?_, ?_, ?_, ?_, ?_, u.rankCount_eq⟩ <;> dsimp only <;> rw [he]
  · exact u.hasSnapshot
  · exact u.listed
  · exact u.nonempty
  · exact u.expired
  · exact u.reachable

/-- The addresses of the members in force can be reached. -/
theorem reachable_member (u : b.UpToDate answer reachable ranks now) {k : HostKey} {m : PoolMember}
    (h : b.pool.members[k]? = some m) : reachable m.addr := by
  rw [u.listed] at h
  cases hf : b.pool.family with
  | none =>
    rw [hf] at h
    exact u.reachable .privateAddress (.inl hf) k m h
  | some family =>
    rw [hf] at h
    exact u.reachable family (.inr hf) k m h

/-- Some member is in force. -/
theorem exists_member (u : b.UpToDate answer reachable ranks now) :
    ∃ (k : HostKey) (m : PoolMember), b.pool.members[k]? = some m := by
  refine Classical.byContradiction fun hn => u.nonempty (Std.ExtTreeMap.ext_getElem? fun k => ?_)
  cases h : b.pool.members[k]? with
  | none => simp
  | some m => exact absurd ⟨k, m, h⟩ hn

/-- After a further answer members are listed. -/
theorem listing_ne_empty (u : b.UpToDate answer reachable ranks now) (control : String) :
    listing answer ((b.pool.family.or (decideFamily ⟨answer, control⟩)).getD .privateAddress)
      b.settings.defaultPort ≠ ∅ := by
  have hold := u.nonempty
  rw [u.listed] at hold
  cases hf : b.pool.family with
  | some family => rwa [hf] at hold
  | none =>
    rw [hf] at hold
    cases hd : decideFamily ⟨answer, control⟩ with
    | none => exact hold
    | some family =>
      cases family with
      | privateAddress => exact hold
      | publicAddress =>
        -- the control host itself is reached by its public address
        cases decideFamily_eq_some_iff.mp hd with
        | askedPublic _ hm hp => exact ConnectionRouter.listing_ne_empty hm hp

/-- After a further answer nobody is in quarantine. -/
theorem quarantine_applySnapshot (u : b.UpToDate answer reachable ranks now) (s : Snapshot)
    (host : HostKey) : (b.applySnapshot s now).pool.quarantine.since[host]? = none := by
  have hq : (b.applySnapshot s now).pool.quarantine =
      (b.pool.quarantine.release b.settings.failedHostTtl now).1 := Pool.quarantine_apply ..
  rw [hq, Quarantine.getElem?_since_release, Option.filter_eq_none_iff]
  intro at_ hat
  simp [u.expired host at_ hat]

/-- A balancer stays up to date when the same answer comes again. -/
theorem applySnapshot (u : b.UpToDate answer reachable ranks now) (control : String) :
    (b.applySnapshot ⟨answer, control⟩ now).UpToDate answer reachable ranks now := by
  have hfamily : (b.applySnapshot ⟨answer, control⟩ now).pool.family =
      b.pool.family.or (decideFamily ⟨answer, control⟩) := Pool.family_apply ..
  refine ⟨u.valid.applySnapshot _ now, rfl, ?_, u.listing_ne_empty control, fun host at_ hs => ?_,
    fun family hf => u.reachable family ?_, u.rankCount_eq⟩
  · rw [hfamily]
    rfl
  · rw [u.quarantine_applySnapshot] at hs
    cases hs
  · rw [hfamily] at hf
    cases hb : b.pool.family with
    | none => exact .inl rfl
    | some f => simpa [hb] using hf

/-- After a further answer a host can be chosen, and so can every member. -/
theorem available_applySnapshot (u : b.UpToDate answer reachable ranks now) (s : Snapshot)
    {host : HostKey} (h : host ∈ (b.applySnapshot s now).pool.members) :
    (b.applySnapshot s now).pool.Available [] host := by
  refine ⟨h, ?_, List.not_mem_nil⟩
  rw [Pool.isQuarantined, Quarantine.contains_eq, u.quarantine_applySnapshot]
  rfl

/-- When a member answers through the address that it is known by, the members stay. -/
theorem members_applySnapshot (u : b.UpToDate answer reachable ranks now) {k : HostKey}
    {m : PoolMember} (h : b.pool.members[k]? = some m) :
    (b.applySnapshot ⟨answer, m.addr.host⟩ now).pool.members = b.pool.members := by
  show b.pool.nextMembers ⟨answer, m.addr.host⟩ b.rules = b.pool.members
  exact Pool.nextMembers_of_member u.listed h

end UpToDate

end Balancer

end ConnectionRouter
