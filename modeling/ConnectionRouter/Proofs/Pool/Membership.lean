import ConnectionRouter.Proofs.Pool.Listing
import ConnectionRouter.Proofs.Pool.Ruled

/-!
# Family and members over a run

A pool decides once by which family of addresses it reaches its members. Only snapshots are asked,
in order, and the first that decides is obeyed for good (`RuledPool.family_run`): what later
snapshots say, or whom they were asked of, changes nothing. After each snapshot the members are
those of that snapshot alone, read by the family in force, the last one under each key
(`RuledPool.run_membership`).
-/

namespace ConnectionRouter

/-- The snapshot of an event, if it is one. -/
def PoolEvent.snapshot? : PoolEvent → Option Snapshot
  | .snapshot s _ => some s
  | _ => none

/-- The snapshots of some events, in order. -/
def snapshotsOf (events : List (SnapshotRules × PoolEvent)) : List Snapshot :=
  events.filterMap (·.2.snapshot?)

theorem snapshotsOf_append (events later : List (SnapshotRules × PoolEvent)) :
    snapshotsOf (events ++ later) = snapshotsOf events ++ snapshotsOf later :=
  List.filterMap_append

/-- The decision of the first of some snapshots that decides. -/
def FirstDecision (snapshots : List Snapshot) (family : AddressFamily) : Prop :=
  ∃ before s after, snapshots = before ++ s :: after ∧ (∀ t ∈ before, ∀ f, ¬t.Decides f) ∧
    s.Decides family

theorem findSome?_decideFamily_iff {snapshots : List Snapshot} {family : AddressFamily} :
    snapshots.findSome? decideFamily = some family ↔ FirstDecision snapshots family := by
  rw [List.findSome?_eq_some_iff]
  simp only [FirstDecision, decideFamily_eq_some_iff, Option.eq_none_iff_forall_ne_some, ne_eq,
    and_comm]

namespace Pool

@[simp] theorem family_reserve (p : Pool) (excluding : List HostKey) (pick : Nat) :
    (p.reserve excluding pick).1.family = p.family := by
  rcases p.reserve_cases excluding pick with he | ⟨host, addr, -, he⟩
  · rw [he]
  · rw [he]
    exact family_adjust p host 1

/-- Only a snapshot is asked, and only while the family is open. -/
theorem family_after (rules : SnapshotRules) (p : Pool) (e : PoolEvent) :
    (p.after rules e).family = p.family.or (e.snapshot?.bind decideFamily) := by
  cases e <;> simp [after, PoolEvent.snapshot?, markFailed, forceRefresh]

/-- Members with pairwise different keys may be told in any order. -/
theorem apply_perm (p : Pool) {s : Snapshot} {members' : List Member}
    (hperm : members'.Perm s.members) (rules : SnapshotRules) (now : Instant)
    (h : (keysOf ((p.apply s rules now).1.family.getD .privateAddress) rules.defaultPort
      s.members).Nodup) :
    p.apply ⟨members', s.control⟩ rules now = p.apply s rules now := by
  rw [family_apply] at h
  have hnext : p.nextMembers ⟨members', s.control⟩ rules = p.nextMembers s rules := by
    rw [nextMembers, nextMembers, decideFamily_perm hperm]
    exact listing_perm hperm h
  simp only [apply, beforeAdmission, hnext, decideFamily_perm hperm]

end Pool

namespace RuledPool

/-- **The family is the decision of the first snapshot that decides.** -/
theorem family_run (events : List (SnapshotRules × PoolEvent)) :
    (run events).pool.family = (snapshotsOf events).findSome? decideFamily := by
  induction events using List.reverseRecOn with
  | nil => rfl
  | append_singleton events e ih =>
    rw [run_concat, after, Pool.family_after, ih, snapshotsOf_append, List.findSome?_append]
    cases he : e.2.snapshot? <;> simp [snapshotsOf, he]

theorem family_run_append {events : List (SnapshotRules × PoolEvent)} {family : AddressFamily}
    (h : (run events).pool.family = some family) (later : List (SnapshotRules × PoolEvent)) :
    (run (events ++ later)).pool.family = some family := by
  rw [family_run] at h
  rw [family_run, snapshotsOf_append, List.findSome?_append, h, Option.some_or]

/-- **Family and members over a run.** The first snapshot that decides on the family decides for
good. After a snapshot exactly those of its members that have an address in the family in force
(the private one while it is open) are listed, the last one under each key, and members with
pairwise different keys may be told in any order. -/
theorem run_membership (events : List (SnapshotRules × PoolEvent)) :
    (∀ family, (run events).pool.family = some family ↔
        FirstDecision (snapshotsOf events) family) ∧
      (∀ family later, (run events).pool.family = some family →
        (run (events ++ later)).pool.family = some family) ∧
      ∀ (rules : SnapshotRules) (s : Snapshot) (now : Instant),
        let next := (run (events ++ [(rules, .snapshot s now)])).pool
        let family := next.family.getD .privateAddress
        (∀ (k : HostKey) (pm : PoolMember), next.members[k]? = some pm ↔
            ∃ m, IsLastUnder family rules.defaultPort s.members k m ∧
              m.listed? family rules.defaultPort = some pm) ∧
          ∀ members', members'.Perm s.members →
            (keysOf family rules.defaultPort s.members).Nodup →
              (run events).pool.apply ⟨members', s.control⟩ rules now =
                (run events).pool.apply s rules now := by
  refine ⟨fun family => ?_, fun family later h => family_run_append h later,
    fun rules s now => ?_⟩
  · rw [family_run]
    exact findSome?_decideFamily_iff
  · rw [run_concat]
    intro next family
    have hmembers : next.members = listing s.members family rules.defaultPort := by
      simp only [next, family, after, Pool.after, Pool.members_apply, Pool.family_apply,
        Pool.nextMembers]
    refine ⟨fun k pm => ?_, fun members' hperm hkeys => ?_⟩
    · rw [hmembers]
      exact getElem?_listing s.members k pm
    · exact (run events).pool.apply_perm hperm rules now hkeys

/-- A member with a private and a public address. -/
def twoWays (host publicIp zone : String) : Member where
  host := some host
  publicIp := some publicIp
  port := none
  placement := ⟨"aws", "west", zone⟩

/-- Two members, as the host `control` tells them. -/
def toldBy (control : String) : Snapshot :=
  ⟨[twoWays "x" "a" "1", twoWays "y" "b" "2"], control⟩

/-- Nobody knows the host that was asked first; the next one has a public address. -/
def settledLate : List (SnapshotRules × PoolEvent) :=
  [({}, .snapshot (toldBy "gate") 0), ({}, .snapshot (toldBy "b") 1)]

/-- Asked of a private address: two members with one public address, and one with none. -/
def contrary : Snapshot := ⟨[twoWays "x" "a" "1", .ofHost "z", twoWays "y" "a" "2"], "x"⟩

/-- The family stays public, whatever the third snapshot says. Of its members with one key the
later is listed, and the one without a public address is not. -/
theorem run_membership_settledLate :
    let next := (run (settledLate ++ [⟨{}, .snapshot contrary 2⟩])).pool
    next.family = some .publicAddress ∧
      next.members["a"]? = some ⟨⟨"a", 5433⟩, ⟨"aws", "west", "2"⟩⟩ ∧
      next.members["z"]? = none ∧
      (run settledLate).pool.apply ⟨(toldBy "x").members.reverse, "x"⟩ {} 2 =
        (run settledLate).pool.apply (toldBy "x") {} 2 := by
  obtain ⟨hfirst, hstays, hread⟩ := run_membership settledLate
  have hopen : ∀ f, ¬(toldBy "gate").Decides f := by
    intro f hd
    rw [← decideFamily_eq_some_iff, show decideFamily (toldBy "gate") = none by decide +kernel]
      at hd
    cases hd
  have hdecides : (toldBy "b").Decides .publicAddress :=
    decideFamily_eq_some_iff.mp (by decide +kernel)
  have hpublic : (run settledLate).pool.family = some .publicAddress :=
    (hfirst .publicAddress).mpr ⟨[toldBy "gate"], toldBy "b", [], rfl,
      fun t ht => List.mem_singleton.mp ht ▸ hopen, hdecides⟩
  have hnext := hstays .publicAddress [({}, .snapshot contrary 2)] hpublic
  have hnext' := hstays .publicAddress [({}, .snapshot (toldBy "x") 2)] hpublic
  obtain ⟨hmembers, -⟩ := hread {} contrary 2
  obtain ⟨-, hperm⟩ := hread {} (toldBy "x") 2
  simp only [hnext, Option.getD_some] at hmembers
  simp only [hnext', Option.getD_some] at hperm
  refine ⟨hnext, (hmembers "a" _).mpr ⟨twoWays "y" "a" "2",
      ⟨[twoWays "x" "a" "1", .ofHost "z"], [], rfl, by decide +kernel, List.not_mem_nil⟩, rfl⟩,
    Option.eq_none_iff_forall_ne_some.mpr fun pm hz => ?_,
    hperm _ (List.reverse_perm _) (by decide +kernel)⟩
  obtain ⟨m, hlast, -⟩ := (hmembers "z" pm).mp hz
  exact absurd hlast.mem_keysOf (by decide +kernel)

end RuledPool

end ConnectionRouter
