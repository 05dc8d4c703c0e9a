import ConnectionRouter.Pool.Snapshot
import Mathlib.Data.List.Induction

/-!
# How a snapshot is read

A snapshot names its members and the host that was asked. Which addresses the members go by is
decided from both (`Snapshot.Decides`); then every member that has an address in the family stands
under the key of that address, and of several with one key the last (`getElem?_listing`).

So the order of the members tells only which of two with one key is meant: where the keys are
pairwise different it does not matter (`listing_perm`), and it never matters to the decision
(`decideFamily_perm`).
-/

namespace ConnectionRouter

/-! ## Members by key -/

/-- What a member is listed as: its address in the family, on its own port or else the default one,
and its place. -/
def Member.listed? (family : AddressFamily) (defaultPort : UInt16) (m : Member) :
    Option PoolMember :=
  (m.address family).map fun host => ⟨⟨host, m.port.getD defaultPort⟩, m.placement⟩

/-- The key under which a member is listed, if it has an address in the family. -/
def Member.key? (family : AddressFamily) (defaultPort : UInt16) (m : Member) : Option HostKey :=
  (m.listed? family defaultPort).map (·.addr.key defaultPort)

/-- The keys of the members that have an address in the family. -/
def keysOf (family : AddressFamily) (defaultPort : UInt16) (members : List Member) :
    List HostKey :=
  members.filterMap (·.key? family defaultPort)

/-- The last of some members that has a key. -/
def IsLastUnder (family : AddressFamily) (defaultPort : UInt16) (members : List Member)
    (k : HostKey) (m : Member) : Prop :=
  ∃ before after, members = before ++ m :: after ∧ m.key? family defaultPort = some k ∧
    k ∉ keysOf family defaultPort after

section Listing

variable {family : AddressFamily} {port : UInt16} {members : List Member} {k : HostKey}

theorem mem_keysOf : k ∈ keysOf family port members ↔ ∃ m ∈ members, m.key? family port = some k :=
  List.mem_filterMap

theorem getElem?_listMember (t : Table PoolMember) (m : Member) (k : HostKey) :
    (listMember family port t m)[k]? =
      if m.key? family port = some k then m.listed? family port else t[k]? := by
  unfold listMember Member.key? Member.listed?
  cases m.address family with
  | none => simp
  | some host => simp [Std.ExtTreeMap.getElem?_insert]

theorem listing_concat (members : List Member) (m : Member) :
    listing (members ++ [m]) family port = listMember family port (listing members family port) m := by
  rw [listing, List.foldl_append]
  rfl

theorem IsLastUnder.mem {m : Member} (h : IsLastUnder family port members k m) : m ∈ members := by
  obtain ⟨before, after, rfl, -⟩ := h
  exact List.mem_append_right before List.mem_cons_self

theorem IsLastUnder.key?_eq {m : Member} (h : IsLastUnder family port members k m) :
    m.key? family port = some k := by
  obtain ⟨-, -, -, hk, -⟩ := h
  exact hk

theorem IsLastUnder.mem_keysOf {m : Member} (h : IsLastUnder family port members k m) :
    k ∈ keysOf family port members :=
  ConnectionRouter.mem_keysOf.mpr ⟨m, h.mem, h.key?_eq⟩

theorem isLastUnder_iff {m : Member} : IsLastUnder family port members k m ↔
    members.reverse.find? (·.key? family port = some k) = some m := by
  rw [List.find?_eq_some_iff_append]
  constructor
  · rintro ⟨before, after, rfl, hk, hlast⟩
    refine ⟨by simpa using hk, after.reverse, before.reverse, by simp, fun m' hm' => ?_⟩
    have hne : m'.key? family port ≠ some k := fun h =>
      hlast (mem_keysOf.mpr ⟨m', List.mem_reverse.mp hm', h⟩)
    simpa using hne
  · rintro ⟨hk, after, before, he, hlast⟩
    refine ⟨before.reverse, after.reverse, ?_, by simpa using hk, fun hmem => ?_⟩
    · rw [← members.reverse_reverse, he]
      simp
    · obtain ⟨m', hm', h⟩ := mem_keysOf.mp hmem
      simpa [h] using hlast m' (List.mem_reverse.mp hm')

/-- **Under a key stands the last member that has it.** -/
theorem getElem?_listing (members : List Member) (k : HostKey) (pm : PoolMember) :
    (listing members family port)[k]? = some pm ↔
      ∃ m, IsLastUnder family port members k m ∧ m.listed? family port = some pm := by
  suffices h : (listing members family port)[k]? =
      (members.reverse.find? (·.key? family port = some k)).bind (·.listed? family port) by
    simp only [h, Option.bind_eq_some_iff, isLastUnder_iff]
  induction members using List.reverseRecOn with
  | nil => simp [listing]
  | append_singleton members m ih =>
    rw [listing_concat, getElem?_listMember, ih, List.reverse_concat, List.find?_cons]
    by_cases hk : m.key? family port = some k <;> simp [hk]

/-- A host is listed exactly if a member has its key. -/
theorem mem_listing : k ∈ listing members family port ↔ k ∈ keysOf family port members := by
  induction members using List.reverseRecOn with
  | nil => simp [listing, keysOf]
  | append_singleton members m ih =>
    rw [Std.ExtTreeMap.mem_iff_isSome_getElem?] at ih ⊢
    rw [listing_concat, getElem?_listMember, keysOf, List.filterMap_append, List.mem_append,
      ← keysOf, ← ih]
    by_cases hk : m.key? family port = some k
    · obtain ⟨pm, hpm, -⟩ := Option.map_eq_some_iff.mp hk
      simp [hk, hpm]
    · simp [hk]

theorem Member.key?_of_address {m : Member} {host : String} (h : m.address family = some host) :
    m.key? family port = some (HostAddr.key ⟨host, m.port.getD port⟩ port) := by
  rw [key?, listed?, h]
  rfl

/-- A member with an address in the family is listed. -/
theorem listing_ne_empty {m : Member} (hm : m ∈ members) {host : String}
    (ha : m.address family = some host) : listing members family port ≠ ∅ := by
  intro he
  have hkey : m.key? family port = _ := m.key?_of_address ha
  have hmem := mem_listing.mpr (mem_keysOf.mpr ⟨m, hm, hkey⟩)
  rw [he] at hmem
  exact Std.ExtTreeMap.not_mem_empty hmem

/-- Whoever is listed is reached by an address of a member, and stands where that member does. -/
theorem address_of_listing {pm : PoolMember} (h : (listing members family port)[k]? = some pm) :
    ∃ m ∈ members, m.address family = some pm.addr.host ∧ m.placement = pm.placement := by
  obtain ⟨m, hlast, hm⟩ := (getElem?_listing members k pm).mp h
  obtain ⟨host, ha, rfl⟩ := Option.map_eq_some_iff.mp hm
  exact ⟨m, hlast.mem, ha, rfl⟩

theorem size_listing_le (members : List Member) (family : AddressFamily) (port : UInt16) :
    (listing members family port).size ≤ members.length := by
  induction members using List.reverseRecOn with
  | nil => exact Nat.le_refl 0
  | append_singleton members m ih =>
    have hstep : (listMember family port (listing members family port) m).size ≤
        (listing members family port).size + 1 := by
      unfold listMember
      split
      · exact Nat.le_succ _
      · exact Std.ExtTreeMap.size_insert_le
    rw [listing_concat, List.length_append, List.length_singleton]
    omega

/-- Where no two members have one key, every member that has an address is listed. -/
theorem getElem?_listing_of_nodup (h : (keysOf family port members).Nodup) (k : HostKey)
    (pm : PoolMember) : (listing members family port)[k]? = some pm ↔
      ∃ m ∈ members, m.key? family port = some k ∧ m.listed? family port = some pm := by
  rw [getElem?_listing]
  constructor
  · rintro ⟨m, hlast, hm⟩
    exact ⟨m, hlast.mem, hlast.key?_eq, hm⟩
  · rintro ⟨m, hmem, hk, hm⟩
    obtain ⟨before, after, rfl⟩ := List.append_of_mem hmem
    refine ⟨m, ⟨before, after, rfl, hk, fun hlater => ?_⟩, hm⟩
    rw [keysOf, List.filterMap_append, List.filterMap_cons_some hk] at h
    exact (List.nodup_cons.mp (List.nodup_append.mp h).2.1).1 hlater

/-- **Where no two members have one key, their order does not matter.** -/
theorem listing_perm {members' : List Member} (hperm : members'.Perm members)
    (h : (keysOf family port members).Nodup) :
    listing members' family port = listing members family port := by
  have h' : (keysOf family port members').Nodup := (hperm.filterMap _).nodup_iff.mpr h
  refine Std.ExtTreeMap.ext_getElem? fun k => Option.ext fun pm => ?_
  rw [getElem?_listing_of_nodup h, getElem?_listing_of_nodup h']
  simp only [hperm.mem_iff]

end Listing

/-! ## The decision on a family -/

/-- A snapshot decides on a family of addresses. -/
inductive Snapshot.Decides (s : Snapshot) : AddressFamily → Prop
  /-- The host that was asked is a private address of a member. -/
  | askedPrivate {m : Member} (hm : m ∈ s.members) (h : m.host = some s.control) :
    s.Decides .privateAddress
  /-- It is none, but a public address of a member. -/
  | askedPublic (hnone : ∀ m ∈ s.members, m.host ≠ some s.control) {m : Member}
    (hm : m ∈ s.members) (h : m.publicIp = some s.control) : s.Decides .publicAddress
  /-- No member has a public address. -/
  | nobodyPublic (h : ∀ m ∈ s.members, m.publicIp = none) : s.Decides .privateAddress

theorem decideFamily_eq_some_iff {s : Snapshot} {family : AddressFamily} :
    decideFamily s = some family ↔ s.Decides family := by
  unfold decideFamily
  constructor
  · intro h
    split at h
    · rename_i hprivate
      obtain ⟨m, hm, hh⟩ := List.any_eq_true.mp hprivate
      cases h
      exact .askedPrivate hm (by simpa using hh)
    · rename_i hprivate
      split at h
      · rename_i hpublic
        obtain ⟨m, hm, hh⟩ := List.any_eq_true.mp hpublic
        cases h
        exact .askedPublic (by simpa using hprivate) hm (by simpa using hh)
      · split at h
        · rename_i hnone
          cases h
          exact .nobodyPublic (by simpa using hnone)
        · cases h
  · intro h
    cases h with
    | askedPrivate hm hh =>
      rw [if_pos (List.any_eq_true.mpr ⟨_, hm, by simpa using hh⟩)]
    | askedPublic hnone hm hh =>
      rw [if_neg (by simpa using hnone), if_pos (List.any_eq_true.mpr ⟨_, hm, by simpa using hh⟩)]
    | nobodyPublic hnone =>
      split
      · rfl
      · rw [if_neg (by simpa using fun m hm => by simp [hnone m hm]),
          if_pos (by simpa using hnone)]

theorem decideFamily_perm {s : Snapshot} {members' : List Member}
    (hperm : members'.Perm s.members) : decideFamily ⟨members', s.control⟩ = decideFamily s := by
  simp only [decideFamily, hperm.any_eq, hperm.all_eq]

end ConnectionRouter
