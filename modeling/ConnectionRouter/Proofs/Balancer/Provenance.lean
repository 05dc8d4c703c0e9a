import ConnectionRouter.Proofs.Balancer.Candidates
import ConnectionRouter.Proofs.Balancer.RefreshProtocol
import ConnectionRouter.Proofs.Pool.Listing
import ConnectionRouter.Proofs.Topology.Rows
import Mathlib.Data.List.Induction

/-!
# Where the addresses of a balancer come from

Whatever happens to a balancer, its members are the listing of the rows that were applied last
(`Crowd.Listed`, `Crowd.listed_run`): failures, leases and forced refreshes leave members and family
alone. So every address that it knows, chooses or asks beyond the seeds is said by one of those rows
(`Crowd.run_located`), in the column of the family in force.
-/

namespace ConnectionRouter

/-! ## The address of a row -/

/-- The column that holds the addresses of a family. -/
def AddressFamily.column : AddressFamily → String
  | .privateAddress => "host"
  | .publicAddress => "public_ip"

/-- A row says an address: the host stands in the column of the family, and the port is the one that
the row names, or else the default one. -/
structure Row.Locates (row : Row) (family : AddressFamily) (defaultPort : UInt16)
    (addr : HostAddr) : Prop where
  host : row.Says family.column addr.host
  port : row.NamesPort addr.port ∨ (∀ port, ¬row.NamesPort port) ∧ addr.port = defaultPort

theorem Row.Describes.says_address {row : Row} {m : Member} (h : row.Describes m)
    {family : AddressFamily} {host : String} (ha : m.address family = some host) :
    row.Says family.column host := by
  cases family with
  | privateAddress => exact (h.host host).mp ha
  | publicAddress => exact (h.publicIp host).mp ha

/-- A member is listed by the address that its row says. -/
theorem Row.Describes.locates {row : Row} {m : Member} (h : row.Describes m)
    {family : AddressFamily} {defaultPort : UInt16} {pm : PoolMember}
    (hm : m.listed? family defaultPort = some pm) : row.Locates family defaultPort pm.addr := by
  obtain ⟨host, ha, rfl⟩ := Option.map_eq_some_iff.mp hm
  refine ⟨h.says_address ha, ?_⟩
  cases hp : m.port with
  | some port => exact .inl ((h.port port).mp hp)
  | none =>
    refine .inr ⟨fun port hport => ?_, rfl⟩
    rw [(h.port port).mpr hport] at hp
    cases hp

/-- Whoever is listed from rows is located by one of them. -/
theorem exists_row_of_listing {rows : List Row} {family : AddressFamily} {defaultPort : UInt16}
    {k : HostKey} {pm : PoolMember}
    (h : (listing (Member.ofRows rows) family defaultPort)[k]? = some pm) :
    ∃ row ∈ rows, row.Locates family defaultPort pm.addr := by
  obtain ⟨m, hlast, hm⟩ := (getElem?_listing _ k pm).mp h
  obtain ⟨row, hrow, rfl⟩ := List.mem_map.mp hlast.mem
  exact ⟨row, (List.mem_filter.mp hrow).1, row.describes_ofRow.locates hm⟩

namespace Crowd

variable {s : Crowd} {rows : List Row}

/-! ## The rows in force -/

/-- The rows of the answer that was applied last. -/
def LatestRows (s : Crowd) (rows : List Row) : Prop :=
  ∃ c at_ v, s.applied.getLast? = some (c, at_) ∧ s.visits[c]? = some v ∧ v.answer = .ok rows

/-- The members are those of the rows that were applied last, by the family in force; while there
are none, nobody is a member. -/
def Listed (s : Crowd) : Prop :=
  s.applied = [] ∧ s.balancer.pool.members = ∅ ∨
    ∃ rows, s.LatestRows rows ∧ s.balancer.pool.members =
      listing (Member.ofRows rows) (s.balancer.pool.family.getD .privateAddress)
        s.balancer.settings.defaultPort

theorem LatestRows.after (h : s.LatestRows rows) {e : CrowdEvent}
    (happlied : (s.after e).applied = s.applied) : (s.after e).LatestRows rows := by
  obtain ⟨c, at_, v, hlast, hv, hrows⟩ := h
  obtain ⟨point, hv'⟩ := exists_point_after hv e
  exact ⟨c, at_, _, by rw [happlied, hlast], hv', hrows⟩

namespace Listed

/-- An event that applies no answer and leaves members and family alone. -/
theorem of_unapplied (h : s.Listed) {e : CrowdEvent} (happlied : (s.after e).applied = s.applied)
    (hmembers : (s.after e).balancer.pool.members = s.balancer.pool.members)
    (hfamily : (s.after e).balancer.pool.family = s.balancer.pool.family) :
    (s.after e).Listed := by
  rcases h with ⟨hnone, hempty⟩ | ⟨rows, hrows, hlisting⟩
  · exact .inl ⟨happlied.trans hnone, hmembers.trans hempty⟩
  · refine .inr ⟨rows, hrows.after happlied, ?_⟩
    rw [hmembers, hfamily, s.settings_after e, hlisting]

/-- A call applies its answer. -/
theorem of_applies {c : Caller} {v : Visit} {members : List Member}
    (h : s.Applies (s.after (.step c)) c v members) : (s.after (.step c)).Listed := by
  obtain ⟨rows, hanswer, rfl⟩ := Member.rows_of_ofAnswer h.answer
  obtain ⟨point, hv⟩ := exists_point_after h.visit (.step c)
  refine .inr ⟨rows, ⟨c, s.now, _, ?_, hv, hanswer⟩, ?_⟩
  · rw [h.applied, List.getLast?_concat]
  · rw [h.pool, Pool.members_apply, Pool.family_apply, s.settings_after]
    rfl

theorem after (h : s.Listed) (e : CrowdEvent) : (s.after e).Listed := by
  cases e with
  | step c =>
    rcases s.step_pool c with ⟨hpool, happlied⟩ | ⟨v, members, happlies⟩
    · exact h.of_unapplied happlied (congrArg Pool.members hpool) (congrArg Pool.family hpool)
    · exact of_applies happlies
  | abandon c =>
    obtain ⟨hpool, happlied⟩ := s.abandon_pool c
    exact h.of_unapplied happlied (congrArg Pool.members hpool) (congrArg Pool.family hpool)
  | touch t => exact h.of_unapplied rfl (Balancer.members_touch ..) (Balancer.family_touch ..)
  | arrive | advance => exact h.of_unapplied rfl rfl rfl

end Listed

variable (preference : Option Preference) (settings : BalancerSettings) (events : List CrowdEvent)

theorem listed_run : (run preference settings events).Listed := by
  induction events using List.reverseRecOn with
  | nil => exact .inl ⟨rfl, rfl⟩
  | append_singleton events e ih =>
    rw [run_concat]
    exact ih.after e

/-! ## Addresses -/

/-- An address is said by one of the rows that were applied last, in the family in force. -/
def Located (s : Crowd) (addr : HostAddr) : Prop :=
  ∃ rows, s.LatestRows rows ∧ ∃ row ∈ rows,
    row.Locates (s.balancer.pool.family.getD .privateAddress) s.balancer.settings.defaultPort addr

namespace Listed

theorem located_member (h : s.Listed) {k : HostKey} {pm : PoolMember}
    (hm : s.balancer.pool.members[k]? = some pm) : s.Located pm.addr := by
  rcases h with ⟨-, hempty⟩ | ⟨rows, hrows, hlisting⟩
  · rw [hempty] at hm
    simp at hm
  · rw [hlisting] at hm
    exact ⟨rows, hrows, exists_row_of_listing hm⟩

theorem located (h : s.Listed) {addr : HostAddr} (ha : addr ∈ s.balancer.pool.memberAddrs) :
    s.Located addr := by
  obtain ⟨pm, hpm, rfl⟩ := List.mem_map.mp ha
  obtain ⟨k, hk⟩ := Table.mem_values.mp hpm
  exact h.located_member hk

theorem located_select (h : s.Listed) {excluding : List HostKey} {host : HostKey}
    {addr : HostAddr} (hs : (host, addr) ∈ s.balancer.pool.select excluding) : s.Located addr := by
  obtain ⟨-, -, m, hm, rfl⟩ := Pool.of_mem_select hs
  exact h.located_member hm

theorem located_reserve (h : s.Listed) {excluding : List HostKey} {pick : Nat} {host : HostKey}
    {addr : HostAddr} (hr : (s.balancer.reserve excluding pick).2.1 = some (host, addr)) :
    s.Located addr := by
  change (s.balancer.pool.reserve excluding pick).2 = some (host, addr) at hr
  rcases s.balancer.pool.reserve_cases excluding pick with he | ⟨host', addr', hs, he⟩
  · rw [he] at hr
    cases hr
  · rw [he] at hr
    cases hr
    exact h.located_select hs

end Listed

/-- **Every address of a balancer is said by a row.** An answer has the members of its rows with an
address, in order, and every failure counts as one of the query. After any events, the address of
every member, of every host that may be chosen or is reserved, and of every candidate for a control
connection beyond the seeds is said by one of the rows that were applied last: a host that is not
empty and has no blanks around it, in the column of the family in force, on the port that the row
names or else on the default one. -/
theorem run_located :
    (∀ rows, ∃ members, Member.ofAnswer (.ok rows) = .ok members ∧
        List.Forall₂ Row.Describes (rows.filter Row.hasAddress) members) ∧
      (∀ e, ∃ fault, Member.ofAnswer (.error e) = .error (.topologyQuery fault)) ∧
      let s := run preference settings events
      (∀ addr ∈ s.balancer.pool.memberAddrs, s.Located addr) ∧
        (∀ excluding host addr, (host, addr) ∈ s.balancer.pool.select excluding →
          s.Located addr) ∧
        (∀ excluding pick host addr,
          (s.balancer.reserve excluding pick).2.1 = some (host, addr) → s.Located addr) ∧
        ∀ seeds, ∃ others, s.balancer.bootstrapCandidates seeds = seeds ++ others ∧
          ∀ addr ∈ others, s.Located addr := by
  have hlisted := listed_run preference settings events
  refine ⟨fun rows => ⟨_, Member.ofAnswer_ok rows, Member.describes_ofRows rows⟩, fun e => ?_,
    fun addr => hlisted.located, fun _ _ _ => hlisted.located_select,
    fun _ _ _ _ => hlisted.located_reserve, fun seeds => ?_⟩
  · obtain ⟨fault, he, -⟩ := Member.ofAnswer_error e
    exact ⟨fault, he⟩
  · obtain ⟨others, he, -, hmem⟩ :=
      (run preference settings events).balancer.bootstrapCandidates_eq seeds
    exact ⟨others, he, fun addr ha => hlisted.located ((hmem addr).mp ha).1⟩

/-- Rows with blanks around what they say, with a public address only, with no port, with none. -/
def untidyRows : List Row :=
  [((∅ : Row).insert "host" " h1 ").insert "port" " +6000 ",
    ((∅ : Row).insert "host" "  ").insert "public_ip" "p2",
    ((∅ : Row).insert "host" "h3").insert "port" "70000",
    (∅ : Row).insert "zone" "a"]

/-- The rows come, and are applied. -/
def readUntidyRows : List CrowdEvent :=
  .arrive "h3" 0 (.ok untidyRows) :: List.replicate 5 (.step 0)

/-- The row with a public address only is left out while members go by their private ones. -/
theorem run_located_untidyRows :
    let s := run none {} readUntidyRows
    s.balancer.pool.memberAddrs = [⟨"h1", 6000⟩, ⟨"h3", 5433⟩] ∧
      s.Located ⟨"h1", 6000⟩ ∧ s.Located ⟨"h3", 5433⟩ := by
  intro s
  have haddrs : s.balancer.pool.memberAddrs = [⟨"h1", 6000⟩, ⟨"h3", 5433⟩] := by decide +kernel
  have hlocated : ∀ addr ∈ s.balancer.pool.memberAddrs, s.Located addr :=
    (run_located none {} readUntidyRows).2.2.1
  rw [haddrs] at hlocated
  exact ⟨haddrs, hlocated _ (by simp), hlocated _ (by simp)⟩

end Crowd

end ConnectionRouter
