import ConnectionRouter.Proofs.Balancer.Candidates
import ConnectionRouter.Proofs.Balancer.Turn
import ConnectionRouter.Proofs.Balancer.UpToDate
import ConnectionRouter.Proofs.Cluster.Responses
import ConnectionRouter.Proofs.Table
import ConnectionRouter.Router.Request

/-!
# The way to a balanced connection

While the cluster is as the balancer knows it and keeps nobody waiting, a request takes a straight
course: it refreshes the topology if that is due, reserves a host, opens a connection to it, and
hands it out or gives it up for a more preferred host. `Course.Allows` says at which stages of
which scenes such a request can stand, and `Course.stepsLeft` how many steps it still takes at most.

Each part of a request that stands on its course leads further on it (`Course.Heads`), one lemma for
each part.
-/

namespace ConnectionRouter

/-! ## Ready to reserve -/

/-- A host can be chosen, or a refresh is due and the turn is free or in one's hands. -/
def Balancer.Ready (b : Balancer) (holder : Option Caller) (now : Instant) : Prop :=
  (b.needsRefresh now = true ∧ b.turn = ⟨holder, []⟩) ∨ ∃ host, b.pool.Available [] host

namespace Balancer

variable {b : Balancer} {caller : Caller} {now now' : Instant} {holder : Option Caller}

/-- A refresh that is due stays due. -/
theorem needsRefresh_later (h : b.needsRefresh now = true) (hle : now ≤ now') :
    b.needsRefresh now' = true := by
  unfold needsRefresh at h ⊢
  cases hl : b.pool.lastRefresh with
  | none => rfl
  | some at_ =>
    simp only [hl, decide_eq_true_iff] at h ⊢
    exact Nat.le_trans h (Nat.sub_le_sub_right hle at_)

theorem Ready.later (h : b.Ready holder now) (hle : now ≤ now') : b.Ready holder now' :=
  h.imp_left fun hd => ⟨needsRefresh_later hd.1 hle, hd.2⟩

/-- A refresh of a balancer that is ready asks the cluster, or a host can be chosen anyway. -/
theorem startRefresh_of_ready (caller : Caller) (hs : b.pool.hasSnapshot = true)
    (h : b.Ready none now) :
    (∃ turn, b.startRefresh caller now = ({ b with turn := turn }, .querying, none) ∧
        Ready { b with turn := turn } (some caller) now) ∨
      b.startRefresh caller now = (b, .done true, some (.refresh .skipped)) ∧
        ∃ host, b.pool.Available [] host := by
  rcases b.startRefresh_cases caller now with ⟨turn, hd, ht, he⟩ | ⟨-, -, hn, -⟩ | ⟨hd, he⟩
  · refine .inl ⟨turn, he, h.imp_left fun hr => ⟨hd, ?_⟩⟩
    rw [(Turn.take?_eq_some ht).2, hr.2]
  · rw [hs] at hn
    cases hn
  · refine .inr ⟨he, h.resolve_left fun hr => ?_⟩
    have ht := hd hr.1
    rw [hr.2] at ht
    cases ht

/-- When its query fails, the caller that asked leaves the turn free. -/
theorem Ready.leave (h : b.Ready (some caller) now) :
    Ready { b with turn := b.turn.leave caller } none now := by
  refine h.imp_left fun hr => ⟨hr.1, ?_⟩
  rw [hr.2]
  simp [Turn.leave, Turn.isHeldBy]

end Balancer

/-! ## After an answer -/

namespace Scene

/-- The scene after a query of `caller` that told the members. -/
def told (s : Scene) (listed : List Member) (caller : Caller) (now : Instant) (control : String) :
    Scene :=
  { s with
    balancer :=
      { s.balancer.applySnapshot ⟨listed, control⟩ now with
        turn := s.balancer.turn.leave caller }
    ledger := s.ledger.note (some (.refresh .ok)) }

theorem answered_rows (s : Scene) (n : Network) (caller : Caller) (now : Instant) (pick : Nat)
    (purpose : RefreshPurpose) (control : String) :
    s.answered caller now pick purpose control (.ok n.rows) =
      (s.told n.members caller now control).refreshed caller pick true purpose := by
  simp only [answered, Balancer.finishRefresh, Network.ofAnswer_rows, told]

end Scene

/-! ## The course -/

/-- What stays the same on the way of a request: the network but for its books, the seeds of the
router, its balancer, and the number of priorities. -/
structure Course where
  network : Network
  seeds : List HostAddr
  balancer : BalancerId
  ranks : Nat
  prompt : ∀ addr ∈ seeds, network.Prompt addr

namespace Course

/-- A scene in which the balancer is up to date. -/
structure Settled (c : Course) (now : Instant) (s : Scene) : Prop where
  id_eq : s.id = c.balancer
  balancer_eq : s.router.balancer = some c.balancer
  seeds_eq : s.router.seeds = c.seeds
  upToDate : s.balancer.UpToDate c.network.members c.network.Serves c.ranks now

/-- At which stage of a scene a request is on its course. -/
def Allows (c : Course) (caller : Caller) (now : Instant) (s : Scene) : Stage → Prop
  | .querying (.cached _) =>
    s.router.control.isSome = true ∧ s.balancer.Ready (some caller) now
  | .closing _ (.stale _) => s.balancer.Ready none now
  | .opening addr (.control _ later _) =>
    s.balancer.Ready none now ∧ (∀ a ∈ addr :: later, c.network.Prompt a) ∧
      ∃ a ∈ addr :: later, c.network.Serves a
  | .querying (.fresh _ conn) => (c.network.query conn).2 = .ok c.network.rows
  | .opening addr (.data _ lease _) =>
    ∃ m, s.balancer.pool.members[lease.host]? = some m ∧
      s.balancer.pool.Available [] lease.host ∧ addr = m.addr
  | .querying (.check _ held) =>
    ∃ m, s.balancer.pool.members[held.lease.host]? = some m ∧
      s.balancer.pool.Available [] held.lease.host ∧ held.conn = ⟨m.addr, false⟩
  | .closing _ (.preempted round _) =>
    round < c.ranks ∧ ∃ host, s.balancer.pool.Available [] host
  | .finished (.ok conn) => conn.lease.isSome = true
  | _ => False

/-- A bound on the candidates for a control connection. -/
def attempts (c : Course) : Nat := c.seeds.length + c.network.members.length

/-- A bound on the steps of the rounds after `round`. -/
def roundsLeft (c : Course) (round : Nat) : Nat := (c.ranks - round) * (c.attempts + 7)

/-- A bound on the steps that a request on its course still takes. -/
def stepsLeft (c : Course) : Stage → Nat
  | .querying (.cached round) => c.roundsLeft round + c.attempts + 6
  | .closing _ (.stale round) => c.roundsLeft round + c.attempts + 5
  | .opening _ (.control round later _) => c.roundsLeft round + later.length + 5
  | .querying (.fresh round _) => c.roundsLeft round + 4
  | .opening _ (.data round _ _) => c.roundsLeft round + 3
  | .querying (.check round _) => c.roundsLeft round + 2
  | .closing _ (.preempted round _) => c.roundsLeft round + 1
  | _ => 0

/-- A request is on its course, with so many steps left at most. -/
structure Heads (c : Course) (caller : Caller) (now : Instant) (r : Scene × Stage) (bound : Nat) :
    Prop where
  settled : c.Settled now r.1
  allows : c.Allows caller now r.1 r.2
  stepsLeft_le : c.stepsLeft r.2 ≤ bound

variable {c : Course} {caller : Caller} {now now' : Instant} {s : Scene} {bound bound' : Nat}

theorem Heads.mono {r : Scene × Stage} (h : c.Heads caller now r bound) (hle : bound ≤ bound') :
    c.Heads caller now r bound' := ⟨h.settled, h.allows, Nat.le_trans h.stepsLeft_le hle⟩

/-- What is counted does not matter. -/
theorem Settled.withLedger (st : c.Settled now s) (ledger : Ledger) :
    c.Settled now { s with ledger := ledger } :=
  ⟨st.id_eq, st.balancer_eq, st.seeds_eq, st.upToDate⟩

/-- Time does not lead off the course. -/
theorem Settled.later (st : c.Settled now s) (hle : now ≤ now') : c.Settled now' s :=
  ⟨st.id_eq, st.balancer_eq, st.seeds_eq, st.upToDate.later hle⟩

theorem Allows.later {stage : Stage} (h : c.Allows caller now s stage) (hle : now ≤ now') :
    c.Allows caller now' s stage := by
  unfold Allows at h ⊢
  split at h
  · exact ⟨h.1, h.2.later hle⟩
  · exact Balancer.Ready.later h hle
  · exact ⟨h.1.later hle, h.2⟩
  all_goals exact h

/-- A round that is not the last leaves room for the next. -/
theorem roundsLeft_of_lt {round : Nat} (h : round < c.ranks) :
    c.roundsLeft round = c.roundsLeft (round + 1) + c.attempts + 7 := by
  obtain ⟨k, hk⟩ : ∃ k, c.ranks - round = k + 1 := ⟨c.ranks - round - 1, by omega⟩
  have hk' : c.ranks - (round + 1) = k := by omega
  rw [roundsLeft, roundsLeft, hk, hk', Nat.succ_mul, Nat.add_assoc]

/-! ## Reserving -/

theorem heads_reserveNext (st : c.Settled now s) (h : ∃ host, s.balancer.pool.Available [] host)
    (round pick : Nat) :
    c.Heads caller now (s.reserveNext round [] pick) (c.roundsLeft round + 3) := by
  obtain ⟨k, hk⟩ := h
  obtain ⟨host, m, hm, hav, hreserve⟩ :=
    Pool.Valid.reserve_of_available st.upToDate.valid hk pick
  simp only [Scene.reserveNext, Balancer.reserve, hreserve]
  refine ⟨⟨st.id_eq, st.balancer_eq, st.seeds_eq, st.upToDate.adjust host 1 _ _⟩,
    ⟨m, ?_, Pool.available_adjust.mpr hav, rfl⟩, Nat.le_refl _⟩
  rw [Pool.members_adjust]
  exact hm

/-- A connection that was examined is handed out or given up for a better one. -/
theorem heads_keep (st : c.Settled now s) (round : Nat) {held : Held}
    (h : s.balancer.pool.Available [] held.lease.host) :
    c.Heads caller now (s.keep round held) (c.roundsLeft round + 1) := by
  unfold Scene.keep
  dsimp only
  split
  · rename_i hmore
    have hround : round < s.balancer.rankCount :=
      of_decide_eq_true (Bool.and_eq_true_iff.mp hmore).1
    rw [st.upToDate.rankCount_eq] at hround
    exact ⟨st.withLedger _, ⟨hround, _, h⟩, Nat.le_refl _⟩
  · exact ⟨st.withLedger _, rfl, Nat.zero_le _⟩

/-! ## Looking for a control connection -/

theorem heads_tryControl (st : c.Settled now s) (hr : s.balancer.Ready none now)
    {addrs : List HostAddr} (hp : ∀ a ∈ addrs, c.network.Prompt a)
    (hs : ∃ a ∈ addrs, c.network.Serves a) (round total : Nat) :
    c.Heads caller now (s.tryControl caller round total addrs)
      (c.roundsLeft round + addrs.length + 4) := by
  cases addrs with
  | nil =>
    obtain ⟨a, ha, -⟩ := hs
    cases ha
  | cons addr later =>
    refine ⟨st, ⟨hr, hp, hs⟩, ?_⟩
    show c.roundsLeft round + later.length + 5 ≤ c.roundsLeft round + (later.length + 1) + 4
    omega

theorem heads_bootstrap (st : c.Settled now s) (hr : s.balancer.Ready none now) (round : Nat) :
    c.Heads caller now (s.bootstrap caller round) (c.roundsLeft round + c.attempts + 4) := by
  have hserves : ∀ a ∈ s.balancer.pool.memberAddrs, c.network.Serves a := by
    intro a ha
    obtain ⟨m, hm, rfl⟩ := List.mem_map.mp ha
    obtain ⟨k, hk⟩ := Table.mem_values.mp hm
    exact st.upToDate.reachable_member hk
  have hlen := s.balancer.length_bootstrapCandidates_le s.router.seeds
  have hsize : s.balancer.pool.members.size ≤ c.network.members.length := by
    rw [st.upToDate.listed]
    exact size_listing_le _ _ _
  refine (heads_tryControl st hr (fun a ha => ?_) ?_ round _).mono ?_
  · rcases Balancer.mem_bootstrapCandidates.mp ha with ha | ha
    · exact c.prompt a (st.seeds_eq ▸ ha)
    · exact (hserves a ha).toPrompt
  · obtain ⟨k, m, hm⟩ := st.upToDate.exists_member
    have hmem : m.addr ∈ s.balancer.pool.memberAddrs := List.mem_map_of_mem
      (Table.mem_values.mpr ⟨k, hm⟩)
    exact ⟨m.addr, Balancer.mem_bootstrapCandidates.mpr (.inr hmem), hserves _ hmem⟩
  · rw [st.seeds_eq] at hlen ⊢
    rw [attempts]
    omega

/-! ## Refreshing -/

theorem heads_refreshed_cached (st : c.Settled now s)
    (h : ∃ host, s.balancer.pool.Available [] host) (round pick : Nat) :
    c.Heads caller now (s.refreshed caller pick true (.cached round)) (c.roundsLeft round + 3) := by
  have hst : c.Settled now (s.leaveControl caller) :=
    ⟨st.id_eq, st.balancer_eq, st.seeds_eq, st.upToDate⟩
  exact heads_reserveNext hst h round pick

theorem heads_refreshed_fresh (st : c.Settled now s)
    (h : ∃ host, s.balancer.pool.Available [] host) (round pick : Nat) (conn : Connection) :
    c.Heads caller now (s.refreshed caller pick true (.fresh round conn))
      (c.roundsLeft round + 3) := by
  have hst : c.Settled now
      ({ s with router := { s.router with control := some conn } }.leaveControl caller) :=
    ⟨st.id_eq, st.balancer_eq, st.seeds_eq, st.upToDate⟩
  exact heads_reserveNext hst h round pick

theorem heads_refreshed_check (st : c.Settled now s) (round pick : Nat) {held : Held}
    (h : s.balancer.pool.Available [] held.lease.host) :
    c.Heads caller now (s.refreshed caller pick true (.check round held))
      (c.roundsLeft round + 1) := by
  have hselectable : s.balancer.pool.isSelectable held.lease.host = true :=
    (Pool.Valid.isSelectable_iff st.upToDate.valid).mpr h
  simp only [Scene.refreshed, hselectable]
  exact heads_keep st round h

/-- A refresh starts: it asks, or it is over at once. -/
theorem heads_startRefresh (st : c.Settled now s) (hr : s.balancer.Ready none now) (pick : Nat)
    {purpose : RefreshPurpose} (hleft : c.stepsLeft (.querying purpose) ≤ bound)
    (hask : ∀ turn ledger, Balancer.Ready { s.balancer with turn := turn } (some caller) now →
      c.Allows caller now
        { s with balancer := { s.balancer with turn := turn }, ledger := ledger }
        (.querying purpose))
    (hover : ∀ ledger, (∃ host, s.balancer.pool.Available [] host) →
      c.Heads caller now ({ s with ledger := ledger }.refreshed caller pick true purpose) bound) :
    c.Heads caller now (s.startRefresh caller now pick purpose) bound := by
  unfold Scene.startRefresh
  rcases Balancer.startRefresh_of_ready caller st.upToDate.hasSnapshot hr with
    ⟨turn, he, hready⟩ | ⟨he, hav⟩ <;> rw [he]
  · exact ⟨⟨st.id_eq, st.balancer_eq, st.seeds_eq, st.upToDate.withTurn turn⟩,
      hask turn _ hready, hleft⟩
  · exact hover _ hav

theorem heads_startRefresh_cached (st : c.Settled now s) (hr : s.balancer.Ready none now)
    (hcontrol : s.router.control.isSome = true) (round pick : Nat) :
    c.Heads caller now (s.startRefresh caller now pick (.cached round))
      (c.roundsLeft round + c.attempts + 6) :=
  heads_startRefresh st hr pick (Nat.le_refl _) (fun _ _ hready => ⟨hcontrol, hready⟩)
    fun ledger hav => (heads_refreshed_cached (st.withLedger ledger) hav round pick).mono
      (by omega)

theorem heads_startRefresh_fresh (st : c.Settled now s) (hr : s.balancer.Ready none now)
    {conn : Connection} (hconn : (c.network.query conn).2 = .ok c.network.rows)
    (round pick : Nat) : c.Heads caller now (s.startRefresh caller now pick (.fresh round conn))
      (c.roundsLeft round + 4) :=
  heads_startRefresh st hr pick (Nat.le_refl _) (fun _ _ _ => hconn)
    fun ledger hav => (heads_refreshed_fresh (st.withLedger ledger) hav round pick conn).mono
      (by omega)

theorem heads_startRefresh_check (st : c.Settled now s) {m : PoolMember} (held : Held)
    (hm : s.balancer.pool.members[held.lease.host]? = some m)
    (hav : s.balancer.pool.Available [] held.lease.host) (hconn : held.conn = ⟨m.addr, false⟩)
    (round pick : Nat) : c.Heads caller now (s.startRefresh caller now pick (.check round held))
      (c.roundsLeft round + 2) :=
  heads_startRefresh st (.inr ⟨_, hav⟩) pick (Nat.le_refl _) (fun _ _ _ => ⟨m, hm, hav, hconn⟩)
    fun ledger _ => (heads_refreshed_check (st.withLedger ledger) round pick hav).mono
      (by omega)

theorem Settled.told (st : c.Settled now s) (caller : Caller) (control : String) :
    c.Settled now (s.told c.network.members caller now control) :=
  ⟨st.id_eq, st.balancer_eq, st.seeds_eq, (st.upToDate.applySnapshot control).withTurn _⟩

/-- Once the members were told, one of them can be chosen. -/
theorem Settled.exists_available (st : c.Settled now s) (caller : Caller) (control : String) :
    ∃ host, (s.told c.network.members caller now control).balancer.pool.Available [] host := by
  obtain ⟨k, m, hm⟩ := (st.upToDate.applySnapshot control).exists_member
  exact ⟨k, st.upToDate.available_applySnapshot _ (Table.mem_iff_exists.mpr ⟨m, hm⟩)⟩

/-- The control connection answers, or it fails and is given up. -/
theorem heads_answered_cached (st : c.Settled now s) {round : Nat}
    (h : c.Allows caller now s (.querying (.cached round))) (conn : Connection) (pick : Nat)
    (control : String) :
    c.Heads caller now
      (s.answered caller now pick (.cached round) control (c.network.query conn).2)
      (c.roundsLeft round + c.attempts + 5) := by
  obtain ⟨hcontrol, hready⟩ := h
  cases hq : (c.network.query conn).2 with
  | ok answer =>
    rw [Network.eq_rows_of_query hq, Scene.answered_rows]
    exact (heads_refreshed_cached (st.told caller control) (st.exists_available caller control)
      round pick).mono (by omega)
  | error e =>
    unfold Scene.answered
    rw [Balancer.finishRefresh_error]
    obtain ⟨conn', hconn'⟩ := Option.isSome_iff_exists.mp hcontrol
    simp only [Scene.refreshed, if_neg Bool.false_ne_true, hconn']
    exact ⟨⟨st.id_eq, st.balancer_eq, st.seeds_eq, st.upToDate.withTurn _⟩, hready.leave,
      Nat.le_refl _⟩

theorem heads_answered_fresh (st : c.Settled now s) (caller : Caller) (round pick : Nat)
    (conn : Connection) (control : String) :
    c.Heads caller now
      (s.answered caller now pick (.fresh round conn) control (.ok c.network.rows))
      (c.roundsLeft round + 3) := by
  rw [Scene.answered_rows]
  exact heads_refreshed_fresh (st.told caller control) (st.exists_available caller control) round
    pick conn

/-- The member behind the data connection answers. -/
theorem heads_answered_check (st : c.Settled now s) (caller : Caller) {m : PoolMember}
    {held : Held} (hm : s.balancer.pool.members[held.lease.host]? = some m) (round pick : Nat) :
    c.Heads caller now
      (s.answered caller now pick (.check round held) m.addr.host (.ok c.network.rows))
      (c.roundsLeft round + 1) := by
  rw [Scene.answered_rows]
  refine heads_refreshed_check (st.told caller m.addr.host) round pick
    (st.upToDate.available_applySnapshot _ ?_)
  rw [st.upToDate.members_applySnapshot hm]
  exact Table.mem_iff_exists.mpr ⟨m, hm⟩

/-! ## Openings and closes -/

/-- A candidate for the control connection accepts or refuses. -/
theorem heads_opened_control (st : c.Settled now s) {addr : HostAddr} {round total : Nat}
    {later : List HostAddr} (h : c.Allows caller now s (.opening addr (.control round later total)))
    (pick : Nat) : c.Heads caller now
      (s.opened caller now pick (.control round later total) (c.network.connect addr).2)
      (c.roundsLeft round + later.length + 4) := by
  obtain ⟨hready, hprompt, a, ha, hserves⟩ := h
  cases hconnect : (c.network.connect addr).2 with
  | ok conn =>
    have hconn := (hprompt addr List.mem_cons_self).query conn hconnect
    exact (heads_startRefresh_fresh st hready hconn round pick).mono (by omega)
  | error e =>
    refine heads_tryControl st hready (fun a ha => hprompt a (List.mem_cons_of_mem _ ha)) ?_
      round total
    rcases List.mem_cons.mp ha with rfl | ha
    · rw [hserves.connect] at hconnect
      cases hconnect
    · exact ⟨a, ha, hserves⟩

/-- The reserved host accepts. -/
theorem heads_opened_data (st : c.Settled now s) {addr : HostAddr} {round : Nat} {lease : Lease}
    {refused : List HostKey} (h : c.Allows caller now s (.opening addr (.data round lease refused)))
    (pick : Nat) : c.Heads caller now
      (s.opened caller now pick (.data round lease refused) (c.network.connect addr).2)
      (c.roundsLeft round + 2) := by
  obtain ⟨m, hm, hav, rfl⟩ := h
  rw [(st.upToDate.reachable_member hm).connect]
  exact heads_startRefresh_check st ⟨lease, ⟨m.addr, false⟩, refused⟩ hm hav rfl round pick

/-- The control connection is the request's to use or replace. -/
theorem heads_controlGranted (st : c.Settled now s) (hr : s.balancer.Ready none now)
    (round pick : Nat) : c.Heads caller now (s.controlGranted caller now round pick)
      (c.roundsLeft round + c.attempts + 6) := by
  unfold Scene.controlGranted
  cases hcontrol : s.router.control with
  | some conn => exact heads_startRefresh_cached st hr (by rw [hcontrol]; rfl) round pick
  | none => exact (heads_bootstrap st hr round).mono (by omega)

/-- A round begins. -/
theorem heads_beginRound (st : c.Settled now s)
    (h : (s.balancer.needsRefresh now = true ∧ s.balancer.turn = {} ∧ s.router.turn = {}) ∨
      ∃ host, s.balancer.pool.Available [] host) (round pick : Nat) :
    c.Heads caller now (s.beginRound caller now round pick)
      (c.roundsLeft round + c.attempts + 6) := by
  have hready : s.balancer.Ready none now := h.imp_left fun hd => ⟨hd.1, hd.2.1⟩
  have hreserve : (∃ host, s.balancer.pool.Available [] host) →
      c.Heads caller now (s.reserveNext round [] pick) (c.roundsLeft round + c.attempts + 6) :=
    fun hav => (heads_reserveNext st hav round pick).mono (by omega)
  unfold Scene.beginRound
  split
  · cases ht : s.router.turn.take? caller with
    | some turn =>
      exact heads_controlGranted (s := { s with router := { s.router with turn := turn } })
        ⟨st.id_eq, st.balancer_eq, st.seeds_eq, st.upToDate⟩ hready round pick
    | none =>
      -- the control connection is in use, so the turn of the router is not free
      have hav := h.resolve_left fun hd => Turn.holder_of_take?_eq_none ht (by rw [hd.2.2])
      simp only [st.upToDate.hasSnapshot, if_true]
      exact hreserve hav
  · rename_i hfresh
    exact hreserve (h.resolve_left fun hd => hfresh hd.1)

/-- A connection is given up for a more preferred host, and the next round begins. -/
theorem heads_closed_preempted (st : c.Settled now s) {conn : Connection} {round : Nat}
    {lease : Lease} (h : c.Allows caller now s (.closing conn (.preempted round lease)))
    (pick : Nat) : c.Heads caller now (s.closed caller now pick (.preempted round lease))
      (c.roundsLeft round) := by
  obtain ⟨hround, host, hav⟩ := h
  have hreleased : c.Settled now (s.release lease) :=
    ⟨st.id_eq, st.balancer_eq, st.seeds_eq, st.upToDate.adjust lease.host (-1) _ _⟩
  refine (heads_beginRound hreleased (.inr ⟨host, ?_⟩) (round + 1) pick).mono ?_
  · exact Pool.available_adjust.mpr hav
  · rw [roundsLeft_of_lt hround]
    omega

end Course

end ConnectionRouter
