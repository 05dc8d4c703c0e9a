import ConnectionRouter.Proofs.Pool.Tally
import ConnectionRouter.Proofs.Router.Arrivals
import ConnectionRouter.Proofs.Router.Course

/-!
# Requests while nothing changes

What the requests to a router come to, one after another, while its cluster stays as it is.
`Site.Rests` says how the scene stands between two requests, and `Site.Allows` at which stages of
which scenes a request can stand: it looks for a first control connection, or the members are known
and tallied. Each part of a request leads from one such stage to another (`Site.Heads`), one lemma
for each part, and all of them in `Site.Allows.step`.
-/

namespace ConnectionRouter

/-- In whose hands the turns of the router and of the balancer are, with nobody waiting. -/
structure Scene.Turns (s : Scene) (router balancer : Option Caller) : Prop where
  router_eq : s.router.turn = ⟨router, []⟩
  balancer_eq : s.balancer.turn = ⟨balancer, []⟩

/-- Scenes that differ in the pool, in turns and in counted things. -/
structure Scene.Near (s m : Scene) : Prop extends s.Stays m where
  balancer_eq : m.router.balancer = s.router.balancer
  control_eq : m.router.control = s.router.control

theorem Scene.near_ledger (s : Scene) (ledger : Ledger) : s.Near { s with ledger := ledger } :=
  ⟨⟨rfl, rfl, rfl, rfl⟩, rfl, rfl⟩

theorem Scene.near_taken (s : Scene) (turn : Turn) :
    s.Near { s with router := { s.router with turn := turn } } := ⟨⟨rfl, rfl, rfl, rfl⟩, rfl, rfl⟩

theorem Scene.near_asked (s : Scene) (turn : Turn) (ledger : Ledger) :
    s.Near { s with balancer := { s.balancer with turn := turn }, ledger := ledger } :=
  ⟨⟨rfl, rfl, rfl, rfl⟩, rfl, rfl⟩

theorem Turn.leave_eq (caller : Caller) : Turn.leave ⟨some caller, []⟩ caller = {} := by
  simp [leave, isHeldBy]

theorem Turn.take?_eq (caller : Caller) : Turn.take? {} caller = some ⟨some caller, []⟩ := rfl

namespace Site

/-! ## What is known -/

/-- The scene of the router of a site and its balancer. -/
structure Owns (c : Site) (s : Scene) : Prop where
  id_eq : s.id = c.id
  balancer_eq : s.router.balancer = some c.id
  seeds_eq : s.router.seeds = c.seeds
  preference_eq : s.balancer.preference = c.preference
  settings_eq : s.balancer.settings = c.settings

/-- Nothing is known of the cluster yet. -/
structure Fresh (c : Site) (s : Scene) : Prop extends c.Owns s where
  control_eq : s.router.control = none
  pool_eq : s.balancer.pool = {}

/-- The members are known, and the connections to those that accept are counted. -/
structure Knows (c : Site) (count : HostKey → Nat) (s : Scene) : Prop extends c.Owns s where
  control : ∃ addr, c.gate? = some addr ∧ s.router.control = some ⟨addr, false⟩
  tallied : c.Tallied count s.balancer.pool

/-- So many connections are counted. -/
def Holds (c : Site) (n : Nat) (s : Scene) : Prop :=
  ∃ count, NearlySpread c.front n count ∧ c.Knows count s

/-- So many connections are counted, and one more against `host`, which was a least loaded host of
the front. -/
def Leads (c : Site) (n : Nat) (host : HostKey) (s : Scene) : Prop :=
  ∃ count, NearlySpread c.front n count ∧ host ∈ c.front ∧
    (∀ k ∈ c.front, count host ≤ count k) ∧ c.Knows (recount count host 1) s

/-- An open connection to the host of a lease. -/
def Reaches (c : Site) (conn : Connection) (lease : Lease) : Prop :=
  ∃ m, c.members[lease.host]? = some m ∧ conn = ⟨m.addr, false⟩

/-- Between two requests: nobody is at a turn, and so many connections are spread evenly. -/
structure Rests (c : Site) (n : Nat) (s : Scene) : Prop where
  turns : s.Turns none none
  state : (n = 0 ∧ c.Fresh s) ∨ ∃ count, Spread c.front n count ∧ c.Knows count s

/-- At which stages of which scenes a request can stand, when so many connections have been handed
out before. -/
def Allows (c : Site) (n : Nat) (caller : Caller) (s : Scene) : Stage → Prop
  | .opening addr (.control _ later _) =>
    n = 0 ∧ c.Fresh s ∧ s.Turns (some caller) none ∧ c.gate? = (addr :: later).find? c.accepts
  | .querying (.fresh _ conn) =>
    n = 0 ∧ c.Fresh s ∧ s.Turns (some caller) (some caller) ∧
      ∃ addr, c.gate? = some addr ∧ conn = ⟨addr, false⟩
  | .querying (.cached _) => c.Holds n s ∧ s.Turns (some caller) (some caller)
  | .opening addr (.data _ lease refused) =>
    s.Turns none none ∧ (∀ k ∈ refused, ¬c.Good k) ∧
      ∃ m, c.members[lease.host]? = some m ∧ addr = m.addr ∧
        if c.accepts addr then c.Leads n lease.host s else c.Holds n s
  | .querying (.check _ held) =>
    s.Turns none (some caller) ∧ c.Leads n held.lease.host s ∧ c.Reaches held.conn held.lease
  | .closing _ (.preempted _ lease) => s.Turns none none ∧ c.Leads n lease.host s
  | .finished (.ok ⟨conn, some lease⟩) =>
    s.Turns none none ∧ c.Leads n lease.host s ∧ c.Reaches conn lease
  | .finished (.error _) => c.Rests n s ∧ c.front = ∅
  | _ => False

/-- A part has led to a stage that is allowed. -/
def Heads (c : Site) (n : Nat) (caller : Caller) (r : Scene × Stage) : Prop :=
  c.Allows n caller r.1 r.2

variable {c : Site} {n : Nat} {s m : Scene} {count count' : HostKey → Nat} {host : HostKey}
  {caller : Caller} {now : Instant}

theorem Owns.near (h : c.Owns s) (near : s.Near m) : c.Owns m :=
  ⟨near.id_eq.trans h.id_eq, near.balancer_eq.trans h.balancer_eq, near.seeds_eq.trans h.seeds_eq,
    near.preference_eq.trans h.preference_eq, near.settings_eq.trans h.settings_eq⟩

theorem Owns.rules_eq (h : c.Owns s) : s.balancer.rules = c.balancer.rules := by
  rw [Balancer.rules, h.preference_eq, h.settings_eq]
  rfl

theorem Fresh.near (h : c.Fresh s) (near : s.Near m)
    (hp : m.balancer.pool = s.balancer.pool) : c.Fresh m :=
  ⟨h.toOwns.near near, near.control_eq.trans h.control_eq, hp.trans h.pool_eq⟩

theorem Knows.near (h : c.Knows count s) (near : s.Near m) (t : c.Tallied count' m.balancer.pool) :
    c.Knows count' m := by
  obtain ⟨addr, hgate, hcontrol⟩ := h.control
  exact ⟨h.toOwns.near near, ⟨addr, hgate, near.control_eq.trans hcontrol⟩, t⟩

theorem Holds.near (h : c.Holds n s) (near : s.Near m)
    (hp : m.balancer.pool = s.balancer.pool) : c.Holds n m := by
  obtain ⟨count, hspread, hknows⟩ := h
  exact ⟨count, hspread, hknows.near near (hp ▸ hknows.tallied)⟩

theorem Leads.near (h : c.Leads n host s) (near : s.Near m)
    (hp : m.balancer.pool = s.balancer.pool) : c.Leads n host m := by
  obtain ⟨count, hspread, hfront, hleast, hknows⟩ := h
  exact ⟨count, hspread, hfront, hleast, hknows.near near (hp ▸ hknows.tallied)⟩

theorem Leads.good (h : c.Leads n host s) : c.Good host := by
  obtain ⟨count, -, hfront, -⟩ := h
  exact good_of_mem_front hfront

/-- The lease is given back. -/
theorem Leads.release (h : c.Leads n host s) {lease : Lease} (hl : lease.host = host) :
    c.Holds n (s.release lease) := by
  obtain ⟨count, hspread, hfront, hleast, hknows⟩ := h
  subst hl
  exact ⟨_, hspread.release hfront hleast,
    hknows.near ⟨⟨rfl, rfl, rfl, rfl⟩, rfl, rfl⟩ (hknows.tallied.adjust lease.host (-1))⟩

/-- The connection is handed out. -/
theorem Leads.rests (h : c.Leads n host s) (turns : s.Turns none none) : c.Rests (n + 1) s := by
  obtain ⟨count, hspread, hfront, hleast, hknows⟩ := h
  exact ⟨turns, .inr ⟨_, hspread.reserve hfront hleast, hknows⟩⟩

/-- A host that refuses fails. -/
theorem Holds.failHost (h : c.Holds n s) {lease : Lease} (hl : ¬c.Good lease.host)
    (now : Instant) : c.Holds n ((s.count (.connectAttempt .failed)).failHost lease now) := by
  obtain ⟨count, hspread, hknows⟩ := h
  exact ⟨count, hspread,
    hknows.near ⟨⟨rfl, rfl, rfl, rfl⟩, rfl, rfl⟩ (hknows.tallied.fail hl now)⟩

/-- Where no member accepts, nothing is counted. -/
theorem Holds.rests (h : c.Holds n s) (turns : s.Turns none none) (hf : c.front = ∅) :
    c.Rests n s := by
  obtain ⟨count, hspread, hknows⟩ := h
  refine ⟨turns, .inr ⟨count, ⟨hspread.close, hspread.le_max, ?_⟩, hknows⟩⟩
  rw [hf]
  simp [capacity]

/-! ## Reserving -/

theorem heads_reserveNext (h : c.Holds n s) (turns : s.Turns none none) {refused : List HostKey}
    (hr : ∀ k ∈ refused, ¬c.Good k) (round pick : Nat) :
    c.Heads n caller (s.reserveNext round refused pick) := by
  obtain ⟨count, hspread, hknows⟩ := h
  rcases s.reserveNext_cases round refused pick with
    ⟨hnobody, he⟩ | ⟨host, addr, m, hchosen, hstays, hrouter, hturn, hpool, he⟩ <;> rw [he]
  · have hf : c.front = ∅ := Finset.eq_empty_of_forall_notMem fun k hk =>
      hknows.tallied.select_ne_nil (good_of_mem_front hk) hr hnobody
    exact ⟨Holds.rests ⟨count, hspread, hknows⟩ turns hf, hf⟩
  · have near : s.Near m := ⟨hstays, by rw [hrouter], by rw [hrouter]⟩
    have hturns : m.Turns none none := ⟨hrouter ▸ turns.router_eq, hturn ▸ turns.balancer_eq⟩
    obtain ⟨-, -, pm, hpm, haddr⟩ := Pool.of_mem_select hchosen
    rw [hknows.tallied.members_eq] at hpm
    refine ⟨hturns, hr, pm, hpm, haddr.symm, ?_⟩
    split
    · rename_i ha
      obtain ⟨hfront, hleast⟩ := hknows.tallied.mem_front_of_select hchosen ha hr
      exact ⟨count, hspread, hfront, hleast,
        hknows.near near (hpool ▸ hknows.tallied.adjust host 1)⟩
    · rename_i ha
      have hgood : ¬c.Good host := by
        rintro ⟨pm', hpm', ha'⟩
        rw [hpm] at hpm'
        cases hpm'
        exact ha (haddr ▸ ha')
      exact ⟨count, hspread,
        hknows.near near (hpool ▸ hknows.tallied.adjust_of_not_good hgood 1)⟩

/-- A connection that was examined is handed out or given up for a better one. -/
theorem heads_keep (turns : s.Turns none none) {held : Held} (h : c.Leads n held.lease.host s)
    (hreach : c.Reaches held.conn held.lease) (round : Nat) :
    c.Heads n caller (s.keep round held) := by
  unfold Scene.keep
  dsimp only
  split
  · exact ⟨⟨turns.router_eq, turns.balancer_eq⟩, h.near (s.near_ledger _) rfl⟩
  · exact ⟨⟨turns.router_eq, turns.balancer_eq⟩, h.near (s.near_ledger _) rfl, hreach⟩

/-! ## Refreshing -/

/-- A refresh that finds the turn free asks, or is not due. -/
theorem heads_startRefresh (hturn : s.balancer.turn = {}) (pick : Nat) {purpose : RefreshPurpose}
    (hask : ∀ ledger, c.Heads n caller ({ s with
      balancer := { s.balancer with turn := ⟨some caller, []⟩ }, ledger := ledger },
      .querying purpose))
    (hover : s.balancer.needsRefresh now = false → ∀ ledger,
      c.Heads n caller ({ s with ledger := ledger }.refreshed caller pick true purpose)) :
    c.Heads n caller (s.startRefresh caller now pick purpose) := by
  unfold Scene.startRefresh Balancer.startRefresh
  cases hdue : s.balancer.needsRefresh now with
  | true =>
    simp only [if_true, hturn, Turn.take?_eq]
    exact hask _
  | false =>
    simp only [Bool.false_eq_true, if_false]
    exact hover hdue _

theorem heads_refreshed_cached (h : c.Holds n s) (hr : s.router.turn = ⟨some caller, []⟩)
    (hb : s.balancer.turn = {}) (round pick : Nat) :
    c.Heads n caller (s.refreshed caller pick true (.cached round)) := by
  refine heads_reserveNext (s := s.leaveControl caller) (h.near (s.near_taken _) rfl) ⟨?_, hb⟩
    (by simp) round pick
  show s.router.turn.leave caller = {}
  rw [hr, Turn.leave_eq]

theorem heads_startRefresh_cached (h : c.Holds n s) (turns : s.Turns (some caller) none)
    (round pick : Nat) :
    c.Heads n caller (s.startRefresh caller now pick (.cached round)) := by
  exact heads_startRefresh turns.balancer_eq pick
    (fun ledger => ⟨h.near (s.near_asked _ ledger) rfl, turns.router_eq, rfl⟩)
    fun _ ledger => heads_refreshed_cached (h.near (s.near_ledger ledger) rfl)
      turns.router_eq turns.balancer_eq round pick

theorem heads_startRefresh_fresh (hn : n = 0) (h : c.Fresh s) (turns : s.Turns (some caller) none)
    {addr : HostAddr} (hgate : c.gate? = some addr) (round pick : Nat) :
    c.Heads n caller (s.startRefresh caller now pick (.fresh round ⟨addr, false⟩)) := by
  refine heads_startRefresh turns.balancer_eq pick (fun ledger =>
    ⟨hn, h.near (s.near_asked _ ledger) rfl, ⟨turns.router_eq, rfl⟩, addr, hgate, rfl⟩)
    fun hfresh => ?_
  -- nothing has been told yet, so that a refresh is due
  simp [Balancer.needsRefresh, h.pool_eq] at hfresh

theorem heads_refreshed_check (turns : s.Turns none none) {held : Held}
    (h : c.Leads n held.lease.host s) (hreach : c.Reaches held.conn held.lease)
    (round pick : Nat) (ok : Bool) :
    c.Heads n caller (s.refreshed caller pick ok (.check round held)) := by
  obtain ⟨count, hspread, hfront, hleast, hknows⟩ := h
  rw [s.refreshed_check (hknows.tallied.isSelectable (good_of_mem_front hfront))]
  exact heads_keep turns ⟨count, hspread, hfront, hleast, hknows⟩ hreach round

theorem heads_startRefresh_check (turns : s.Turns none none) {held : Held}
    (h : c.Leads n held.lease.host s) (hreach : c.Reaches held.conn held.lease)
    (round pick : Nat) :
    c.Heads n caller (s.startRefresh caller now pick (.check round held)) := by
  exact heads_startRefresh turns.balancer_eq pick
    (fun ledger => ⟨⟨turns.router_eq, rfl⟩, h.near (s.near_asked _ ledger) rfl, hreach⟩)
    fun _ ledger => heads_refreshed_check (s := { s with ledger := ledger })
      ⟨turns.router_eq, turns.balancer_eq⟩ (h.near (s.near_ledger ledger) rfl) hreach round
      pick true

/-! ## Answers -/

section Told

variable {control : String}

/-- Whoever asked has left the turn of the balancer. -/
theorem turn_told {router : Option Caller} (turns : s.Turns router (some caller)) :
    (s.told c.network.members caller now control).Turns router none :=
  ⟨turns.router_eq, by rw [Scene.told, turns.balancer_eq, Turn.leave_eq]⟩

theorem Knows.told (h : c.Knows count s)
    (t : ∀ p, c.Tallied count p → c.Tallied count
      (p.apply ⟨c.network.members, control⟩ c.balancer.rules now).1) :
    c.Knows count (s.told c.network.members caller now control) := by
  refine h.near ⟨⟨rfl, rfl, rfl, rfl⟩, rfl, rfl⟩ ?_
  show c.Tallied count (s.balancer.pool.apply _ s.balancer.rules now).1
  rw [h.rules_eq]
  exact t _ h.tallied

end Told

/-- The control connection tells the members again. -/
theorem heads_answered_cached (h : c.Holds n s) (turns : s.Turns (some caller) (some caller))
    {addr : HostAddr} (hgate : c.gate? = some addr) (round pick : Nat) :
    c.Heads n caller
      (s.answered caller now pick (.cached round) addr.host (.ok c.network.rows)) := by
  obtain ⟨count, hspread, hknows⟩ := h
  have hturns : (s.told c.network.members caller now addr.host).Turns (some caller) none :=
    turn_told turns
  rw [Scene.answered_rows]
  exact heads_refreshed_cached
    ⟨count, hspread, hknows.told fun p t => t.apply_gate hgate now⟩ hturns.router_eq
    hturns.balancer_eq round pick

/-- The first control connection tells the members. -/
theorem heads_answered_fresh (hn : n = 0) (h : c.Fresh s)
    (turns : s.Turns (some caller) (some caller)) {addr : HostAddr} (hgate : c.gate? = some addr)
    (round pick : Nat) :
    c.Heads n caller (s.answered caller now pick (.fresh round ⟨addr, false⟩) addr.host
      (.ok c.network.rows)) := by
  have hturns : (s.told c.network.members caller now addr.host).Turns (some caller) none :=
    turn_told turns
  have hpool : (s.told c.network.members caller now addr.host).balancer.pool =
      (({} : Pool).apply ⟨c.network.members, addr.host⟩ c.balancer.rules now).1 := by
    rw [← h.pool_eq, ← h.rules_eq]
    rfl
  have hrefused : ∀ k ∈ ([] : List HostKey), ¬c.Good k := by simp
  subst hn
  rw [Scene.answered_rows]
  refine heads_reserveNext ⟨fun _ => 0, (spread_zero _).nearly, ?_, ?_, ?_⟩ ?_ hrefused round pick
  · exact ⟨h.id_eq, h.balancer_eq, h.seeds_eq, h.preference_eq, h.settings_eq⟩
  · exact ⟨addr, hgate, rfl⟩
  · exact hpool ▸ tallied_first hgate now
  · refine ⟨?_, hturns.balancer_eq⟩
    show Turn.leave s.router.turn caller = {}
    rw [turns.router_eq, Turn.leave_eq]

/-- The member behind the data connection tells the members. -/
theorem heads_answered_check (turns : s.Turns none (some caller)) {held : Held}
    (h : c.Leads n held.lease.host s) (hreach : c.Reaches held.conn held.lease)
    (round pick : Nat) :
    c.Heads n caller (s.answered caller now pick (.check round held) held.conn.addr.host
      (.ok c.network.rows)) := by
  obtain ⟨count, hspread, hfront, hleast, hknows⟩ := h
  obtain ⟨m, hm, hconn⟩ := hreach
  have htold : c.Knows (recount count held.lease.host 1)
      (s.told c.network.members caller now held.conn.addr.host) := by
    rw [hconn]
    exact hknows.told fun p t => t.apply_member hm now
  rw [Scene.answered_rows]
  exact heads_refreshed_check (turn_told turns) ⟨count, hspread, hfront, hleast, htold⟩
    ⟨m, hm, hconn⟩ round pick true

/-! ## Looking for a control connection -/

theorem heads_tryControl (hn : n = 0) (h : c.Fresh s) (turns : s.Turns (some caller) none)
    {addrs : List HostAddr} (hgate : c.gate? = addrs.find? c.accepts) (round total : Nat) :
    c.Heads n caller (s.tryControl caller round total addrs) := by
  cases addrs with
  | nil =>
    have hleave : s.router.turn.leave caller = {} := by rw [turns.router_eq, Turn.leave_eq]
    exact ⟨⟨⟨hleave, turns.balancer_eq⟩, .inl ⟨hn, h.near (s.near_taken _) rfl⟩⟩,
      front_eq_empty hgate⟩
  | cons addr later => exact ⟨hn, h, turns, hgate⟩

theorem heads_opened_control (hn : n = 0) (h : c.Fresh s) (turns : s.Turns (some caller) none)
    {addr : HostAddr} {later : List HostAddr}
    (hgate : c.gate? = (addr :: later).find? c.accepts) (round total pick : Nat) :
    c.Heads n caller
      (s.opened caller now pick (.control round later total) (c.network.connect addr).2) := by
  cases ha : c.accepts addr with
  | true =>
    rw [List.find?_cons_of_pos ha] at hgate
    rw [connect_of_accepts ha]
    exact heads_startRefresh_fresh hn h turns hgate round pick
  | false =>
    rw [List.find?_cons_of_neg (by simp [ha])] at hgate
    obtain ⟨e, he⟩ := connect_of_refuses ha
    rw [he]
    exact heads_tryControl hn h turns hgate round total

/-! ## The beginning of a round -/

/-- A round that finds the turn free and a refresh due takes the turn. -/
theorem beginRound_of_due (hdue : s.balancer.needsRefresh now = true) (hturn : s.router.turn = {})
    (caller : Caller) (round pick : Nat) : s.beginRound caller now round pick =
      ({ s with router := { s.router with turn := ⟨some caller, []⟩ } } : Scene).controlGranted
        caller now round pick := by
  simp only [Scene.beginRound, hdue, if_true, hturn, Turn.take?_eq]

theorem heads_controlGranted_fresh (hn : n = 0) (h : c.Fresh s)
    (turns : s.Turns (some caller) none) (round pick : Nat) :
    c.Heads n caller (s.controlGranted caller now round pick) := by
  have hcandidates : s.balancer.bootstrapCandidates s.router.seeds = s.router.seeds := by
    rw [Balancer.bootstrapCandidates, h.pool_eq]
    rfl
  unfold Scene.controlGranted
  rw [h.control_eq]
  unfold Scene.bootstrap
  rw [hcandidates, h.seeds_eq]
  exact heads_tryControl hn h turns rfl round _

theorem heads_controlGranted (h : c.Holds n s) (turns : s.Turns (some caller) none)
    (round pick : Nat) : c.Heads n caller (s.controlGranted caller now round pick) := by
  have hknown := h
  obtain ⟨count, -, hknows⟩ := hknown
  obtain ⟨addr, -, hcontrol⟩ := hknows.control
  unfold Scene.controlGranted
  rw [hcontrol]
  exact heads_startRefresh_cached h turns round pick

theorem heads_beginRound_fresh (hn : n = 0) (h : c.Fresh s) (turns : s.Turns none none)
    (round pick : Nat) : c.Heads n caller (s.beginRound caller now round pick) := by
  have hdue : s.balancer.needsRefresh now = true := by simp [Balancer.needsRefresh, h.pool_eq]
  rw [beginRound_of_due hdue turns.router_eq]
  exact heads_controlGranted_fresh hn (h.near (s.near_taken ⟨some caller, []⟩) rfl)
    ⟨rfl, turns.balancer_eq⟩ round pick

theorem heads_beginRound (h : c.Holds n s) (turns : s.Turns none none) (round pick : Nat) :
    c.Heads n caller (s.beginRound caller now round pick) := by
  cases hdue : s.balancer.needsRefresh now with
  | true =>
    rw [beginRound_of_due hdue turns.router_eq]
    exact heads_controlGranted (h.near (s.near_taken ⟨some caller, []⟩) rfl)
      ⟨rfl, turns.balancer_eq⟩ round pick
  | false =>
    rw [Scene.beginRound, if_neg (by simp [hdue])]
    exact heads_reserveNext h turns (by simp) round pick

/-- A request begins. -/
theorem Rests.heads (r : c.Rests n s) (pick : Nat) :
    c.Heads n caller (s.beginRound caller now 1 pick) := by
  obtain ⟨hn, hfresh⟩ | ⟨count, hspread, hknows⟩ := r.state
  · exact heads_beginRound_fresh hn hfresh r.turns 1 pick
  · exact heads_beginRound ⟨count, hspread.nearly, hknows⟩ r.turns 1 pick

/-! ## A stride -/

/-- What can end a wait while nothing changes. -/
def Arrives (c : Site) (s : Scene) : Stage → Arrival → Prop
  | .opening addr _, .opened failure => addr.dial failure = (c.network.connect addr).2
  | .querying purpose, .answered control answer =>
    ∃ conn, s.refreshConnection? purpose = some conn ∧ control = conn.addr.host ∧
      answer = (c.network.query conn).2
  | .closing .., .closed => True
  | _, _ => False

/-- The reserved host accepts or refuses. -/
theorem heads_opened_data {addr : HostAddr} {round : Nat} {lease : Lease} {refused : List HostKey}
    (h : c.Allows n caller s (.opening addr (.data round lease refused))) (pick : Nat) :
    c.Heads n caller
      (s.opened caller now pick (.data round lease refused) (c.network.connect addr).2) := by
  obtain ⟨turns, hr, m, hm, rfl, h⟩ := h
  cases ha : c.accepts m.addr with
  | true =>
    let held : Held := ⟨lease, ⟨m.addr, false⟩, refused⟩
    have hleads : c.Leads n held.lease.host s := by rwa [if_pos ha] at h
    rw [connect_of_accepts ha]
    exact heads_startRefresh_check turns hleads ⟨m, hm, rfl⟩ round pick
  | false =>
    have hgood : ¬c.Good lease.host := by
      rintro ⟨m', hm', ha'⟩
      rw [hm] at hm'
      cases hm'
      rw [ha] at ha'
      cases ha'
    rw [if_neg (by simp [ha])] at h
    obtain ⟨e, he⟩ := connect_of_refuses ha
    rw [he]
    exact heads_reserveNext (h.failHost hgood now) ⟨turns.router_eq, turns.balancer_eq⟩
      (List.forall_mem_cons.mpr ⟨hgood, hr⟩) round pick

/-- Every stride leads to a stage that is allowed. -/
theorem Allows.step {stage : Stage} (h : c.Allows n caller s stage) {arrival : Arrival}
    (ha : c.Arrives s stage arrival) {pick : Nat} {r : Scene × Stage}
    (hr : s.proceed? caller now pick stage arrival = some r) : c.Heads n caller r := by
  unfold Scene.proceed? at hr
  split at hr
  · exact h.elim
  · exact h.elim
  · rename_i addr purpose failure
    cases hr
    have haddr : addr.dial failure = (c.network.connect addr).2 := ha
    rw [haddr]
    cases purpose with
    | control round later total =>
      obtain ⟨hn, hfresh, turns, hgate⟩ := h
      exact heads_opened_control hn hfresh turns hgate round total pick
    | data round lease refused => exact heads_opened_data h pick
    | seed later => exact h.elim
  · rename_i purpose control answer
    cases hr
    obtain ⟨conn, hconn, rfl, rfl⟩ := ha
    cases purpose with
    | cached round =>
      obtain ⟨hholds, turns⟩ := h
      have hknown := hholds
      obtain ⟨count, -, hknows⟩ := hknown
      obtain ⟨addr, hgate, hcontrol⟩ := hknows.control
      have he : conn = ⟨addr, false⟩ := Option.some.inj (hconn.symm.trans hcontrol)
      subst he
      rw [query_of_accepts (List.find?_some hgate)]
      exact heads_answered_cached hholds turns hgate round pick
    | fresh round conn' =>
      obtain ⟨hn, hfresh, turns, addr, hgate, rfl⟩ := h
      cases hconn
      rw [query_of_accepts (List.find?_some hgate)]
      exact heads_answered_fresh hn hfresh turns hgate round pick
    | check round held =>
      obtain ⟨turns, hleads, hreach⟩ := h
      cases hconn
      have hanswer : (c.network.query held.conn).2 = .ok c.network.rows := by
        obtain ⟨m, hm, hconn⟩ := hreach
        obtain ⟨m', hm', ha⟩ := hleads.good
        rw [hm] at hm'
        cases hm'
        rw [hconn, query_of_accepts ha]
      rw [hanswer]
      exact heads_answered_check turns hleads hreach round pick
  · rename_i conn purpose
    cases hr
    cases purpose with
    | stale round => exact h.elim
    | rejected round lease refused => exact h.elim
    | preempted round lease =>
      obtain ⟨turns, hleads⟩ := h
      exact heads_beginRound (hleads.release rfl) ⟨turns.router_eq, turns.balancer_eq⟩ (round + 1)
        pick
  · cases hr

/-- The connections are spread evenly as the balancer counts them. -/
theorem Rests.spread (h : c.Rests n s) : Spread c.front n s.balancer.pool.countOf := by
  obtain ⟨rfl, hfresh⟩ | ⟨count, hspread, hknows⟩ := h.state
  · exact (spread_zero c.front).congr fun k _ => by rw [hfresh.pool_eq, Pool.countOf_empty]
  · refine hspread.congr fun k hk => ?_
    rw [Pool.countOf, hknows.tallied.count_eq k (good_of_mem_front hk), Option.getD_some]

/-! ## What is known at any time -/

/-- Nothing is known, or the members are. -/
def Learns (c : Site) (s : Scene) : Prop := c.Fresh s ∨ ∃ count, c.Knows count s

theorem Rests.learns (h : c.Rests n s) : c.Learns s := by
  obtain ⟨-, hfresh⟩ | ⟨count, -, hknows⟩ := h.state
  · exact .inl hfresh
  · exact .inr ⟨count, hknows⟩

theorem Holds.learns (h : c.Holds n s) : c.Learns s := by
  obtain ⟨count, -, hknows⟩ := h
  exact .inr ⟨count, hknows⟩

theorem Leads.learns {host : HostKey} (h : c.Leads n host s) : c.Learns s := by
  obtain ⟨count, -, -, -, hknows⟩ := h
  exact .inr ⟨_, hknows⟩

theorem Allows.learns {caller : Caller} {stage : Stage} (h : c.Allows n caller s stage) :
    c.Learns s := by
  unfold Allows at h
  split at h
  · exact .inl h.2.1
  · exact .inl h.2.1
  · exact h.1.learns
  · obtain ⟨-, -, m, -, -, h⟩ := h
    split at h
    · exact h.learns
    · exact h.learns
  · exact h.2.1.learns
  · exact h.2.learns
  · exact h.2.1.learns
  · exact h.1.learns
  · exact h.elim

namespace Learns

theorem owns (h : c.Learns s) : c.Owns s := by
  obtain h | ⟨count, h⟩ := h
  · exact h.toOwns
  · exact h.toOwns

theorem valid (h : c.Learns s) : s.balancer.Valid := by
  rw [Balancer.Valid, h.owns.settings_eq]
  obtain h | ⟨count, h⟩ := h
  · rw [h.pool_eq]
    exact .empty
  · exact h.tallied.valid

theorem mem_members (h : c.Learns s) {host : HostKey} (hm : host ∈ s.balancer.pool.members) :
    host ∈ c.members := by
  obtain h | ⟨count, h⟩ := h
  · rw [h.pool_eq] at hm
    exact absurd hm Std.ExtTreeMap.not_mem_empty
  · rwa [h.tallied.members_eq] at hm

/-- A member that accepts is not in quarantine. -/
theorem free (h : c.Learns s) {k : HostKey} (hk : c.Good k) :
    s.balancer.pool.isQuarantined k = false := by
  obtain h | ⟨count, h⟩ := h
  · rw [h.pool_eq]
    simp [Pool.isQuarantined, Quarantine.contains_eq]
  · exact h.tallied.free k hk

end Learns

end Site

end ConnectionRouter
