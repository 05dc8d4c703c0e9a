import ConnectionRouter.Proofs.Router.Service
import Mathlib.Algebra.BigOperators.Group.List.Basic

/-!
# Connections and leases are conserved

What a sound world tells of the numbers of open connections and of leases, and what remains of a
service in which nothing is under way and nothing handed out.

* `World.Accounts.totalOpen_eq`, `World.Accounts.liveLeases_eq`: everything open and everything
  reserved is in somebody's hand or kept by a router.
* `World.Sound.of_shutdownAll`: the routers of a world without parties can be shut down one after
  the other.
* `Service.run_conserves`: the whole account of a run.
-/

namespace ConnectionRouter

namespace World

/-- The control connections that routers keep. -/
def controlConnections (w : World) : List Connection := w.routers.toList.filterMap (·.2.control)

/-- The reservations of all balancers that have not been given back. -/
def liveLeases (w : World) : Nat := (w.registry.balancers.map fun b => b.taken - b.returned).sum

/-- No connection is counted against a host, nor stashed for one. -/
def NothingCounted (w : World) : Prop :=
  ∀ b ∈ w.registry.balancers, ∀ (host : HostKey) (n : Nat),
    (b.pool.counts[host]? = some n → n = 0) ∧ (b.pool.stashed[host]? = some n → n = 0)

/-- The world after all its routers are shut down. -/
def shutdownAll (w : World) : World := w.routers.keys.foldl shutdown w

theorem controls_eq (w : World) (kind : Connection → Bool) :
    w.controls kind = w.controlConnections.countP kind := by
  rw [controls, Table.sumBy_eq_sum, controlConnections]
  induction w.routers.toList with
  | nil => rfl
  | cons e es ih =>
    rw [List.map_cons, List.sum_cons, ih, Router.controls, List.filterMap_cons]
    cases e.2.control with
    | none => simp
    | some conn => simp [List.countP_cons, Nat.add_comm]

theorem sum_map_ite_eq (b n : Nat) :
    ((List.range n).map fun id => if b = id then 1 else 0).sum = if b < n then 1 else 0 := by
  induction n with
  | zero => simp
  | succ n ih =>
    rw [List.range_succ, List.map_append, List.sum_append, ih]
    simp only [List.map_cons, List.map_nil, List.sum_cons, List.sum_nil]
    by_cases h : b = n
    · simp [h]
    · simp only [h, if_false]
      split <;> split <;> omega

/-- Leases of known balancers, balancer by balancer. -/
theorem sum_length_filter {leases : List Lease} {n : Nat} (h : ∀ l ∈ leases, l.balancer < n) :
    ((List.range n).map fun id => (leases.filter (·.balancer = id)).length).sum =
      leases.length := by
  induction leases with
  | nil => simp
  | cons l leases ih =>
    have hl := sum_map_ite_eq l.balancer n
    rw [if_pos (h l List.mem_cons_self)] at hl
    have ih := ih fun l hmem => h l (List.mem_cons_of_mem _ hmem)
    have hcons : ∀ id, ((l :: leases).filter (·.balancer = id)).length =
        (if l.balancer = id then 1 else 0) + (leases.filter (·.balancer = id)).length := by
      intro id
      by_cases hid : l.balancer = id
      · simp [hid, Nat.add_comm]
      · simp [hid]
    simp only [hcons, List.sum_map_add, hl, ih, List.length_cons]
    omega

namespace Accounts

variable {w : World} {hands : List Hand}

/-- All open connections are kept by routers or in hands. -/
theorem totalOpen_eq (a : w.Accounts hands) :
    w.network.cluster.totalOpen = w.controlConnections.length + (connsOf hands).length := by
  have hopen : ∀ member, w.network.cluster.openTo member =
      (w.controlConnections ++ connsOf hands).countP (·.opens member) := by
    intro member
    rw [List.countP_append, ← controls_eq]
    exact a.opens member
  have hclosed : (w.controlConnections ++ connsOf hands).countP (·.closed) = 0 := by
    rw [List.countP_append, ← controls_eq]
    exact a.closed
  have hlen := List.length_eq_countP_add_countP (·.closed)
    (l := w.controlConnections ++ connsOf hands)
  rw [Cluster.totalOpen_eq hopen, ← List.length_append, hlen, hclosed, Nat.zero_add]
  refine List.countP_congr fun c _ => ?_
  simp

/-- All leases that are out are in hands. -/
theorem liveLeases_eq (a : w.Accounts hands) : w.liveLeases = (leasesOf hands).length := by
  have hknown : ∀ l ∈ leasesOf hands, l.balancer < w.registry.entries.length := by
    intro l hl
    have hk := a.known l hl
    by_contra hlt
    simp [Registry.balancer?, List.getElem?_eq_none (Nat.le_of_not_lt hlt)] at hk
  rw [liveLeases, ← sum_length_filter hknown]
  congr 1
  refine List.ext_getElem (by simp [Registry.balancers]) fun id h1 h2 => ?_
  simp only [List.length_map, Registry.balancers] at h1
  have hb := (a.balancers id (w.registry.entries[id].2) (by simp [Registry.balancer?, h1])).taken_eq
  simp only [Registry.balancers, List.map_map, List.getElem_map, Function.comp_apply,
    List.getElem_range]
  omega

/-- Without leases nothing is counted. -/
theorem nothingCounted (a : w.Accounts hands) (h : leasesOf hands = []) : w.NothingCounted := by
  intro b hb host n
  obtain ⟨id, hid, he⟩ := List.getElem_of_mem hb
  have hacc := a.balancers id b (by
    rw [← he]
    simp only [Registry.balancers, List.length_map] at hid
    simp [Registry.balancer?, Registry.balancers, hid])
  have hle := hacc.countOf_le host
  rw [h, List.filter_nil, List.countP_nil] at hle
  exact Pool.Valid.eq_zero_of_countOf hacc.valid (Nat.le_zero.mp hle) n

end Accounts

/-! ## Shutting routers down -/

variable {w : World} {loose : List Hand} {name : String} {r : Router}

/-- Without parties nobody stands at a turn. -/
theorem Sound.turn_eq (s : w.Sound [] loose) (hr : w.routers[name]? = some r) : r.turn = {} :=
  Turn.eq_of_members_eq_nil
    (List.eq_nil_iff_forall_not_mem.mpr fun c => s.absent name r c hr (by simp))

/-- A shutdown of a router without parties keeps a world sound. -/
theorem Sound.of_shutdown (s : w.Sound [] loose) (hr : w.routers[name]? = some r) :
    (w.shutdown name).Sound [] loose := by
  have hfree := s.turn_eq hr
  have hserves : Serves name 0 w {} (w.shutdown name) ⟨name, 0, .away, {}, false⟩ := by
    refine ⟨rfl, rfl, shutdown_trade s.nobodyTwice hr hfree, by simp, by simp, _,
      getElem?_shutdown hr hfree, ?_⟩
    simp [Router.Stands, hfree, Turn.members]
  exact empty_iff.mp (((s.join hr List.not_mem_nil).step hserves).leave rfl)

/-- Routers without parties that are shut down one after the other keep no control connection. -/
theorem Sound.of_shutdowns (s : w.Sound [] loose) (names : List String)
    (hnames : ∀ name ∈ names, w.routers[name]?.isSome = true) :
    (names.foldl shutdown w).Sound [] loose ∧
      ∀ (k : String) (r' : Router), (names.foldl shutdown w).routers[k]? = some r' →
        ∃ r, w.routers[k]? = some r ∧ (k ∈ names ∨ r.control = none → r'.control = none) := by
  induction names generalizing w with
  | nil => exact ⟨s, fun k r' hr' => ⟨r', hr', by simp⟩⟩
  | cons name names ih =>
    obtain ⟨r, hr⟩ := Option.isSome_iff_exists.mp (hnames name List.mem_cons_self)
    have hself := getElem?_shutdown hr (s.turn_eq hr)
    have hrest : ∀ k ∈ names, (w.shutdown name).routers[k]?.isSome = true := by
      intro k hk
      by_cases hne : name = k
      · rw [← hne, hself]
        rfl
      · rw [getElem?_shutdown_of_ne hne]
        exact hnames k (List.mem_cons_of_mem _ hk)
    obtain ⟨hsound, hcontrol⟩ := ih (s.of_shutdown hr) hrest
    refine ⟨hsound, fun k r' hr' => ?_⟩
    obtain ⟨r₁, hr₁, hc⟩ := hcontrol k r' hr'
    by_cases hne : name = k
    · subst hne
      rw [hself] at hr₁
      cases hr₁
      exact ⟨r, hr, fun _ => hc (.inr rfl)⟩
    · rw [getElem?_shutdown_of_ne hne] at hr₁
      refine ⟨r₁, hr₁, fun h => hc (h.imp_left fun hk => ?_)⟩
      exact (List.mem_cons.mp hk).resolve_left fun he => hne he.symm

/-- Once all routers are shut down, no control connection is left. -/
theorem Sound.of_shutdownAll (s : w.Sound [] loose) :
    w.shutdownAll.Sound [] loose ∧ w.shutdownAll.controlConnections = [] := by
  obtain ⟨hsound, hcontrol⟩ := s.of_shutdowns w.routers.keys (by simp)
  refine ⟨hsound, List.filterMap_eq_nil_iff.mpr fun e he => ?_⟩
  obtain ⟨r, hr, hc⟩ := hcontrol e.1 e.2 (Std.ExtTreeMap.mem_toList_iff_getElem?_eq_some.mp he)
  exact hc (.inl (by simp [Std.ExtTreeMap.mem_keys, Std.ExtTreeMap.mem_iff_isSome_getElem?, hr]))

end World

/-! ## The account of a service -/

namespace Service

variable {s : Service}

/-- Nothing is under way, and nobody has a connection or a lease. -/
structure Quiet (s : Service) : Prop where
  requests : s.requests = []
  shutdowns : s.shutdowns = []
  handedOut : s.handedOut = []
  closing : s.closing = []
  returning : s.returning = []

/-- The connections in hands are those of callers and those that requests and shutdowns hold. -/
theorem length_connsOf (s : Service) :
    (connsOf (s.parties.map Party.hand ++ s.loose)).length =
      s.handedOut.length + s.closing.length + s.requests.countP (·.stage.hand.conn.isSome) +
        s.shutdowns.countP (·.stage.hand.conn.isSome) := by
  have hconn : ∀ l : List RoutedConnection,
      (l.map RoutedConnection.hand).countP (·.conn.isSome) = l.length := by
    intro l
    rw [List.countP_map]
    exact List.countP_eq_length.mpr fun c _ => rfl
  have hreturning :
      (s.returning.map fun l => (⟨none, some l⟩ : Hand)).countP (·.conn.isSome) = 0 := by
    rw [List.countP_map]
    exact List.countP_eq_zero.mpr fun l _ => by simp
  simp only [connsOf, List.length_filterMap_eq_countP, parties, loose, List.map_append,
    List.countP_append, List.map_map, hconn, hreturning, List.countP_map]
  simp only [Function.comp_def, Request.party, Shutdown.party]
  omega

/-- The leases in hands are those of connections of callers, those on their way back, and those that
requests hold. -/
theorem length_leasesOf (s : Service) :
    (leasesOf (s.parties.map Party.hand ++ s.loose)).length =
      (s.handedOut ++ s.closing).countP (·.lease.isSome) + s.returning.length +
        s.requests.countP (·.stage.hand.lease.isSome) := by
  have hshutdowns : (s.shutdowns.map Shutdown.party).countP (·.hand.lease.isSome) = 0 := by
    rw [List.countP_map]
    refine List.countP_eq_zero.mpr fun d _ => ?_
    obtain ⟨name, caller, stage⟩ := d
    cases stage <;> simp [Shutdown.party, ShutdownStage.hand]
  have hreturning : (s.returning.map fun l => (⟨none, some l⟩ : Hand)).countP (·.lease.isSome) =
      s.returning.length := by
    rw [List.countP_map]
    exact List.countP_eq_length.mpr fun l _ => rfl
  simp only [leasesOf, List.length_filterMap_eq_countP, parties, loose, List.map_append,
    List.countP_append, hreturning]
  simp only [List.countP_map, Function.comp_def, Request.party, RoutedConnection.hand]
    at hshutdowns ⊢
  omega

namespace Valid

theorem totalOpen_eq (v : s.Valid) : s.world.network.cluster.totalOpen =
    s.handedOut.length + s.closing.length + s.world.controlConnections.length +
      s.requests.countP (·.stage.hand.conn.isSome) +
      s.shutdowns.countP (·.stage.hand.conn.isSome) := by
  rw [v.sound.accounts.totalOpen_eq, length_connsOf]
  omega

theorem liveLeases_eq (v : s.Valid) : s.world.liveLeases =
    (s.handedOut ++ s.closing).countP (·.lease.isSome) + s.returning.length +
      s.requests.countP (·.stage.hand.lease.isSome) := by
  rw [v.sound.accounts.liveLeases_eq, length_leasesOf]

/-- The world of a quiet service is sound on its own. -/
theorem sound_of_quiet (v : s.Valid) (q : s.Quiet) : s.world.Sound [] [] := by
  have hs := v.sound
  rwa [parties, loose, q.requests, q.shutdowns, q.handedOut, q.closing, q.returning] at hs

end Valid

/-- Control connections are all that a sound world without parties and hands has open. -/
theorem nothing_left {w : World} (hs : w.Sound [] []) : w.NothingCounted ∧ w.liveLeases = 0 ∧
    w.network.cluster.totalOpen = w.controlConnections.length :=
  ⟨hs.accounts.nothingCounted rfl, hs.accounts.liveLeases_eq, hs.accounts.totalOpen_eq⟩

/-- **No orphaned connection or reservation.** At every moment of every run, the open connections
are those that callers have, those that routers keep and those that requests and shutdowns hold,
and the leases that are out are those of connections that callers have or had and those of requests.
When nothing is under way and nobody has anything, no reservation and no count is left; once the
routers are shut down, no connection is open. -/
theorem run_conserves (nodes : List Node) (tick : Duration) (events : List ServiceEvent) :
    let s := run nodes tick events
    s.world.network.cluster.totalOpen =
        s.handedOut.length + s.closing.length + s.world.controlConnections.length +
          s.requests.countP (·.stage.hand.conn.isSome) +
          s.shutdowns.countP (·.stage.hand.conn.isSome) ∧
      s.world.controlConnections.length ≤ s.world.routers.size ∧
      s.world.liveLeases =
        (s.handedOut ++ s.closing).countP (·.lease.isSome) + s.returning.length +
          s.requests.countP (·.stage.hand.lease.isSome) ∧
      (s.Quiet →
        s.world.NothingCounted ∧ s.world.liveLeases = 0 ∧
          (s.world.controlConnections = [] → s.world.network.cluster.totalOpen = 0) ∧
          s.world.shutdownAll.NothingCounted ∧ s.world.shutdownAll.liveLeases = 0 ∧
          s.world.shutdownAll.network.cluster.totalOpen = 0) := by
  intro s
  have v : s.Valid := valid_run nodes tick events
  refine ⟨v.totalOpen_eq, ?_, v.liveLeases_eq, fun q => ?_⟩
  · exact (List.length_filterMap_le _ _).trans_eq Std.ExtTreeMap.length_toList
  · have hs := v.sound_of_quiet q
    obtain ⟨hcounts, hleases, hopen⟩ := nothing_left hs
    obtain ⟨hs', hcontrol⟩ := hs.of_shutdownAll
    obtain ⟨hcounts', hleases', hopen'⟩ := nothing_left hs'
    rw [hcontrol] at hopen'
    refine ⟨hcounts, hleases, fun h => ?_, hcounts', hleases', hopen'⟩
    rw [hopen, h]
    rfl

/-- One request is given up after its reservation; another is served, and its connection closed. -/
def abandonedAndClosed : List ServiceEvent :=
  [.create "r" { cluster := { seeds := ["a"] } }, .request "r" 0, .resume 0 0, .resume 0 0,
    .abandon 0, .request "r" 0, .resume 0 0, .deliver 0, .close 0, .closed 0, .giveBack 0]

theorem run_conserves_abandonedAndClosed :
    let s := run [{ host := "a" }] 0 abandonedAndClosed
    s.Quiet ∧ s.world.network.cluster.totalOpen = 1 ∧ s.world.liveLeases = 0 ∧
      s.world.shutdownAll.network.cluster.totalOpen = 0 := by
  intro s
  have hquiet : s.Quiet := by constructor <;> decide +kernel
  obtain ⟨-, -, -, h⟩ := run_conserves [{ host := "a" }] 0 abandonedAndClosed
  obtain ⟨-, hleases, -, -, -, hopen⟩ := h hquiet
  exact ⟨hquiet, by decide +kernel, hleases, hopen⟩

end Service

end ConnectionRouter
