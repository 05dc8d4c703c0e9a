import ConnectionRouter.Proofs.Router.Arrivals
import ConnectionRouter.Proofs.Router.QueryTurns

/-!
# What requests leave to bystanders

A request that waits at a turn relies on what others leave alone: its place in the queue, the turn
once it has it, and the control connection while the router's turn is its own.

* `Router.Spares`, `Scene.Spares`, `World.Spares`: what one caller does spares the others.
* `Scene.Ready`, `World.Ready`: what a wait relies on. A request for which the balancer's turn will
  come stands there, and one that asks for the topology has a connection to ask through.
* `Scene.Prepares`, `World.Prepares`: a part of a request spares the others and prepares the wait to
  which it leads, one lemma for each part.
* `Service.ready_run`: in every run no turn is free for which anybody waits, and all requests find
  what their waits rely on.
-/

namespace ConnectionRouter

/-! ## Routers and scenes -/

/-- What one caller does to a router spares the others: each keeps its place at the turn, and the
holder of the turn its control connection. -/
structure Router.Spares (c : Caller) (r r' : Router) : Prop where
  balancer_eq : r'.balancer = r.balancer
  turn : r.turn.Spares c r'.turn
  control : ∀ d, d ≠ c → r.turn.holder = some d → r'.control = r.control

namespace Router.Spares

variable {c : Caller} {r r' r'' : Router}

theorem refl (c : Caller) (r : Router) : r.Spares c r := ⟨rfl, .refl .., fun _ _ _ => rfl⟩

theorem trans (h : r.Spares c r') (h' : r'.Spares c r'') : r.Spares c r'' where
  balancer_eq := h'.balancer_eq.trans h.balancer_eq
  turn := h.turn.trans h'.turn
  control d hd hh := (h'.control d hd (h.turn.holder d hd hh)).trans (h.control d hd hh)

theorem of_turn {turn : Turn} (h : r.turn.Spares c turn) : r.Spares c { r with turn := turn } :=
  ⟨rfl, h, fun _ _ _ => rfl⟩

theorem leave (c : Caller) (r : Router) : r.Spares c { r with turn := r.turn.leave c } :=
  of_turn (r.turn.spares_leave c)

/-- The control connection belongs to the holder of the turn. -/
theorem of_holder (h : r.turn.holder = some c) (control : Option Connection) :
    r.Spares c { r with control := control } where
  balancer_eq := rfl
  turn := .refl ..
  control _ hd hh := absurd (Option.some.inj (hh.symm.trans h)) hd

end Router.Spares

namespace Scene

/-- What one caller does to a scene spares the others. -/
structure Spares (c : Caller) (s s' : Scene) : Prop where
  id_eq : s'.id = s.id
  router : s.router.Spares c s'.router
  turn : s.balancer.turn.Spares c s'.balancer.turn

/-- What a caller relies on while it waits at a stage: its place in the queue for the balancer's
turn, and a connection through which it can ask. -/
def Ready (s : Scene) (c : Caller) : Stage → Prop
  | .awaitingTurn purpose =>
    c ∈ s.balancer.turn.members ∧ (s.refreshConnection? purpose).isSome = true
  | .querying purpose => (s.refreshConnection? purpose).isSome = true
  | _ => True

/-- A part of a request spares the others and prepares the wait to which it leads. -/
structure Prepares (c : Caller) (s : Scene) (r : Scene × Stage) : Prop where
  spares : s.Spares c r.1
  ready : r.1.Ready c r.2

variable {c d : Caller} {s s' s'' : Scene} {r : Scene × Stage}

/-- The connection through which a refresh asks depends on the control connection alone. -/
theorem refreshConnection?_congr (h : s'.router.control = s.router.control)
    (purpose : RefreshPurpose) : s'.refreshConnection? purpose = s.refreshConnection? purpose := by
  cases purpose with
  | cached round => exact h
  | fresh round conn => rfl
  | check round held => rfl

/-- What a wait relies on is the turn and the control connection. -/
theorem ready_congr {stage : Stage} (hturn : s'.balancer.turn = s.balancer.turn)
    (hcontrol : s'.router.control = s.router.control) : s'.Ready c stage ↔ s.Ready c stage := by
  cases stage <;> simp only [Ready, hturn, refreshConnection?_congr hcontrol]

namespace Spares

theorem refl (c : Caller) (s : Scene) : s.Spares c s := ⟨rfl, .refl .., .refl ..⟩

theorem trans (h : s.Spares c s') (h' : s'.Spares c s'') : s.Spares c s'' :=
  ⟨h'.id_eq.trans h.id_eq, h.router.trans h'.router, h.turn.trans h'.turn⟩

/-- What leaves the balancer's turn alone. -/
theorem of_sameTurn (h : SameTurn s s') (hr : s.router.Spares c s'.router) : s.Spares c s' where
  id_eq := h.id_eq
  router := hr
  turn := by
    rw [h.turn_eq]
    exact .refl ..

/-- What leaves the router alone. -/
theorem of_turn {balancer : Balancer} (h : s.balancer.turn.Spares c balancer.turn)
    (ledger : Ledger) : s.Spares c { s with balancer := balancer, ledger := ledger } :=
  ⟨rfl, .refl .., h⟩

theorem leaveControl (c : Caller) (s : Scene) : s.Spares c (s.leaveControl c) :=
  of_sameTurn ⟨rfl, rfl⟩ (.leave c s.router)

theorem release (c : Caller) (s : Scene) (lease : Lease) : s.Spares c (s.release lease) :=
  of_sameTurn ⟨rfl, rfl⟩ (.refl ..)

theorem prepares (h : s.Spares c s') (p : s'.Prepares c r) : s.Prepares c r :=
  ⟨h.trans p.spares, p.ready⟩

/-- A caller that waits still finds what it relies on after another was there. -/
theorem ready (h : s.Spares c s') (hd : d ≠ c) {stage : Stage} (hs : s.router.Stands d stage.use)
    (hr : s.Ready d stage) : s'.Ready d stage := by
  -- the control connection is there because the caller holds the router's turn
  have hconn : ∀ purpose : RefreshPurpose, s.router.Stands d purpose.use →
      (s.refreshConnection? purpose).isSome = true →
      (s'.refreshConnection? purpose).isSome = true := by
    intro purpose hstands hsome
    cases purpose with
    | cached round =>
      rw [refreshConnection?_congr (h.router.control d hd hstands)]
      exact hsome
    | fresh round conn => rfl
    | check round held => rfl
  cases stage with
  | awaitingTurn purpose => exact ⟨(h.turn.mem_iff d hd).mpr hr.1, hconn purpose hs hr.2⟩
  | querying purpose => exact hconn purpose hs hr
  | _ => trivial

end Spares

/-! ## Parts of a request -/

theorem ready_of_not_atTurn {stage : Stage} (h : stage.atTurn = false) : s.Ready c stage := by
  cases stage with
  | awaitingTurn => cases h
  | querying => cases h
  | _ => trivial

theorem atTurn_trySeeds (e : RoutingError) (seeds : List HostAddr) :
    (trySeeds e seeds).atTurn = false := by
  cases seeds <;> rfl

theorem atTurn_seedOpened (later : List HostAddr) (result : Except RoutingError Connection) :
    (seedOpened later result).atTurn = false := by
  cases result with
  | ok conn => rfl
  | error e => exact atTurn_trySeeds e later

theorem reserveNext_prepares (s : Scene) (c : Caller) (round : Nat) (refused : List HostKey)
    (pick : Nat) : s.Prepares c (s.reserveNext round refused pick) := by
  have hsame := sameTurn_reserveNext s round refused pick
  rcases s.reserveNext_cases round refused pick with
    ⟨-, he⟩ | ⟨host, addr, m, -, -, hrouter, -, -, he⟩ <;> rw [he] at hsame ⊢
  · exact ⟨.refl .., trivial⟩
  · refine ⟨.of_sameTurn hsame ?_, trivial⟩
    rw [hrouter]
    exact .refl ..

theorem tryControl_prepares (s : Scene) (c : Caller) (round total : Nat) (addrs : List HostAddr) :
    s.Prepares c (s.tryControl c round total addrs) := by
  cases addrs with
  | nil => exact ⟨.leaveControl c s, trivial⟩
  | cons addr later => exact ⟨.refl .., trivial⟩

theorem bootstrap_prepares (s : Scene) (c : Caller) (round : Nat) :
    s.Prepares c (s.bootstrap c round) := tryControl_prepares ..

theorem keep_prepares (s : Scene) (c : Caller) (round : Nat) (held : Held) :
    s.Prepares c (s.keep round held) := by
  unfold keep
  dsimp only
  split <;> exact ⟨.of_sameTurn ⟨rfl, rfl⟩ (.refl ..), trivial⟩

theorem refreshed_prepares (s : Scene) (purpose : RefreshPurpose)
    (hs : s.router.Stands c purpose.use) (pick : Nat) (ok : Bool) : s.Prepares c (s.refreshed c pick ok purpose) := by
  cases purpose with
  | cached round =>
    cases ok with
    | true => exact (Spares.leaveControl c s).prepares (reserveNext_prepares _ c round [] pick)
    | false =>
      rw [refreshed, if_neg Bool.false_ne_true]
      cases s.router.control with
      | some conn => exact ⟨.of_sameTurn ⟨rfl, rfl⟩ (.of_holder hs none), trivial⟩
      | none => exact bootstrap_prepares s c round
  | fresh round conn =>
    have hput : s.Spares c { s with router := { s.router with control := some conn } } :=
      .of_sameTurn ⟨rfl, rfl⟩ (.of_holder hs.1 (some conn))
    have hleave := hput.trans (.leaveControl c _)
    cases ok with
    | true => exact hleave.prepares (reserveNext_prepares _ c round [] pick)
    | false =>
      exact hleave.prepares ⟨.of_sameTurn ⟨rfl, rfl⟩ (.refl ..),
        ready_of_not_atTurn (atTurn_trySeeds ..)⟩
  | check round held =>
    rw [refreshed]
    split
    · exact ⟨.of_sameTurn ⟨rfl, rfl⟩ (.refl ..), trivial⟩
    · exact keep_prepares s c round held

theorem startRefresh_prepares (s : Scene) (purpose : RefreshPurpose)
    (hs : s.router.Stands c purpose.use)
    (hconn : (s.refreshConnection? purpose).isSome = true) (now : Instant) (pick : Nat) :
    s.Prepares c (s.startRefresh c now pick purpose) := by
  have hconn' : ∀ (balancer : Balancer) (ledger : Ledger),
      ({ s with balancer := balancer, ledger := ledger }.refreshConnection? purpose).isSome =
        true := by
    intro balancer ledger
    cases purpose <;> exact hconn
  unfold startRefresh
  rcases s.balancer.startRefresh_cases c now with
    ⟨turn, -, ht, he⟩ | ⟨-, ht, -, he⟩ | ⟨-, he⟩ <;> rw [he]
  · exact ⟨.of_turn (Turn.spares_take ht) _, hconn' ..⟩
  · refine ⟨.of_turn (Turn.spares_wait ht) _, ?_, hconn' ..⟩
    show c ∈ (s.balancer.turn.wait c).members
    simp [Turn.members, Turn.wait]
  · let s' : Scene := { s with ledger := s.ledger.note (some (.refresh .skipped)) }
    have hspares : s.Spares c s' := .of_turn (.refl ..) _
    exact hspares.prepares (refreshed_prepares s' purpose hs pick true)

theorem turnGranted_prepares (s : Scene) (purpose : RefreshPurpose)
    (hs : s.router.Stands c purpose.use)
    (hconn : (s.refreshConnection? purpose).isSome = true) (now : Instant) (pick : Nat) :
    s.Prepares c (s.turnGranted c now pick purpose) := by
  unfold turnGranted
  rcases s.balancer.resumeRefresh_cases c now with he | he <;> rw [he]
  · exact ⟨.refl .., hconn⟩
  · let s' : Scene := { s with balancer := { s.balancer with turn := s.balancer.turn.leave c } }
    have hspares : s.Spares c s' := .of_turn (s.balancer.turn.spares_leave c) s.ledger
    exact hspares.prepares (refreshed_prepares s' purpose hs pick true)

theorem answered_prepares (s : Scene) (purpose : RefreshPurpose)
    (hs : s.router.Stands c purpose.use) (now : Instant) (pick : Nat) (control : String)
    (answer : Except RoutingError (List Row)) :
    s.Prepares c (s.answered c now pick purpose control answer) := by
  have hturn := s.balancer.turn_finishRefresh c now control answer
  unfold answered
  rcases hf : s.balancer.finishRefresh c now control answer with ⟨b, ok, metric⟩
  rw [hf] at hturn
  let s' : Scene := { s with balancer := b, ledger := s.ledger.note metric }
  have hspares : s.Spares c s' := by
    refine .of_turn ?_ _
    rw [show b.turn = s.balancer.turn.leave c from hturn]
    exact s.balancer.turn.spares_leave c
  exact hspares.prepares (refreshed_prepares s' purpose hs pick ok)

theorem controlGranted_prepares (s : Scene) (hs : s.router.Stands c .inUse) (now : Instant)
    (round pick : Nat) : s.Prepares c (s.controlGranted c now round pick) := by
  unfold controlGranted
  cases hc : s.router.control with
  | some conn =>
    have hconn : (s.refreshConnection? (.cached round)).isSome = true := by
      simp [refreshConnection?, hc]
    exact startRefresh_prepares s (.cached round) hs hconn now pick
  | none => exact bootstrap_prepares s c round

theorem beginRound_prepares (s : Scene) (c : Caller) (now : Instant) (round pick : Nat) :
    s.Prepares c (s.beginRound c now round pick) := by
  unfold beginRound
  split
  · cases ht : s.router.turn.take? c with
    | some turn =>
      let s' : Scene := { s with router := { s.router with turn := turn } }
      have hspares : s.Spares c s' := .of_sameTurn ⟨rfl, rfl⟩ (.of_turn (Turn.spares_take ht))
      have hheld : s'.router.Stands c .inUse := (Turn.mem_members_of_take ht).1
      exact hspares.prepares (controlGranted_prepares s' hheld now round pick)
    | none =>
      dsimp only
      split
      · exact reserveNext_prepares s c round [] pick
      · exact ⟨.of_sameTurn ⟨rfl, rfl⟩ (.of_turn (Turn.spares_wait ht)), trivial⟩
  · exact reserveNext_prepares s c round [] pick

theorem failHost_prepares (s : Scene) (c : Caller) (lease : Lease) (now : Instant) (round : Nat)
    (refused : List HostKey) (pick : Nat) :
    s.Prepares c ((s.failHost lease now).reserveNext round refused pick) :=
  (Spares.of_sameTurn (sameTurn_failHost s lease now) (.refl ..)).prepares
    (reserveNext_prepares ..)

theorem opened_prepares (s : Scene) (purpose : OpenPurpose) (hs : s.router.Stands c purpose.use)
    (now : Instant) (pick : Nat) (result : Except RoutingError Connection) :
    s.Prepares c (s.opened c now pick purpose result) := by
  cases purpose with
  | control round later total =>
    cases result with
    | ok conn => exact startRefresh_prepares s (.fresh round conn) hs rfl now pick
    | error e => exact tryControl_prepares s c round total later
  | data round lease refused =>
    cases result with
    | ok conn =>
      exact startRefresh_prepares s (.check round ⟨lease, conn, refused⟩) hs rfl now pick
    | error e =>
      have hcount : s.Spares c (s.count (.connectAttempt .failed)) :=
        .of_sameTurn ⟨rfl, rfl⟩ (.refl ..)
      exact hcount.prepares (failHost_prepares ..)
  | seed later => exact ⟨.refl .., ready_of_not_atTurn (atTurn_seedOpened ..)⟩

theorem closed_prepares (s : Scene) (c : Caller) (now : Instant) (pick : Nat)
    (purpose : ClosePurpose) : s.Prepares c (s.closed c now pick purpose) := by
  cases purpose with
  | stale round => exact bootstrap_prepares s c round
  | rejected round lease refused => exact failHost_prepares ..
  | preempted round lease =>
    exact (Spares.release c s lease).prepares (beginRound_prepares _ c now (round + 1) pick)

/-- A request that is given up spares the others. -/
theorem abandon_spares (s : Scene) (c : Caller) (stage : Stage) :
    s.Spares c (s.abandon c stage).1 := by
  have hleave : s.Spares c { s with balancer := s.balancer.abandonRefresh c } :=
    .of_turn (s.balancer.turn.spares_leave c) s.ledger
  cases stage with
  | awaitingControl round => exact .leaveControl c s
  | awaitingTurn purpose | querying purpose =>
    cases purpose with
    | cached round => exact hleave.trans (.leaveControl c _)
    | fresh round conn => exact hleave.trans (.leaveControl c _)
    | check round held => exact hleave.trans (.release c _ held.lease)
  | opening addr purpose =>
    cases purpose with
    | control round later total => exact .leaveControl c s
    | data round lease refused => exact .release c s lease
    | seed later => exact .refl c s
  | closing conn purpose =>
    cases purpose with
    | stale round => exact .leaveControl c s
    | rejected round lease refused => exact .release c s lease
    | preempted round lease => exact .release c s lease
  | finished result => exact .refl c s

end Scene

/-! ## Steps of a request -/

namespace World

/-- What one caller does to a world spares the others. -/
structure Spares (c : Caller) (w w' : World) : Prop where
  routers : ∀ (k : String) (r' : Router), w'.routers[k]? = some r' →
    ∃ r, w.routers[k]? = some r ∧ r.Spares c r'
  balancers : ∀ (id : BalancerId) (b' : Balancer), w'.registry.balancer? id = some b' →
    ∃ b, w.registry.balancer? id = some b ∧ b.turn.Spares c b'.turn

/-- What a request relies on while it waits. -/
structure Ready (w : World) (r : Request) : Prop where
  scene : ∀ s, w.scene? r.router = some s → s.Ready r.caller r.stage
  /-- Every connect ends. -/
  due : ∀ addr purpose, r.stage = .opening addr purpose → r.due.isSome = true

/-- A step of a request spares the others and prepares the wait to which it leads. -/
structure Prepares (c : Caller) (w : World) (p : World × Request) : Prop where
  spares : w.Spares c p.1
  ready : p.1.Ready p.2

/-- Nobody waits for a free turn. -/
structure Fair (w : World) : Prop where
  routers : ∀ (k : String) (r : Router), w.routers[k]? = some r → r.turn.Fair
  balancers : ∀ (id : BalancerId) (b : Balancer), w.registry.balancer? id = some b → b.turn.Fair

variable {name : String} {c : Caller} {w w' w'' : World} {r : Request} {s s' : Scene}

namespace Spares

/-- What leaves the routers and the turns of the balancers alone. -/
theorem of_turns (hr : w'.routers = w.routers) (hb : ∀ (id : BalancerId) (b' : Balancer),
    w'.registry.balancer? id = some b' →
      ∃ b, w.registry.balancer? id = some b ∧ b'.turn = b.turn) : w.Spares c w' where
  routers _ r' hr' := ⟨r', hr ▸ hr', .refl ..⟩
  balancers id b' hb' := by
    obtain ⟨b, hold, hturn⟩ := hb id b' hb'
    rw [hturn]
    exact ⟨b, hold, .refl ..⟩

theorem of_eq (hr : w'.routers = w.routers) (hg : w'.registry = w.registry) : w.Spares c w' :=
  of_turns hr fun _ b' hb' => ⟨b', hg ▸ hb', rfl⟩

theorem trans (h : w.Spares c w') (h' : w'.Spares c w'') : w.Spares c w'' where
  routers k r'' hr'' := by
    obtain ⟨r', hr', hspares'⟩ := h'.routers k r'' hr''
    obtain ⟨r, hr, hspares⟩ := h.routers k r' hr'
    exact ⟨r, hr, hspares.trans hspares'⟩
  balancers id b'' hb'' := by
    obtain ⟨b', hb', hspares'⟩ := h'.balancers id b'' hb''
    obtain ⟨b, hb, hspares⟩ := h.balancers id b' hb'
    exact ⟨b, hb, hspares.trans hspares'⟩

theorem fair (h : w.Spares c w') (f : w.Fair) : w'.Fair where
  routers k r' hr' := by
    obtain ⟨r, hr, hspares⟩ := h.routers k r' hr'
    exact hspares.turn.fair (f.routers k r hr)
  balancers id b' hb' := by
    obtain ⟨b, hb, hspares⟩ := h.balancers id b' hb'
    exact hspares.fair (f.balancers id b hb)

theorem exists_scene (h : w.Spares c w') (hs' : w'.scene? name = some s') :
    ∃ s, w.scene? name = some s ∧ s.Spares c s' := by
  obtain ⟨hr', hid', hb'⟩ := scene?_eq_some hs'
  obtain ⟨r, hr, hrouter⟩ := h.routers name _ hr'
  obtain ⟨b, hb, hturn⟩ := h.balancers s'.id _ hb'
  have hid : r.balancer = some s'.id := hrouter.balancer_eq.symm.trans hid'
  exact ⟨⟨r, s'.id, b, w.ledger⟩, by simp [scene?, hr, hid, hb], rfl, hrouter, hturn⟩

/-- A request that waits still finds what it relies on after another was at work. -/
theorem ready (h : w.Spares c w') (hc : r.caller ≠ c) (hf : r.party.Fits w) (hr : w.Ready r) :
    w'.Ready r where
  scene s' hs' := by
    obtain ⟨s, hs, hspares⟩ := h.exists_scene hs'
    exact hspares.ready hc (stands_of_scene hf hs).2 (hr.scene s hs)
  due := hr.due

theorem setScene (hs : w.scene? name = some s) (h : s.Spares c s') :
    w.Spares c (w.setScene name s') where
  routers k r' hr' := by
    obtain ⟨hr, -, -⟩ := scene?_eq_some hs
    simp only [World.setScene, Std.ExtTreeMap.getElem?_insert] at hr'
    split at hr'
    · rename_i hk
      obtain rfl : name = k := by simpa using hk
      cases hr'
      exact ⟨s.router, hr, h.router⟩
    · exact ⟨r', hr', .refl ..⟩
  balancers id b' hb' := by
    obtain ⟨-, -, hb⟩ := scene?_eq_some hs
    simp only [World.setScene, Registry.balancer?_put] at hb'
    split at hb'
    · rename_i hid
      obtain rfl : s.id = id := h.id_eq.symm.trans hid
      rw [hb] at hb'
      cases hb'
      exact ⟨s.balancer, hb, h.turn⟩
    · exact ⟨b', hb', .refl ..⟩

theorem withRouter {found : Router} (hr : w.routers[name]? = some found) {f : Router → Router}
    (h : found.Spares c (f found)) : w.Spares c (w.withRouter name f) where
  routers k r' hr' := by
    by_cases hk : name = k
    · subst hk
      rw [getElem?_withRouter hr] at hr'
      cases hr'
      exact ⟨found, hr, h⟩
    · rw [getElem?_withRouter_of_ne hk] at hr'
      exact ⟨r', hr', .refl ..⟩
  balancers id b' hb' := ⟨b', hb', .refl ..⟩

end Spares

/-- The network and the clock do not matter. -/
theorem Prepares.of_network {p : World × Request} (n : Network) (now : Instant)
    (h : Prepares c { w with network := n, now := now } p) : w.Prepares c p :=
  ⟨⟨h.spares.routers, h.spares.balancers⟩, h.ready⟩

theorem enter_prepares (w : World) (r : Request) (stage : Stage)
    (h : ∀ s, w.scene? r.router = some s → s.Ready r.caller stage) (c : Caller) :
    w.Prepares c (w.enter r stage) := by
  unfold enter
  split
  · exact ⟨.of_eq rfl rfl, fun _ _ => trivial, fun _ _ _ => rfl⟩
  · rename_i hne
    exact ⟨.of_eq rfl rfl, h, fun addr purpose he => absurd he (hne addr purpose)⟩

theorem carryOn_prepares (w : World) (r : Request) (part : Scene → Scene × Stage)
    (hs : w.scene? r.router = some s) (h : s.Prepares r.caller (part s)) :
    w.Prepares r.caller (w.carryOn r part) := by
  obtain ⟨-, hid, -⟩ := scene?_eq_some hs
  have hid' : (part s).1.router.balancer = some (part s).1.id := by
    rw [h.spares.router.balancer_eq, h.spares.id_eq]
    exact hid
  have henter := (w.setScene r.router (part s).1).enter_prepares r (part s).2
    (fun s' hs' => by
      rw [scene?_setScene hs h.spares.id_eq hid'] at hs'
      cases hs'
      exact h.ready) r.caller
  rw [carryOn_eq hs]
  exact ⟨(Spares.setScene hs h.spares).trans henter.spares, henter.ready⟩

theorem begin_prepares (w : World) (name : String) (caller : Caller) (pick : Nat) :
    w.Prepares caller (w.begin name caller pick) := by
  unfold begin
  cases hr : w.routers[name]? with
  | none => exact ⟨.of_eq rfl rfl, fun _ _ => trivial, fun _ _ he => by cases he⟩
  | some found =>
    dsimp only
    split
    · cases hs : w.scene? name with
      | none =>
        simp only [play, hs]
        exact enter_prepares w ⟨name, caller, _, none⟩ (.finished (.error _))
          (fun _ _ => trivial) caller
      | some s =>
        exact carryOn_prepares w ⟨name, caller, _, none⟩ (·.beginRound caller w.now 1 pick) hs
          (s.beginRound_prepares ..)
    · have henter := enter_prepares { w with ledger := (connectThroughSeeds found w.ledger).1 }
        ⟨name, caller, .finished (.error (.clusterUnavailable .noSeeds)), none⟩
        (connectThroughSeeds found w.ledger).2
        (fun _ _ => Scene.ready_of_not_atTurn (Scene.atTurn_trySeeds ..)) caller
      exact ⟨⟨henter.spares.routers, henter.spares.balancers⟩, henter.ready⟩

/-- A step of a request, seen by those who wait. -/
theorem proceed?_prepares (hf : r.party.Fits w) (hready : w.Ready r) {pick : Nat}
    {p : World × Request} (hp : w.proceed? r pick = some p) : w.Prepares r.caller p := by
  -- a part that is played in a world with another network
  have hplay : ∀ (n : Network) (part : Scene → Scene × Stage) (s : Scene),
      w.scene? r.router = some s → s.Prepares r.caller (part s) →
      w.Prepares r.caller (({ w with network := n } : World).carryOn r part) :=
    fun n part s hs h => .of_network n w.now
      (carryOn_prepares { w with network := n } r part hs h)
  obtain ⟨name, caller, stage, due⟩ := r
  unfold proceed? at hp
  cases stage with
  | awaitingControl round =>
    obtain ⟨s, hs, hr, -, -⟩ := exists_scene hf rfl
    have hr' : w.routers[name]? = some s.router := hr
    dsimp only at hp
    split at hp
    · rename_i hheld
      cases hp
      have hstands : s.router.Stands caller .inUse :=
        Turn.isHeldBy_iff.mp (by simpa [hr'] using hheld)
      exact hplay w.network _ s hs (s.controlGranted_prepares hstands ..)
    · cases hp
  | awaitingTurn purpose =>
    obtain ⟨s, hs, -, hstands, -⟩ := exists_scene hf rfl
    dsimp only at hp
    split at hp
    · cases hp
      exact hplay w.network _ s hs
        (s.turnGranted_prepares purpose hstands (hready.scene s hs).2 ..)
    · cases hp
  | opening addr purpose =>
    cases due with
    | none => cases hp
    | some due =>
      dsimp only at hp
      split at hp
      · cases hp
      · obtain ⟨n, failure, ha⟩ :=
          w.exists_arrive ⟨name, caller, .opening addr purpose, some due⟩ addr due
        rw [ha] at hp
        cases purpose with
        | seed later =>
          cases hp
          exact .of_network n w.now (enter_prepares { w with network := n } _ _
            (fun _ _ => Scene.ready_of_not_atTurn (Scene.atTurn_seedOpened ..)) caller)
        | control round later total =>
          cases hp
          obtain ⟨s, hs, -, hstands, -⟩ := exists_scene hf rfl
          exact hplay n _ s hs (s.opened_prepares _ hstands ..)
        | data round lease refused =>
          cases hp
          obtain ⟨s, hs, -, hstands, -⟩ := exists_scene hf rfl
          exact hplay n _ s hs (s.opened_prepares _ hstands ..)
  | querying purpose =>
    obtain ⟨s, hs, -, hstands, -⟩ := exists_scene hf rfl
    have hs' : w.scene? name = some s := hs
    dsimp only at hp
    rw [hs', Option.bind_some] at hp
    cases hconn : s.refreshConnection? purpose with
    | none => simp [hconn] at hp
    | some conn =>
      simp only [hconn, Option.some.injEq] at hp
      rw [← hp]
      exact hplay (w.network.query conn).1 _ s hs (s.answered_prepares purpose hstands ..)
  | closing conn purpose =>
    obtain ⟨s, hs, -, -, -⟩ := exists_scene hf rfl
    cases hp
    exact hplay (w.network.close conn).1 _ s hs (s.closed_prepares ..)
  | finished result => cases hp

theorem resume?_prepares (hf : r.party.Fits w) (hready : w.Ready r) {pick : Nat}
    {p : World × Request} (hp : w.resume? r pick = some p) : w.Prepares r.caller p :=
  .of_network w.network (w.now + w.tick)
    (proceed?_prepares (w := { w with now := w.now + w.tick }) ⟨hf.scene, hf.own, hf.stands⟩
      ⟨hready.scene, hready.due⟩ hp)

theorem abandon_spares (w : World) (r : Request) : w.Spares r.caller (w.abandon r) := by
  unfold abandon
  cases hs : w.scene? r.router with
  | none => exact .of_eq rfl rfl
  | some s =>
    exact (Spares.setScene hs (s.abandon_spares r.caller r.stage)).trans (.of_eq rfl rfl)

/-! ## Steps of a shutdown -/

theorem takeControl_spares {d : Shutdown} {found : Router}
    (hr : w.routers[d.router]? = some found) (h : found.turn.holder = some d.caller) :
    w.Spares d.caller (w.takeControl d).1 := by
  unfold takeControl
  split
  · exact .withRouter hr (.of_holder h none)
  · exact .withRouter hr (.leave ..)

theorem beginShutdown_spares {found : Router} (hr : w.routers[name]? = some found)
    (caller : Caller) : w.Spares caller (w.beginShutdown name caller).1 := by
  unfold beginShutdown
  simp only [hr, Option.bind_some]
  cases ht : found.turn.take? caller with
  | some turn =>
    have htake : w.Spares caller (w.withRouter name ({ · with turn := turn })) :=
      .withRouter hr (.of_turn (Turn.spares_take ht))
    exact htake.trans (takeControl_spares (d := ⟨name, caller, .awaitingControl⟩)
      (getElem?_withRouter hr _) (Turn.mem_members_of_take ht).1)
  | none => exact .withRouter hr (.of_turn (Turn.spares_wait ht))

theorem resumeShutdown?_spares {d : Shutdown} (hf : d.party.Fits w) {p : World × Shutdown}
    (hp : w.resumeShutdown? d = some p) : w.Spares d.caller p.1 := by
  obtain ⟨found, hr, -⟩ := hf.stands
  replace hr : w.routers[d.router]? = some found := hr
  unfold resumeShutdown? at hp
  split at hp
  · cases hp
  · split at hp
    · rename_i hheld
      cases hp
      exact takeControl_spares hr (Turn.isHeldBy_iff.mp (by simpa [hr] using hheld))
    · cases hp
  · rename_i conn _
    cases hp
    let closed : World := { w with network := (w.network.close conn).1 }
    have hclosed : closed.routers[d.router]? = some found := hr
    have hclose : w.Spares d.caller closed := .of_eq rfl rfl
    exact hclose.trans (.withRouter hclosed (.leave ..))

theorem abandonShutdown_spares {d : Shutdown} (hf : d.party.Fits w) :
    w.Spares d.caller (w.abandonShutdown d) := by
  obtain ⟨found, hr, -⟩ := hf.stands
  have hleave : w.Spares d.caller
      (w.withRouter d.router fun r => { r with turn := r.turn.leave d.caller }) :=
    .withRouter hr (.leave ..)
  unfold abandonShutdown
  dsimp only
  split
  · exact hleave.trans (.of_eq rfl rfl)
  · exact hleave

end World

/-! ## Every run -/

theorem Stage.balanced_of_atTurn {stage : Stage} (h : stage.atTurn = true) :
    stage.balanced = true := by
  cases stage with
  | awaitingTurn => rfl
  | querying => rfl
  | _ => cases h

/-- What a wait relies on is there in a larger world. -/
theorem World.Ready.extend {w w' : World} {r : Request} (h : w.Ready r) (hf : r.party.Fits w)
    (hr : w'.routers[r.router]? = w.routers[r.router]?) (he : w.registry.Extends w'.registry) :
    w'.Ready r where
  scene s' hs' := by
    cases hat : r.stage.atTurn with
    | false => exact Scene.ready_of_not_atTurn hat
    | true =>
      obtain ⟨s, hs, -⟩ := exists_scene hf (Stage.balanced_of_atTurn hat)
      obtain ⟨hrouter, hid, hb⟩ := scene?_eq_some hs
      have hb' := he.balancer?_of_some hb
      have hscene : w'.scene? r.router = some { s with ledger := w'.ledger } := by
        have hrouter' : w'.routers[r.router]? = some s.router := hr.trans hrouter
        simp [scene?, hrouter', hid, hb']
      rw [hscene] at hs'
      cases hs'
      exact (Scene.ready_congr rfl rfl).mpr (h.scene s hs)
  due := h.due

theorem World.routers_release (w : World) (lease : Lease) :
    (w.release lease).routers = w.routers := by
  unfold release withBalancer
  split <;> rfl

namespace Service

/-- Nobody waits for a free turn, and every request finds what its wait relies on. -/
structure Ready (s : Service) : Prop where
  fair : s.world.Fair
  requests : ∀ r ∈ s.requests, s.world.Ready r

variable {s s' : Service} {c : Caller}

/-- A request and a shutdown are not known by the same number. -/
theorem Valid.caller_ne_of_shutdown (v : s.Valid) {r : Request} (hr : r ∈ s.requests)
    {d : Shutdown} (hd : d ∈ s.shutdowns) : r.caller ≠ d.caller := by
  have hn := v.sound.callers
  rw [parties, List.map_append, List.map_map, List.map_map] at hn
  exact (List.nodup_append.mp hn).2.2 _ (List.mem_map_of_mem hr) _ (List.mem_map_of_mem hd)

/-- No other request is known by the number of a request. -/
theorem Valid.caller_ne_of_mem_eraseIdx (v : s.Valid) {i : Nat} {r r' : Request}
    (hr : s.requests[i]? = some r) (hr' : r' ∈ s.requests.eraseIdx i) : r'.caller ≠ r.caller := by
  have hn := ((Valid.perm_parties_request hr).map Party.caller).nodup_iff.mp v.sound.callers
  intro he
  refine (List.nodup_cons.mp hn).1 (List.mem_map.mpr ⟨r'.party, ?_, he⟩)
  exact List.mem_append_left _ (List.mem_map_of_mem hr')

namespace Ready

theorem start (nodes : List Node) (tick : Duration) : (start nodes tick).Ready where
  fair := by
    refine ⟨fun k r hr => ?_, fun id b hb => ?_⟩
    · simp [Service.start] at hr
    · simp [Service.start, Registry.balancer?] at hb
  requests r hr := by cases hr

/-- One caller is at work, and the other requests find what their waits rely on. -/
theorem of_spares (k : s.Ready) (v : s.Valid) (s' : Service) (h : s.world.Spares c s'.world)
    (hreq : ∀ r ∈ s'.requests, s'.world.Ready r ∨ r ∈ s.requests ∧ r.caller ≠ c) :
    s'.Ready where
  fair := h.fair k.fair
  requests r hr := by
    rcases hreq r hr with hready | ⟨hr, hc⟩
    · exact hready
    · exact h.ready hc (v.sound.fits _ (Valid.party_mem_parties hr)) (k.requests r hr)

/-- Something happens to the world besides the requests. -/
theorem of_outside (k : s.Ready) (v : s.Valid) (s' : Service)
    (h : s.world.Spares s.callers s'.world) (hreq : ∀ r ∈ s'.requests, r ∈ s.requests) :
    s'.Ready :=
  k.of_spares v s' h fun r hr => .inr ⟨hreq r hr, Nat.ne_of_lt (v.caller_lt (hreq r hr))⟩

theorem create (k : s.Ready) (v : s.Valid) {name : String} (hnew : s.world.routers[name]? = none)
    {config : Config} {r : Router} {registry : Registry}
    (hcreate : Router.create config s.world.registry = .ok (r, registry)) :
    Ready { s with world := s.world.install name r registry } := by
  obtain ⟨-, hturn, hext⟩ := Router.create_eq_ok hcreate
  rw [World.install_eq hnew]
  refine ⟨⟨fun k' r' hr' => ?_, fun id b hb => ?_⟩, fun r' hr' => ?_⟩
  · rw [Std.ExtTreeMap.getElem?_insert] at hr'
    split at hr'
    · cases hr'
      rw [hturn]
      exact Turn.fair_empty
    · exact k.fair.routers k' r' hr'
  · rcases hext.balancer? hb with hold | ⟨-, preference, settings, rfl⟩
    · exact k.fair.balancers id b hold
    · exact Turn.fair_empty
  · refine (k.requests r' hr').extend (v.sound.fits _ (Valid.party_mem_parties hr')) ?_ hext
    rw [Std.ExtTreeMap.getElem?_insert, if_neg (by simpa using v.router_ne_of_new hr' hnew)]

theorem resume (k : s.Ready) (v : s.Valid) {i pick : Nat} {r r' : Request} {w : World}
    (hr : s.requests[i]? = some r) (hw : s.world.resume? r pick = some (w, r')) :
    Ready { s with world := w, requests := s.requests.set i r' } := by
  have hmem := List.mem_of_getElem? hr
  have hprepares := World.resume?_prepares (v.fits_request hr) (k.requests r hmem) hw
  refine k.of_spares v _ hprepares.spares fun r₀ hr₀ => ?_
  rcases List.mem_cons.mp ((perm_set hr r').mem_iff.mp hr₀) with rfl | hr₀
  · exact .inl hprepares.ready
  · exact .inr ⟨List.mem_of_mem_eraseIdx hr₀, v.caller_ne_of_mem_eraseIdx hr hr₀⟩

/-- Whatever happens, the turns stay fair and every request finds what its wait relies on. -/
theorem step (k : s.Ready) (v : s.Valid) {e : ServiceEvent} (h : s.step? e = some s') :
    s'.Ready := by
  cases e <;> simp only [step?, Option.bind_eq_bind, Option.bind_eq_some_iff, Option.pure_def,
    Option.some.injEq, Option.guard_eq_some', exists_const] at h
  case create name config =>
    obtain ⟨hnew, ⟨r, registry⟩, hc, rfl⟩ := h
    exact k.create v (by simpa using hnew) (eq_ok_of_toOption hc)
  case request name pick =>
    obtain ⟨found, -, rfl⟩ := h
    have hprepares := s.world.begin_prepares name s.callers pick
    refine k.of_spares v _ hprepares.spares fun r hr => ?_
    rcases List.mem_cons.mp hr with rfl | hr
    · exact .inl hprepares.ready
    · exact .inr ⟨hr, Nat.ne_of_lt (v.caller_lt hr)⟩
  case resume i pick =>
    obtain ⟨r, hr, ⟨w, r'⟩, hw, rfl⟩ := h
    exact k.resume v hr hw
  case deliver i =>
    obtain ⟨r, hr, result, hresult, rfl⟩ := h
    exact k.of_outside v _ (.of_eq rfl rfl) fun _ => List.mem_of_mem_eraseIdx
  case abandon i =>
    obtain ⟨r, hr, -, rfl⟩ := h
    exact k.of_spares v _ (s.world.abandon_spares r) fun r' hr' =>
      .inr ⟨List.mem_of_mem_eraseIdx hr', v.caller_ne_of_mem_eraseIdx hr hr'⟩
  case shutdown name =>
    obtain ⟨found, hr, rfl⟩ := h
    exact k.of_outside v _ (World.beginShutdown_spares hr s.callers) fun _ hr => hr
  case resumeShutdown i =>
    obtain ⟨d, hd, ⟨w, d'⟩, hw, rfl⟩ := h
    exact k.of_spares v _ (World.resumeShutdown?_spares (v.fits_shutdown hd) hw) fun r hr =>
      .inr ⟨hr, v.caller_ne_of_shutdown hr (List.mem_of_getElem? hd)⟩
  case endShutdown i =>
    obtain ⟨d, -, -, rfl⟩ := h
    exact k.of_outside v _ (.of_eq rfl rfl) fun _ hr => hr
  case abandonShutdown i =>
    obtain ⟨d, hd, -, rfl⟩ := h
    exact k.of_spares v _ (World.abandonShutdown_spares (v.fits_shutdown hd)) fun r hr =>
      .inr ⟨hr, v.caller_ne_of_shutdown hr (List.mem_of_getElem? hd)⟩
  case giveBack i =>
    obtain ⟨lease, -, rfl⟩ := h
    exact k.of_outside v _ (.of_turns (s.world.routers_release lease) fun _ _ hb' =>
      World.turn_withBalancer (fun _ => rfl) hb') fun _ hr => hr
  case change c hc =>
    subst h
    obtain ⟨hrouters, -⟩ := World.change_trade "" s.callers s.world hc
    exact k.of_outside v _ (.of_turns hrouters fun _ _ hb' => World.turn_change c hb')
      fun _ hr => hr
  case advance duration =>
    subst h
    exact k.of_outside v _ (.of_eq rfl rfl) fun _ hr => hr
  -- callers give up connections
  case close i | closed i | abandonClose i | drop i =>
    obtain ⟨conn, -, rfl⟩ := h
    exact k.of_outside v _ (.of_eq rfl rfl) fun _ hr => hr

end Ready

/-- In every run the turns are fair, and every request finds what its wait relies on. -/
theorem ready_run (nodes : List Node) (tick : Duration) (events : List ServiceEvent) :
    (run nodes tick events).Ready := by
  have hrun : (run nodes tick events).Valid ∧ (run nodes tick events).Ready :=
    run_induction (motive := fun s => s.Valid ∧ s.Ready)
      ⟨.start nodes tick, .start nodes tick⟩ (fun ⟨v, k⟩ h => ⟨v.step h, k.step v h⟩) events
  exact hrun.2

end Service

end ConnectionRouter
