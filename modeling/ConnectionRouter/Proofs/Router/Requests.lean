import ConnectionRouter.Proofs.Router.WorldTrades

/-!
# Requests as trades

Every step of a request is a trade with its world, from its start to its end or until it is given
up (`World.begin_serves`, `World.resume?_serves`, `World.abandon_serves`). Between its steps a
request relies on its router and on its standing there (`Party.Fits`); the trades of others leave
both alone (`Party.Fits.follow`).
-/

namespace ConnectionRouter

/-- A task at work with a router. -/
structure Party where
  router : String
  caller : Caller
  use : ControlUse := .away
  hand : Hand := {}
  /-- Works with the balancer of the router. -/
  balanced : Bool := false

def Request.party (r : Request) : Party where
  router := r.router
  caller := r.caller
  use := r.stage.use
  hand := r.stage.hand
  balanced := r.stage.balanced

/-- What a party relies on. -/
structure Party.Fits (p : Party) (w : World) : Prop where
  scene : p.balanced = true → (w.scene? p.router).isSome = true
  own : ∀ l ∈ p.hand.lease, w.balancerOf? p.router = some l.balancer
  stands : ∃ r, w.routers[p.router]? = some r ∧ r.Stands p.caller p.use

namespace World

/-- Nobody stands twice at the turn of a router. -/
def NobodyTwice (w : World) : Prop :=
  ∀ (k : String) (r : Router), w.routers[k]? = some r → r.turn.members.Nodup

theorem isSome_scene?_iff {w : World} {name : String} : (w.scene? name).isSome = true ↔
    ∃ id, w.balancerOf? name = some id ∧ (w.registry.balancer? id).isSome = true := by
  simp only [scene?, balancerOf?, Option.bind_eq_bind, Option.pure_def]
  cases w.routers[name]? with
  | none => simp
  | some r =>
    cases hr : r.balancer with
    | none => simp [hr]
    | some id => cases hb : w.registry.balancer? id <;> simp [hr, hb]

namespace Trade

variable {name k : String} {caller : Caller} {w w' : World} {h h' : Hand}

theorem exists_before (t : Trade name caller w h w' h') {r' : Router}
    (hr : w'.routers[k]? = some r') : ∃ r, w.routers[k]? = some r ∧
      r.Follows (fun c => k = name → c ≠ caller) r' := by
  have hrel := t.routers k
  rw [hr] at hrel
  exact exists_of_rel_some hrel

theorem exists_after (t : Trade name caller w h w' h') {r : Router}
    (hr : w.routers[k]? = some r) : ∃ r', w'.routers[k]? = some r' ∧
      r.Follows (fun c => k = name → c ≠ caller) r' := by
  have hrel := t.routers k
  rw [hr] at hrel
  exact exists_of_some_rel hrel

theorem balancerOf?_eq (t : Trade name caller w h w' h') (k : String) :
    w'.balancerOf? k = w.balancerOf? k := by
  have hrel := t.routers k
  simp only [balancerOf?]
  generalize w.routers[k]? = r at hrel
  generalize w'.routers[k]? = r' at hrel
  cases hrel with
  | none => rfl
  | some hf => exact hf.balancer_eq

theorem isSome_scene? (t : Trade name caller w h w' h') (hs : (w.scene? k).isSome = true) :
    (w'.scene? k).isSome = true := by
  rw [isSome_scene?_iff] at hs ⊢
  simpa only [t.balancerOf?_eq, t.isSome_balancer?_eq] using hs

theorem nobodyTwice (t : Trade name caller w h w' h') (hn : w.NobodyTwice) : w'.NobodyTwice := by
  intro k r' hr'
  obtain ⟨r, hr, hf⟩ := t.exists_before hr'
  exact hf.nodup (hn k r hr)

end Trade

end World

/-- What a party relies on stays while others trade. -/
theorem Party.Fits.follow {p : Party} {w w' : World} {name : String} {caller : Caller}
    {h h' : Hand} (f : p.Fits w) (t : w.Trade name caller h w' h')
    (hne : p.router = name → p.caller ≠ caller) : p.Fits w' where
  scene hb := t.isSome_scene? (f.scene hb)
  own l hl := (t.balancerOf?_eq p.router).trans (f.own l hl)
  stands := by
    obtain ⟨r, hr, hs⟩ := f.stands
    obtain ⟨r', hr', hf⟩ := t.exists_after hr
    exact ⟨r', hr', hf.stands p.caller hne p.use hs⟩

/-- A connect that takes no time is over at once, whatever its limit. -/
theorem Due.ofDelay_zero (now : Instant) (limit : Duration) : ofDelay now 0 limit = ⟨now, false⟩ :=
  if_neg (Nat.not_lt_zero limit)

namespace World

/-- A world with a party in it after a step of a caller that came with a hand. -/
structure Serves (name : String) (caller : Caller) (w : World) (h : Hand) (w' : World) (p : Party) :
    Prop where
  router_eq : p.router = name
  caller_eq : p.caller = caller
  trade : Trade name caller w h w' p.hand
  fits : p.Fits w'

variable {name : String} {caller : Caller} {w w' w'' : World} {h h' : Hand} {r : Request}

theorem Trade.serves {p : Party} (t : Trade name caller w h w' h')
    (hp : Serves name caller w' h' w'' p) : Serves name caller w h w'' p :=
  ⟨hp.router_eq, hp.caller_eq, t.trans hp.trade, hp.fits⟩

/-- A request enters a stage that fits. -/
theorem enter_serves (w : World) (r : Request) (stage : Stage)
    (f : ({ r with stage := stage } : Request).party.Fits w) :
    Serves r.router r.caller w stage.hand (w.enter r stage).1 (w.enter r stage).2.party := by
  unfold enter
  split
  · rename_i addr purpose
    exact ⟨rfl, rfl, .of_eq w { w with network := (w.network.attempt addr).1 } rfl rfl
      (fun _ => rfl) _, ⟨f.scene, f.own, f.stands⟩⟩
  · exact ⟨rfl, rfl, .refl .., ⟨f.scene, f.own, f.stands⟩⟩

/-- A stage without lease or balancer fits a caller that is away. -/
theorem fits_of_idle {stage : Stage} (hb : stage.balanced = false) (hl : stage.hand.lease = none)
    (hu : stage.use = .away)
    (hs : ∃ r', w.routers[r.router]? = some r' ∧ r'.Stands r.caller .away) :
    ({ r with stage := stage } : Request).party.Fits w where
  scene h := by
    have h' : stage.balanced = true := h
    rw [hb] at h'
    cases h'
  own l h := by
    have h' : l ∈ stage.hand.lease := h
    rw [hl] at h'
    cases h'
  stands := by
    show ∃ r', w.routers[r.router]? = some r' ∧ r'.Stands r.caller stage.use
    rw [hu]
    exact hs

/-- A request plays a part and enters the stage to which it leads. -/
def carryOn (w : World) (r : Request) (part : Scene → Scene × Stage) : World × Request :=
  (w.play r.router part).1.enter r (w.play r.router part).2

theorem carryOn_eq {w : World} {r : Request} {s : Scene} (hs : w.scene? r.router = some s)
    (part : Scene → Scene × Stage) :
    w.carryOn r part = (w.setScene r.router (part s).1).enter r (part s).2 := by
  simp only [carryOn, play, hs]

theorem carryOn_serves (w : World) (r : Request) {s : Scene} (part : Scene → Scene × Stage)
    (hs : w.scene? r.router = some s) (l : Scene.Leads r.caller s h (part s))
    (ho : ∀ l ∈ h.lease, l.balancer = s.id) :
    Serves r.router r.caller w h (w.carryOn r part).1 (w.carryOn r part).2.party := by
  have ht : Trade r.router r.caller w h (w.setScene r.router (part s).1) (part s).2.hand :=
    .setScene hs l.trade ho
  rw [carryOn_eq hs]
  refine ht.serves (enter_serves _ r _ ⟨fun _ => ht.isSome_scene? (by simp [Request.party, hs]),
    fun l' hl' => ?_, (part s).1.router, by simp [setScene, Request.party], l.stands⟩)
  obtain ⟨hr, hid, -⟩ := scene?_eq_some hs
  have hbal : w.balancerOf? r.router = some s.id := by
    rw [balancerOf?, hr]
    exact hid
  rw [l.trade.own ho l' hl']
  exact (ht.balancerOf?_eq r.router).trans hbal

/-! ## The start -/

theorem balanced_trySeeds (e : RoutingError) (seeds : List HostAddr) :
    (trySeeds e seeds).balanced = false := by
  cases seeds <;> rfl

theorem balanced_seedOpened (later : List HostAddr) (result : Except RoutingError Connection) :
    (seedOpened later result).balanced = false := by
  cases result with
  | ok conn => rfl
  | error e => exact balanced_trySeeds e later

/-- A request starts with nothing in its hand. -/
theorem begin_serves (hn : w.NobodyTwice) (name : String) (caller : Caller) (pick : Nat)
    (hs : ∃ r, w.routers[name]? = some r ∧ r.Stands caller .away) :
    Serves name caller w {} (w.begin name caller pick).1 (w.begin name caller pick).2.party := by
  obtain ⟨found, hr, haway⟩ := hs
  unfold begin
  simp only [hr]
  split
  · cases hsc : w.scene? name with
    | none =>
      simp only [play, hsc]
      exact enter_serves w ⟨name, caller, _, none⟩ (.finished (.error _))
        (fits_of_idle rfl rfl rfl ⟨found, hr, haway⟩)
    | some s =>
      obtain ⟨hrs, -, -⟩ := scene?_eq_some hsc
      rw [hr] at hrs
      cases hrs
      exact carryOn_serves w ⟨name, caller, _, none⟩ (·.beginRound caller w.now 1 pick) hsc
        (Scene.beginRound_leads s (hn name _ hr) haway ..) (by simp)
  · set w' : World := { w with ledger := (connectThroughSeeds found w.ledger).1 }
    have ht : Trade name caller w {} w' {} := .of_eq w w' rfl rfl (fun _ => rfl) {}
    have hh : (connectThroughSeeds found w.ledger).2.hand = {} := Scene.hand_trySeeds ..
    have hl := enter_serves w'
      ⟨name, caller, .finished (.error (.clusterUnavailable .noSeeds)), none⟩
      (connectThroughSeeds found w.ledger).2
      (fits_of_idle (balanced_trySeeds ..) (by rw [hh]) (Scene.use_trySeeds ..) ⟨found, hr, haway⟩)
    rw [hh] at hl
    exact ht.serves hl

/-! ## The steps -/

/-- The clock moves. -/
theorem Trade.tick (name : String) (caller : Caller) (w : World) (now : Instant) (h : Hand) :
    Trade name caller w h { w with now := now } h :=
  .of_eq w { w with now := now } rfl rfl (fun _ => rfl) h

/-- The end of a connect brings a connection or nothing. -/
theorem arrive_trade (name : String) (caller : Caller) (w : World) (r : Request) (addr : HostAddr)
    (due : Due) (lease : Option Lease) : Trade name caller w ⟨none, lease⟩ (w.arrive r addr due).1
      ⟨(w.arrive r addr due).2.toOption, lease⟩ := by
  unfold arrive
  split
  · exact .refl ..
  · exact .connect name caller w addr lease

theorem query_trade (w : World) (conn : Connection) (h : Hand) :
    Trade name caller w h { w with network := (w.network.query conn).1 } h :=
  .of_eq w { w with network := (w.network.query conn).1 } rfl rfl
    (fun member => w.network.openTo_query conn member) h

theorem close_trade (name : String) (caller : Caller) (w : World) (conn : Connection)
    (lease : Option Lease) :
    Trade name caller w ⟨some conn, lease⟩ { w with network := (w.network.close conn).1 }
      ⟨none, lease⟩ := by
  rw [Network.close_eq]
  exact .drop name caller w (some conn) lease

/-- The leases of a party are of the balancer in the scene. -/
theorem own_of_scene {p : Party} (hf : p.Fits w) {s : Scene} (hs : w.scene? p.router = some s) :
    ∀ l ∈ p.hand.lease, l.balancer = s.id := by
  intro l hl
  obtain ⟨hr, hid, -⟩ := scene?_eq_some hs
  have ho := hf.own l hl
  rw [balancerOf?, hr] at ho
  exact Option.some.inj (ho.symm.trans hid)

theorem stands_of_scene {p : Party} (hf : p.Fits w) {s : Scene} (hs : w.scene? p.router = some s) :
    w.routers[p.router]? = some s.router ∧ s.router.Stands p.caller p.use := by
  obtain ⟨hr, -, -⟩ := scene?_eq_some hs
  obtain ⟨r, hr', hstands⟩ := hf.stands
  rw [hr] at hr'
  cases hr'
  exact ⟨hr, hstands⟩

/-- A party that works with a balancer has a scene. -/
theorem exists_scene {p : Party} (hf : p.Fits w) (hb : p.balanced = true) :
    ∃ s, w.scene? p.router = some s ∧ w.routers[p.router]? = some s.router ∧
      s.router.Stands p.caller p.use ∧ ∀ l ∈ p.hand.lease, l.balancer = s.id := by
  obtain ⟨s, hs⟩ := Option.isSome_iff_exists.mp (hf.scene hb)
  obtain ⟨hr, hstands⟩ := stands_of_scene hf hs
  exact ⟨s, hs, hr, hstands, own_of_scene hf hs⟩

theorem arrive_eq (w : World) (r : Request) (addr : HostAddr) (due : Due) :
    ∃ n, (w.arrive r addr due).1 = { w with network := n } := by
  unfold arrive
  split
  · exact ⟨w.network, rfl⟩
  · exact ⟨_, rfl⟩

theorem fits_arrive {p : Party} (hf : p.Fits w) (r : Request) (addr : HostAddr) (due : Due) :
    p.Fits (w.arrive r addr due).1 := by
  obtain ⟨n, hw⟩ := w.arrive_eq r addr due
  rw [hw]
  exact ⟨hf.scene, hf.own, hf.stands⟩

/-- A connect of a balanced request is over. -/
theorem arrived_serves (hn : w.NobodyTwice) {addr : HostAddr} {purpose : OpenPurpose}
    (hr : r.stage = .opening addr purpose) (hf : r.party.Fits w) (hb : r.stage.balanced = true)
    {due : Due} {result : Except RoutingError Connection} (ha : w.arrive r addr due = (w', result))
    (pick : Nat) :
    Serves r.router r.caller w r.stage.hand
      (w'.carryOn r (·.opened r.caller w'.now pick purpose result)).1
      (w'.carryOn r (·.opened r.caller w'.now pick purpose result)).2.party := by
  have ht := arrive_trade r.router r.caller w r addr due purpose.lease?
  have hfits := fits_arrive hf r addr due
  rw [ha] at ht hfits
  obtain ⟨s, hs, hrouter, hstands, ho⟩ := exists_scene hfits hb
  simp only [Request.party, hr] at hstands ho ⊢
  exact ht.serves (carryOn_serves w' r (·.opened r.caller w'.now pick purpose result) hs
    (Scene.opened_leads s (ht.nobodyTwice hn r.router _ hrouter) purpose hstands ..) ho)

/-- A connect of a request without balancing is over. -/
theorem seedArrived_serves {addr : HostAddr} {later : List HostAddr}
    (hr : r.stage = .opening addr (.seed later)) (hf : r.party.Fits w) {due : Due}
    {result : Except RoutingError Connection} (ha : w.arrive r addr due = (w', result)) :
    Serves r.router r.caller w r.stage.hand (w'.enter r (seedOpened later result)).1
      (w'.enter r (seedOpened later result)).2.party := by
  have ht := arrive_trade r.router r.caller w r addr due none
  have hfits := fits_arrive hf r addr due
  rw [ha] at ht hfits
  have hh := Scene.hand_seedOpened later result
  have hstands := hfits.stands
  simp only [Request.party, hr] at hstands ⊢
  have hl := enter_serves w' r (seedOpened later result)
    (fits_of_idle (balanced_seedOpened ..) (by rw [hh]) (Scene.use_seedOpened ..) hstands)
  rw [hh] at hl
  exact ht.serves hl

/-- A step of a request is a trade of what it holds. -/
theorem proceed?_serves (hn : w.NobodyTwice) (hf : r.party.Fits w) {pick : Nat}
    {p : World × Request} (hp : w.proceed? r pick = some p) :
    Serves r.router r.caller w r.stage.hand p.1 p.2.party := by
  obtain ⟨name, caller, stage, due⟩ := r
  unfold proceed? at hp
  cases stage with
  | awaitingControl round =>
    dsimp only at hp
    split at hp
    · rename_i hheld
      cases hp
      obtain ⟨s, hs, hr, -, ho⟩ := exists_scene hf rfl
      have hr' : w.routers[name]? = some s.router := hr
      have hstands : s.router.Stands caller .inUse :=
        Turn.isHeldBy_iff.mp (by simpa [hr'] using hheld)
      exact carryOn_serves w ⟨name, caller, _, due⟩ (·.controlGranted caller w.now round pick) hs
        (Scene.controlGranted_leads s (hn name _ hr) hstands ..) ho
    · cases hp
  | awaitingTurn purpose =>
    dsimp only at hp
    split at hp
    · cases hp
      obtain ⟨s, hs, hr, hstands, ho⟩ := exists_scene hf rfl
      exact carryOn_serves w ⟨name, caller, _, due⟩ (·.turnGranted caller w.now pick purpose) hs
        (Scene.turnGranted_leads s (hn name _ hr) purpose hstands ..) ho
    · cases hp
  | opening addr purpose =>
    cases due with
    | none => cases hp
    | some due =>
      dsimp only at hp
      split at hp
      · cases hp
      · cases purpose with
        | control round later total =>
          cases hp
          exact arrived_serves hn rfl hf rfl rfl pick
        | data round lease refused =>
          cases hp
          exact arrived_serves hn rfl hf rfl rfl pick
        | seed later =>
          cases hp
          exact seedArrived_serves rfl hf rfl
  | querying purpose =>
    obtain ⟨s, hs, hr, hstands, ho⟩ := exists_scene hf rfl
    have hs' : w.scene? name = some s := hs
    dsimp only at hp
    rw [hs', Option.bind_some] at hp
    cases hconn : s.refreshConnection? purpose with
    | none => simp [hconn] at hp
    | some conn =>
      simp only [hconn, Option.some.injEq] at hp
      rw [← hp]
      exact (query_trade w conn _).serves (carryOn_serves
        { w with network := (w.network.query conn).1 } ⟨name, caller, _, due⟩
        (·.answered caller w.now pick purpose conn.addr.host (w.network.query conn).2) hs
        (Scene.answered_leads s (hn name _ hr) purpose hstands ..) ho)
  | closing conn purpose =>
    obtain ⟨s, hs, hr, hstands, ho⟩ := exists_scene hf rfl
    cases hp
    exact (close_trade name caller w conn purpose.lease?).serves
      (carryOn_serves { w with network := (w.network.close conn).1 } ⟨name, caller, _, due⟩
        (·.closed caller w.now pick purpose) hs
        (Scene.closed_leads s (hn name _ hr) purpose hstands ..) ho)
  | finished result => cases hp

/-- The next step of a request is a trade of what it holds. -/
theorem resume?_serves (hn : w.NobodyTwice) (hf : r.party.Fits w) {pick : Nat}
    {p : World × Request} (hp : w.resume? r pick = some p) :
    Serves r.router r.caller w r.stage.hand p.1 p.2.party :=
  (Trade.tick r.router r.caller w (w.now + w.tick) r.stage.hand).serves
    (proceed?_serves (w := { w with now := w.now + w.tick }) hn
      ⟨hf.scene, hf.own, hf.stands⟩ hp)

/-! ## The end -/

/-- Before its end, a request that needs no balancer holds nothing. -/
theorem idle_of_not_balanced {stage : Stage} (hb : ¬stage.balanced = true)
    (hne : ∀ result, stage ≠ .finished result) : stage.hand = {} ∧ stage.use = .away := by
  cases stage with
  | opening addr purpose =>
    cases purpose with
    | seed later => exact ⟨rfl, rfl⟩
    | _ => exact absurd rfl hb
  | finished result => exact absurd rfl (hne result)
  | _ => exact absurd rfl hb

/-- A request that is given up before it has a result leaves with an empty hand. -/
theorem abandon_serves (hn : w.NobodyTwice) (hf : r.party.Fits w) (hr : r.result? = none) :
    Serves r.router r.caller w r.stage.hand (w.abandon r)
      ⟨r.router, r.caller, .away, {}, false⟩ := by
  have hne : ∀ result, r.stage ≠ .finished result := by
    intro result he
    simp [Request.result?, he] at hr
  unfold abandon
  cases hs : w.scene? r.router with
  | none =>
    obtain ⟨hh, hu⟩ := idle_of_not_balanced
      (fun hb => by simpa [Request.party, hs] using hf.scene hb) hne
    have hstands := hf.stands
    simp only [Request.party, hu] at hstands
    rw [hh]
    exact ⟨rfl, rfl, .refl .., ⟨by simp, by simp, hstands⟩⟩
  | some s =>
    obtain ⟨hrouter, hstands⟩ := stands_of_scene hf hs
    replace hstands : s.router.Stands r.caller r.stage.use := hstands
    obtain ⟨conn, hconn, ht, haway⟩ := Scene.abandon_trade (hn _ _ hrouter) hstands hne
    dsimp only
    rw [hconn]
    have ht' : Trade r.router r.caller w r.stage.hand _ _ := .setScene hs ht (own_of_scene hf hs)
    exact ⟨rfl, rfl, ht'.trans (.drop _ _ _ conn none), by simp, by simp,
      (s.abandon r.caller r.stage).1.router, by simp [drop, setScene], haway⟩

end World

end ConnectionRouter
