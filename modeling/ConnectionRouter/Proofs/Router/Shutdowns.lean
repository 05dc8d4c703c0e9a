import ConnectionRouter.Proofs.Router.Requests

/-!
# Shutdowns as trades

Every step of a shutdown is a trade with its world (`World.beginShutdown_serves`,
`World.resumeShutdown?_serves`, `World.abandonShutdown_serves`). A router whose turn is free is shut
down in one go and keeps no control connection (`World.shutdown_trade`, `World.getElem?_shutdown`).
-/

namespace ConnectionRouter

namespace ShutdownStage

def use : ShutdownStage → ControlUse
  | awaitingControl => .queued
  | closing _ => .replacing
  | finished => .away

def hand : ShutdownStage → Hand
  | closing conn => ⟨some conn, none⟩
  | awaitingControl | finished => {}

end ShutdownStage

def Shutdown.party (d : Shutdown) : Party where
  router := d.router
  caller := d.caller
  use := d.stage.use
  hand := d.stage.hand

/-- A shutdown relies on its standing alone. -/
theorem Shutdown.fits {w : World} {d : Shutdown}
    (hs : ∃ r, w.routers[d.router]? = some r ∧ r.Stands d.caller d.stage.use) : d.party.Fits w where
  scene h := by cases h
  own l h := by
    obtain ⟨name, caller, stage⟩ := d
    cases stage <;> cases h
  stands := hs

namespace World

variable {name : String} {caller : Caller} {w : World} {d : Shutdown} {r : Router}

theorem getElem?_withRouter (hr : w.routers[name]? = some r) (f : Router → Router) :
    (w.withRouter name f).routers[name]? = some (f r) := by
  simp [withRouter, hr]

/-- The holder of the turn takes the control connection, or leaves if there is none. -/
theorem takeControl_serves (hn : w.NobodyTwice) (d : Shutdown) (hr : w.routers[d.router]? = some r)
    (hs : r.Stands d.caller .inUse) :
    Serves d.router d.caller w {} (w.takeControl d).1 (w.takeControl d).2.party := by
  unfold takeControl
  cases hc : r.control with
  | some conn =>
    simp only [hr, Option.bind_some, hc]
    exact ⟨rfl, rfl, .withRouter hr (.takeControl hc) none,
      Shutdown.fits ⟨_, getElem?_withRouter hr _, hs, rfl⟩⟩
  | none =>
    simp only [hr, Option.bind_some, hc]
    exact ⟨rfl, rfl, .withRouter hr (.leave ..) none,
      Shutdown.fits ⟨_, getElem?_withRouter hr _, Router.stands_leave (hn d.router r hr) d.caller⟩⟩

/-- A shutdown starts with nothing in its hand. -/
theorem beginShutdown_serves (hn : w.NobodyTwice) (caller : Caller)
    (hr : w.routers[name]? = some r) (hs : r.Stands caller .away) :
    Serves name caller w {} (w.beginShutdown name caller).1
      (w.beginShutdown name caller).2.party := by
  unfold beginShutdown
  cases ht : r.turn.take? caller with
  | some turn =>
    simp only [hr, Option.bind_some, ht]
    have htrade : Trade name caller w {} (w.withRouter name ({ · with turn := turn })) {} :=
      .withRouter hr (.take ht hs none) none
    refine htrade.serves (takeControl_serves (htrade.nobodyTwice hn)
      ⟨name, caller, .awaitingControl⟩ (getElem?_withRouter hr _) ?_)
    rw [(Turn.take?_eq_some ht).2]
    rfl
  | none =>
    simp only [hr, Option.bind_some, ht]
    refine ⟨rfl, rfl, .withRouter hr (.wait hs none) none,
      Shutdown.fits ⟨_, getElem?_withRouter hr _, ?_⟩⟩
    show caller ∈ (r.turn.wait caller).members
    simp [Turn.members, Turn.wait]

/-- A caller leaves the turn of a router. -/
theorem leave_serves (hn : w.NobodyTwice) (caller : Caller) (hr : w.routers[name]? = some r)
    (conn : Option Connection) :
    Trade name caller w ⟨conn, none⟩
        (w.withRouter name fun r => { r with turn := r.turn.leave caller }) ⟨conn, none⟩ ∧
      Party.Fits ⟨name, caller, .away, {}, false⟩
        (w.withRouter name fun r => { r with turn := r.turn.leave caller }) :=
  ⟨.withRouter hr (.leave caller r conn) none, by simp, by simp,
    _, getElem?_withRouter hr _, Router.stands_leave (hn name r hr) caller⟩

/-- The next step of a shutdown is a trade of what it holds. -/
theorem resumeShutdown?_serves (hn : w.NobodyTwice) (hf : d.party.Fits w) {p : World × Shutdown}
    (hp : w.resumeShutdown? d = some p) :
    Serves d.router d.caller w d.stage.hand p.1 p.2.party := by
  obtain ⟨name, caller, stage⟩ := d
  obtain ⟨r, hr, hs⟩ := hf.stands
  replace hr : w.routers[name]? = some r := hr
  unfold resumeShutdown? at hp
  cases stage with
  | finished => cases hp
  | awaitingControl =>
    dsimp only at hp
    split at hp
    · rename_i hheld
      cases hp
      exact takeControl_serves hn _ hr (Turn.isHeldBy_iff.mp (by simpa [hr] using hheld))
    · cases hp
  | closing conn =>
    cases hp
    have hclose := close_trade name caller w conn none
    obtain ⟨hleave, haway⟩ := leave_serves (w := { w with network := (w.network.close conn).1 })
      (hclose.nobodyTwice hn) caller hr none
    exact ⟨rfl, rfl, hclose.trans hleave, Shutdown.fits haway.stands⟩

/-- A shutdown that is given up leaves with an empty hand. -/
theorem abandonShutdown_serves (hn : w.NobodyTwice) (hf : d.party.Fits w) :
    Serves d.router d.caller w d.stage.hand (w.abandonShutdown d)
      ⟨d.router, d.caller, .away, {}, false⟩ := by
  obtain ⟨name, caller, stage⟩ := d
  obtain ⟨r, hr, -⟩ := hf.stands
  cases stage with
  | closing conn =>
    obtain ⟨hleave, haway⟩ := leave_serves hn caller hr (some conn)
    exact ⟨rfl, rfl, hleave.trans (.drop _ _ _ (some conn) none), haway.scene, haway.own,
      haway.stands⟩
  | _ =>
    obtain ⟨hleave, haway⟩ := leave_serves hn caller hr none
    exact ⟨rfl, rfl, hleave, haway⟩

/-! ## The whole shutdown -/

/-- A shutdown does not wait for a turn that is free. -/
theorem stage_beginShutdown (hr : w.routers[name]? = some r) (hfree : r.turn = {})
    (caller : Caller) : (w.beginShutdown name caller).2.stage ≠ .awaitingControl := by
  have ht : r.turn.take? caller = some ⟨some caller, []⟩ := by rw [hfree]; rfl
  simp only [beginShutdown, hr, Option.bind_some, ht, takeControl, getElem?_withRouter hr]
  cases r.control <;> simp

/-- The shutdown of a router whose turn is free is over in one go. -/
theorem shutdown_trade (hn : w.NobodyTwice) (hr : w.routers[name]? = some r) (hfree : r.turn = {}) :
    Trade name 0 w {} (w.shutdown name) {} := by
  have hb := beginShutdown_serves hn 0 hr (by simp [Router.Stands, hfree, Turn.members])
  have hstage := stage_beginShutdown hr hfree 0
  unfold shutdown
  generalize w.beginShutdown name 0 = p at hb hstage
  obtain ⟨w', name', caller, stage⟩ := p
  cases stage with
  | finished => exact hb.trade
  | closing conn =>
    have hclose := resumeShutdown?_serves (hb.trade.nobodyTwice hn) hb.fits rfl
    obtain rfl : name' = name := hb.router_eq
    obtain rfl : caller = 0 := hb.caller_eq
    exact hb.trade.trans hclose.trade
  | awaitingControl => exact absurd rfl hstage

/-- The shutdown of a router whose turn is free takes its control connection away. -/
theorem getElem?_shutdown (hr : w.routers[name]? = some r) (hfree : r.turn = {}) :
    (w.shutdown name).routers[name]? = some { r with control := none } := by
  obtain ⟨seeds, secs, balancer, control, turn⟩ := r
  subst hfree
  -- the shutdown takes the turn and the control connection, and leaves the turn
  cases control <;>
    simp [shutdown, beginShutdown, takeControl, resumeShutdown?, withRouter, hr, Turn.take?,
      Turn.leave, Turn.isHeldBy]

/-! The shutdown of a router leaves the others alone. -/

variable {k : String}

theorem getElem?_withRouter_of_ne (hk : name ≠ k) (f : Router → Router) :
    (w.withRouter name f).routers[k]? = w.routers[k]? := by
  simp [withRouter, Std.ExtTreeMap.getElem?_modify, hk]

theorem getElem?_takeControl_of_ne (hk : d.router ≠ k) :
    (w.takeControl d).1.routers[k]? = w.routers[k]? := by
  unfold takeControl
  split <;> exact getElem?_withRouter_of_ne hk _

theorem router_takeControl (w : World) (d : Shutdown) : (w.takeControl d).2.router = d.router := by
  unfold takeControl
  split <;> rfl

theorem getElem?_beginShutdown_of_ne (hk : name ≠ k) (caller : Caller) :
    (w.beginShutdown name caller).1.routers[k]? = w.routers[k]? ∧
      (w.beginShutdown name caller).2.router = name := by
  simp only [beginShutdown]
  split
  · rw [getElem?_takeControl_of_ne hk, getElem?_withRouter_of_ne hk]
    exact ⟨rfl, router_takeControl ..⟩
  · exact ⟨getElem?_withRouter_of_ne hk _, rfl⟩

theorem getElem?_resumeShutdown?_of_ne (hk : d.router ≠ k) {p : World × Shutdown}
    (hp : w.resumeShutdown? d = some p) : p.1.routers[k]? = w.routers[k]? := by
  unfold resumeShutdown? at hp
  split at hp
  · cases hp
  · split at hp
    · cases hp
      exact getElem?_takeControl_of_ne hk
    · cases hp
  · cases hp
    exact getElem?_withRouter_of_ne hk _

theorem getElem?_shutdown_of_ne (hk : name ≠ k) :
    (w.shutdown name).routers[k]? = w.routers[k]? := by
  obtain ⟨hb, hd⟩ := getElem?_beginShutdown_of_ne (w := w) hk 0
  unfold shutdown
  generalize w.beginShutdown name 0 = p at hb hd
  cases hp : p.1.resumeShutdown? p.2 with
  | none => simpa [hp] using hb
  | some q =>
    have hq := getElem?_resumeShutdown?_of_ne (hd ▸ hk) hp
    simpa [hp, hb] using hq

end World

end ConnectionRouter
