import ConnectionRouter.Proofs.Router.Soundness
import Mathlib.Data.List.Induction
import Mathlib.Data.Option.Basic

/-!
# Routers at work

A service is a world with everything that is under way in it and everything that callers have:
requests, shutdowns, connections handed out, and connections on their way back (`Service`). At any
moment any of them may take its next step, in any order, and the cluster may change
(`ServiceEvent`, `Service.run`).

* `Service.Valid.step`: whatever happens, the world stays sound for the parties at work and for the
  hands of those who have connections or leases.
* `Service.run_induction`: what every event keeps holds in every run.
* `Service.valid_run`: every run leads to a sound world.
* `Service.world_closeRouted`, `Service.world_dropRouted`: the events by which a connection that was
  handed out goes, one after the other, do to the world what its close or its drop does at once.
-/

namespace ConnectionRouter

/-- Whether a change edits counts by hand. -/
def Change.isAdjust : Change → Bool
  | .adjust .. => true
  | _ => false

/-- A change from outside is no trade. -/
theorem World.change_trade (name : String) (caller : Caller) (w : World) {c : Change}
    (hc : c.isAdjust = false) :
    (w.change c).routers = w.routers ∧ Trade name caller w {} (w.change c) {} := by
  have hbalancer : ∀ (router : String) (f : Balancer → Balancer × Option Metric),
      (∀ b : Balancer, b.Keeps (f b).1) → (w.withBalancerOf router f).routers = w.routers ∧
        Trade name caller w {} (w.withBalancerOf router f) {} := by
    intro router f hf
    unfold withBalancerOf
    cases w.balancerOf? router with
    | none => exact ⟨rfl, .refl ..⟩
    | some id =>
      refine ⟨?_, .withBalancer_of_keeps hf id⟩
      simp only [Option.elim_some, withBalancer]
      split <;> rfl
  cases c with
  | markFailed router host => exact hbalancer router _ fun b => .markFailed b host w.now
  | forceRefresh router => exact hbalancer router _ fun b => .forceRefresh b
  | adjust => cases hc
  | _ => refine ⟨rfl, .of_eq w (w.change _) ?_ ?_ (fun _ => ?_) {}⟩ <;> rfl

/-- A world with what is under way in it and what callers have. -/
structure Service where
  world : World
  requests : List Request := []
  shutdowns : List Shutdown := []
  handedOut : List RoutedConnection := []
  /-- Connections whose close has begun. -/
  closing : List RoutedConnection := []
  /-- Leases of connections that are gone, on their way back. -/
  returning : List Lease := []
  /-- The requests and shutdowns so far; the next one is known by this number. -/
  callers : Caller := 0

/-- What happens to a service. Whatever is under way is known by its place in its list. -/
inductive ServiceEvent
  | create (name : String) (config : Config)
  | request (router : String) (pick : Nat)
  /-- A request takes its next step; `pick` breaks a tie. -/
  | resume (i pick : Nat)
  /-- The result of a request that is over is handed out. -/
  | deliver (i : Nat)
  | abandon (i : Nat)
  | shutdown (router : String)
  | resumeShutdown (i : Nat)
  | endShutdown (i : Nat)
  | abandonShutdown (i : Nat)
  | close (i : Nat)
  /-- A close carries through, whether or not it then fails. -/
  | closed (i : Nat)
  | abandonClose (i : Nat)
  | drop (i : Nat)
  /-- The lease of a connection that is gone comes back. -/
  | giveBack (i : Nat)
  | change (c : Change) (counted : c.isAdjust = false)
  | advance (duration : Duration)

namespace Service

/-- The service after an event, if the event can happen. -/
def step? (s : Service) : ServiceEvent → Option Service
  | .create name config => do
    guard (s.world.routers[name]?.isNone)
    let (r, registry) ← (Router.create config s.world.registry).toOption
    return { s with world := s.world.install name r registry }
  | .request router pick => do
    let _ ← s.world.routers[router]?
    let (w, r) := s.world.begin router s.callers pick
    return { s with world := w, requests := r :: s.requests, callers := s.callers + 1 }
  | .resume i pick => do
    let r ← s.requests[i]?
    let (w, r) ← s.world.resume? r pick
    return { s with world := w, requests := s.requests.set i r }
  | .deliver i => do
    let r ← s.requests[i]?
    let result ← r.result?
    return { s with
      requests := s.requests.eraseIdx i
      handedOut := result.toOption.toList ++ s.handedOut }
  | .abandon i => do
    let r ← s.requests[i]?
    guard r.result?.isNone
    return { s with world := s.world.abandon r, requests := s.requests.eraseIdx i }
  | .shutdown router => do
    let _ ← s.world.routers[router]?
    let (w, d) := s.world.beginShutdown router s.callers
    return { s with world := w, shutdowns := d :: s.shutdowns, callers := s.callers + 1 }
  | .resumeShutdown i => do
    let d ← s.shutdowns[i]?
    let (w, d) ← s.world.resumeShutdown? d
    return { s with world := w, shutdowns := s.shutdowns.set i d }
  | .endShutdown i => do
    let d ← s.shutdowns[i]?
    guard (d.stage = .finished)
    return { s with shutdowns := s.shutdowns.eraseIdx i }
  | .abandonShutdown i => do
    let d ← s.shutdowns[i]?
    guard (d.stage ≠ .finished)
    return { s with world := s.world.abandonShutdown d, shutdowns := s.shutdowns.eraseIdx i }
  | .close i => do
    let c ← s.handedOut[i]?
    return { s with handedOut := s.handedOut.eraseIdx i, closing := c :: s.closing }
  | .closed i => do
    let c ← s.closing[i]?
    return { s with
      world := { s.world with network := (s.world.network.close c.conn).1 }
      closing := s.closing.eraseIdx i
      returning := c.lease.toList ++ s.returning }
  | .abandonClose i => do
    let c ← s.closing[i]?
    return { s with
      world := s.world.drop [c.conn]
      closing := s.closing.eraseIdx i
      returning := c.lease.toList ++ s.returning }
  | .drop i => do
    let c ← s.handedOut[i]?
    return { s with
      world := s.world.drop [c.conn]
      handedOut := s.handedOut.eraseIdx i
      returning := c.lease.toList ++ s.returning }
  | .giveBack i => do
    let lease ← s.returning[i]?
    return { s with world := s.world.release lease, returning := s.returning.eraseIdx i }
  | .change c _ => some { s with world := s.world.change c }
  | .advance duration => some { s with world := { s.world with now := s.world.now + duration } }

/-- The service after an event; what cannot happen does not. -/
def after (s : Service) (e : ServiceEvent) : Service := (s.step? e).getD s

/-- A cluster of nodes and nothing else. -/
def start (nodes : List Node) (tick : Duration) : Service where
  world := { network := { cluster := { nodes } }, tick }

/-- A cluster of nodes after a list of events. -/
def run (nodes : List Node) (tick : Duration) (events : List ServiceEvent) : Service :=
  events.foldl after (start nodes tick)

/-- What follows once a connection that was handed out is gone: its lease comes back. -/
def giveBackEvents (c : RoutedConnection) : List ServiceEvent :=
  c.lease.toList.map fun _ => .giveBack 0

/-- The events of a close, one after the other, do what `World.closeRouted` does. -/
theorem world_closeRouted {s : Service} {i : Nat} {c : RoutedConnection}
    (h : s.handedOut[i]? = some c) :
    ((ServiceEvent.close i :: ServiceEvent.closed 0 :: giveBackEvents c).foldl after s).world =
      (s.world.closeRouted c).1 := by
  obtain ⟨conn, lease⟩ := c
  cases lease <;> simp [giveBackEvents, after, step?, h, World.closeRouted]

/-- The events of a drop, one after the other, do what `World.dropRouted` does. -/
theorem world_dropRouted {s : Service} {i : Nat} {c : RoutedConnection}
    (h : s.handedOut[i]? = some c) :
    ((ServiceEvent.drop i :: giveBackEvents c).foldl after s).world = s.world.dropRouted c := by
  obtain ⟨conn, lease⟩ := c
  cases lease <;> simp [giveBackEvents, after, step?, h, World.dropRouted]

/-! ## Soundness -/

/-- The parties at work. -/
def parties (s : Service) : List Party :=
  s.requests.map Request.party ++ s.shutdowns.map Shutdown.party

/-- The hands of everybody else. -/
def loose (s : Service) : List Hand :=
  s.handedOut.map RoutedConnection.hand ++ s.closing.map RoutedConnection.hand ++
    s.returning.map fun lease => ⟨none, some lease⟩

/-- The world is sound, and the next caller is new. -/
structure Valid (s : Service) : Prop where
  sound : s.world.Sound s.parties s.loose
  fresh : ∀ p ∈ s.parties, p.caller < s.callers

theorem eq_ok_of_toOption {ε α : Type} {x : Except ε α} {a : α} (h : x.toOption = some a) :
    x = .ok a := by
  cases x with
  | error e => cases h
  | ok b => exact congrArg _ (Option.some.inj h)

theorem perm_eraseIdx {α : Type} {l : List α} {i : Nat} {a : α} (h : l[i]? = some a) :
    l.Perm (a :: l.eraseIdx i) := by
  obtain ⟨hi, rfl⟩ := List.getElem?_eq_some_iff.mp h
  exact (List.getElem_cons_eraseIdx_perm hi).symm

theorem perm_set {α : Type} {l : List α} {i : Nat} {a : α} (h : l[i]? = some a) (b : α) :
    (l.set i b).Perm (b :: l.eraseIdx i) :=
  List.set_perm_cons_eraseIdx (List.getElem?_eq_some_iff.mp h).1 b

namespace Valid

variable {s s' : Service} {p p' : Party} {ps : List Party} {i : Nat}

theorem start (nodes : List Node) (tick : Duration) : (start nodes tick).Valid where
  sound := by
    refine ⟨⟨fun member => ?_, ?_, fun id b hb => ?_, fun l hl => ?_⟩, fun k r hr => ?_,
      fun p hp => ?_, List.nodup_nil, fun k r c hr => ?_⟩
    · simp [Service.start, World.openTo, Cluster.openTo, World.controls, parties, loose, connsOf]
    · simp [Service.start, World.controls, parties, loose, connsOf]
    · simp [Service.start, Registry.balancer?] at hb
    · cases hl
    · simp [Service.start] at hr
    · cases hp
    · simp [Service.start] at hr
  fresh p hp := by cases hp

/-- A party takes a step. -/
theorem of_step (v : s.Valid) (s' : Service) (hp : s.parties.Perm (p :: ps))
    (hs : World.Serves p.router p.caller s.world p.hand s'.world p')
    (hp' : (p' :: ps).Perm s'.parties) (hl : s'.loose = s.loose) (hc : s'.callers = s.callers) :
    s'.Valid where
  sound := by
    rw [hl]
    exact ((v.sound.perm hp (.refl _)).step hs).perm hp' (.refl _)
  fresh q hq := by
    rw [hc]
    rcases List.mem_cons.mp (hp'.mem_iff.mpr hq) with rfl | hq
    · rw [hs.caller_eq]
      exact v.fresh p (hp.mem_iff.mpr List.mem_cons_self)
    · exact v.fresh q (hp.mem_iff.mpr (List.mem_cons_of_mem _ hq))

/-- A new party begins. -/
theorem of_join (v : s.Valid) (s' : Service) {name : String} {r : Router}
    (hr : s.world.routers[name]? = some r)
    (hs : World.Serves name s.callers s.world {} s'.world p')
    (hp' : (p' :: s.parties).Perm s'.parties) (hl : s'.loose = s.loose)
    (hc : s'.callers = s.callers + 1) : s'.Valid where
  sound := by
    have hnew : s.callers ∉ s.parties.map Party.caller := by
      intro hmem
      obtain ⟨p, hp, he⟩ := List.mem_map.mp hmem
      exact Nat.ne_of_lt (v.fresh p hp) he
    rw [hl]
    exact ((v.sound.join hr hnew).step hs).perm hp' (.refl _)
  fresh q hq := by
    rw [hc]
    rcases List.mem_cons.mp (hp'.mem_iff.mpr hq) with rfl | hq
    · rw [hs.caller_eq]
      exact Nat.lt_succ_self _
    · exact Nat.lt_succ_of_lt (v.fresh q hq)

/-- A new caller finds the turn of a router without itself. -/
theorem stands_new (v : s.Valid) {name : String} {r : Router}
    (hr : s.world.routers[name]? = some r) : r.Stands s.callers .away :=
  v.sound.absent name r s.callers hr fun p hp _ he => Nat.ne_of_lt (v.fresh p hp) he

/-- A party takes its last step and leaves its hand behind. -/
theorem of_leave (v : s.Valid) (s' : Service) (hp : s.parties.Perm (p :: ps))
    (hs : World.Serves p.router p.caller s.world p.hand s'.world p') (hu : p'.use = .away)
    (hp' : s'.parties = ps)
    (hl : s'.world.Sound ps (p'.hand :: s.loose) → s'.world.Sound ps s'.loose)
    (hc : s'.callers = s.callers) : s'.Valid where
  sound := by
    rw [hp']
    exact hl (((v.sound.perm hp (.refl _)).step hs).leave hu)
  fresh q hq := by
    rw [hc]
    rw [hp'] at hq
    exact v.fresh q (hp.mem_iff.mpr (List.mem_cons_of_mem _ hq))

/-- A hand that no party has trades with the world. -/
theorem of_trade (v : s.Valid) (s' : Service) {h h' : Hand} {hs : List Hand}
    (hl : s.loose.Perm (h :: hs)) (hr : s'.world.routers = s.world.routers)
    (t : s.world.Trade "" s.callers h s'.world h')
    (hl' : s'.world.Sound s.parties (h' :: hs) → s'.world.Sound s.parties s'.loose)
    (hp : s'.parties = s.parties) (hc : s'.callers = s.callers) : s'.Valid where
  sound := by
    rw [hp]
    refine hl' ((v.sound.perm (.refl _) hl).trade hr t fun hmem => ?_)
    obtain ⟨p, hp, he⟩ := List.mem_map.mp hmem
    exact Nat.ne_of_lt (v.fresh p hp) he
  fresh := by
    rw [hp, hc]
    exact v.fresh

/-- A change of the world in which nobody trades. -/
theorem of_change (v : s.Valid) {w : World} (hr : w.routers = s.world.routers)
    (t : s.world.Trade "" s.callers {} w {}) : Valid { s with world := w } where
  sound := by
    refine World.Sound.empty_iff.mp ((World.Sound.empty_iff.mpr v.sound).trade hr t fun hmem => ?_)
    obtain ⟨p, hp, he⟩ := List.mem_map.mp hmem
    exact Nat.ne_of_lt (v.fresh p hp) he
  fresh := v.fresh

/-- A lease alone in a hand, if there is one. -/
theorem sound_returning {w : World} {lease : Option Lease} {hs : List Hand}
    (h : w.Sound ps (⟨none, lease⟩ :: hs)) :
    w.Sound ps ((lease.toList.map fun l => ⟨none, some l⟩) ++ hs) := by
  cases lease with
  | none => exact World.Sound.empty_iff.mp h
  | some l => exact h

theorem perm_parties_request {r : Request} (h : s.requests[i]? = some r) :
    s.parties.Perm (r.party :: parties { s with requests := s.requests.eraseIdx i }) :=
  ((perm_eraseIdx h).map Request.party).append_right _

theorem perm_parties_shutdown {d : Shutdown} (h : s.shutdowns[i]? = some d) :
    s.parties.Perm (d.party :: parties { s with shutdowns := s.shutdowns.eraseIdx i }) :=
  (((perm_eraseIdx h).map Shutdown.party).append_left _).trans List.perm_middle

theorem party_mem_parties {r : Request} (h : r ∈ s.requests) : r.party ∈ s.parties :=
  List.mem_append_left _ (List.mem_map_of_mem h)

theorem caller_lt (v : s.Valid) {r : Request} (h : r ∈ s.requests) : r.caller < s.callers :=
  v.fresh _ (party_mem_parties h)

theorem fits_request (v : s.Valid) {r : Request} (h : s.requests[i]? = some r) :
    r.party.Fits s.world :=
  v.sound.fits _ ((perm_parties_request h).mem_iff.mpr List.mem_cons_self)

theorem fits_shutdown (v : s.Valid) {d : Shutdown} (h : s.shutdowns[i]? = some d) :
    d.party.Fits s.world :=
  v.sound.fits _ ((perm_parties_shutdown h).mem_iff.mpr List.mem_cons_self)

/-! ## Events -/

/-- A party that does nothing. -/
theorem serves_refl (v : s.Valid) (hp : s.parties.Perm (p :: ps)) :
    World.Serves p.router p.caller s.world p.hand s.world p :=
  ⟨rfl, rfl, .refl .., v.sound.fits p (hp.mem_iff.mpr List.mem_cons_self)⟩

/-- The result of a request is handed out; without one there is nothing to hand out. -/
theorem deliver (v : s.Valid) {r : Request} (hr : s.requests[i]? = some r)
    {result : Except RoutingError RoutedConnection} (h : r.result? = some result) :
    Valid { s with
      requests := s.requests.eraseIdx i
      handedOut := result.toOption.toList ++ s.handedOut } := by
  have hstage : r.stage = .finished result := by
    unfold Request.result? at h
    split at h
    · rename_i hs
      cases h
      exact hs
    · cases h
  have hp := perm_parties_request hr
  refine v.of_leave _ hp (v.serves_refl hp) (by simp [Request.party, hstage, Stage.use]) rfl ?_ rfl
  have hhand : r.party.hand = (Stage.finished result).hand := by rw [Request.party, hstage]
  rw [hhand]
  cases result with
  | ok c => exact id
  | error e => exact World.Sound.empty_iff.mp

/-- A connection leaves a list of hands, and its lease comes among those that return. -/
theorem returns (v : s.Valid) (s' : Service) {c : RoutedConnection} {hs : List Hand}
    (hl : s.loose.Perm (c.hand :: hs)) (hw : s'.world.routers = s.world.routers)
    (t : s.world.Trade "" s.callers c.hand s'.world ⟨none, c.lease⟩)
    (hl' : s'.loose.Perm ((c.lease.toList.map fun l => ⟨none, some l⟩) ++ hs))
    (hp : s'.parties = s.parties) (hc : s'.callers = s.callers) : s'.Valid :=
  v.of_trade s' hl hw t (fun hs => (sound_returning hs).perm (.refl _) hl'.symm) hp hc

theorem perm_loose_handedOut {c : RoutedConnection} (h : s.handedOut[i]? = some c) :
    s.loose.Perm (c.hand :: loose { s with handedOut := s.handedOut.eraseIdx i }) :=
  (((perm_eraseIdx h).map RoutedConnection.hand).append_right _).append_right _

theorem perm_loose_closing {c : RoutedConnection} (h : s.closing[i]? = some c) :
    s.loose.Perm (c.hand :: loose { s with closing := s.closing.eraseIdx i }) :=
  ((((perm_eraseIdx h).map RoutedConnection.hand).append_left _).trans
    List.perm_middle).append_right _

theorem perm_loose_returning {l : Lease} (h : s.returning[i]? = some l) :
    s.loose.Perm (⟨none, some l⟩ :: loose { s with returning := s.returning.eraseIdx i }) :=
  (((perm_eraseIdx h).map _).append_left _).trans List.perm_middle

/-- The lease of a connection that is gone is among those that return. -/
theorem perm_loose_returned (s : Service) (lease : Option Lease) :
    (loose { s with returning := lease.toList ++ s.returning }).Perm
      ((lease.toList.map fun l => ⟨none, some l⟩) ++ s.loose) := by
  simp only [loose, List.map_append, ← List.append_assoc]
  refine List.Perm.append_right _ ?_
  exact List.perm_append_comm.trans (by simp)

theorem closed (v : s.Valid) {c : RoutedConnection} (h : s.closing[i]? = some c) {w : World}
    (hw : w = { s.world with network := (s.world.network.close c.conn).1 } ∨
      w = s.world.drop [c.conn]) :
    Valid { s with
      world := w
      closing := s.closing.eraseIdx i
      returning := c.lease.toList ++ s.returning } := by
  refine v.returns _ (perm_loose_closing h) ?_ ?_
    (perm_loose_returned { s with closing := s.closing.eraseIdx i } _) rfl rfl
  · rcases hw with rfl | rfl <;> rfl
  · rcases hw with rfl | rfl
    · exact World.close_trade "" s.callers s.world c.conn c.lease
    · exact .drop "" s.callers s.world (some c.conn) c.lease

theorem drop (v : s.Valid) {c : RoutedConnection} (h : s.handedOut[i]? = some c) :
    Valid { s with
      world := s.world.drop [c.conn]
      handedOut := s.handedOut.eraseIdx i
      returning := c.lease.toList ++ s.returning } :=
  v.returns _ (perm_loose_handedOut h) rfl (.drop "" s.callers s.world (some c.conn) c.lease)
    (perm_loose_returned { s with handedOut := s.handedOut.eraseIdx i } _) rfl rfl

theorem giveBack (v : s.Valid) {l : Lease} (h : s.returning[i]? = some l) :
    Valid { s with world := s.world.release l, returning := s.returning.eraseIdx i } := by
  have hp := perm_loose_returning h
  obtain ⟨b, hb⟩ : ∃ b, s.world.registry.balancer? l.balancer = some b := by
    refine Option.isSome_iff_exists.mp (v.sound.accounts.known l ?_)
    refine List.mem_filterMap.mpr ⟨⟨none, some l⟩, ?_, rfl⟩
    exact List.mem_append_right _ (hp.mem_iff.mpr List.mem_cons_self)
  refine v.of_trade _ hp ?_ (.release hb none) World.Sound.empty_iff.mp rfl rfl
  simp only [World.release, World.withBalancer, hb]

/-- Every event preserves validity. -/
theorem step (v : s.Valid) {e : ServiceEvent} (h : s.step? e = some s') : s'.Valid := by
  have hn := v.sound.nobodyTwice
  cases e <;> simp only [step?, Option.bind_eq_bind, Option.bind_eq_some_iff, Option.pure_def,
    Option.some.injEq, Option.guard_eq_some', exists_const] at h
  case create name config =>
    obtain ⟨hnew, ⟨r, registry⟩, hc, rfl⟩ := h
    exact ⟨v.sound.install (by simpa using hnew) (eq_ok_of_toOption hc), v.fresh⟩
  case request name pick =>
    obtain ⟨r, hr, rfl⟩ := h
    exact v.of_join _ hr (World.begin_serves hn name s.callers pick ⟨r, hr, v.stands_new hr⟩)
      (.refl _) rfl rfl
  case resume i pick =>
    obtain ⟨r, hr, ⟨w, r'⟩, hw, rfl⟩ := h
    exact v.of_step _ (perm_parties_request hr) (World.resume?_serves hn (v.fits_request hr) hw)
      (((perm_set hr r').map Request.party).append_right _).symm rfl rfl
  case deliver i =>
    obtain ⟨r, hr, result, hresult, rfl⟩ := h
    exact v.deliver hr hresult
  case abandon i =>
    obtain ⟨r, hr, hresult, rfl⟩ := h
    exact v.of_leave _ (perm_parties_request hr)
      (World.abandon_serves hn (v.fits_request hr) (by simpa using hresult)) rfl rfl
      World.Sound.empty_iff.mp rfl
  case shutdown name =>
    obtain ⟨r, hr, rfl⟩ := h
    exact v.of_join _ hr (World.beginShutdown_serves hn s.callers hr (v.stands_new hr))
      List.perm_middle.symm rfl rfl
  case resumeShutdown i =>
    obtain ⟨d, hd, ⟨w, d'⟩, hw, rfl⟩ := h
    exact v.of_step _ (perm_parties_shutdown hd)
      (World.resumeShutdown?_serves hn (v.fits_shutdown hd) hw)
      (List.perm_middle.symm.trans (((perm_set hd d').map Shutdown.party).append_left _).symm)
      rfl rfl
  case endShutdown i =>
    obtain ⟨d, hd, hstage, rfl⟩ := h
    have hp := perm_parties_shutdown hd
    refine v.of_leave _ hp (v.serves_refl hp) ?_ rfl ?_ rfl
    · rw [Shutdown.party, hstage]
      rfl
    · rw [Shutdown.party, hstage]
      exact World.Sound.empty_iff.mp
  case abandonShutdown i =>
    obtain ⟨d, hd, -, rfl⟩ := h
    exact v.of_leave _ (perm_parties_shutdown hd)
      (World.abandonShutdown_serves hn (v.fits_shutdown hd)) rfl rfl World.Sound.empty_iff.mp rfl
  case close i =>
    obtain ⟨c, hc, rfl⟩ := h
    refine ⟨v.sound.perm (.refl _) ((perm_loose_handedOut hc).trans ?_), v.fresh⟩
    exact List.perm_middle.symm.append_right _
  case closed i =>
    obtain ⟨c, hc, rfl⟩ := h
    exact v.closed hc (.inl rfl)
  case abandonClose i =>
    obtain ⟨c, hc, rfl⟩ := h
    exact v.closed hc (.inr rfl)
  case drop i =>
    obtain ⟨c, hc, rfl⟩ := h
    exact v.drop hc
  case giveBack i =>
    obtain ⟨l, hl, rfl⟩ := h
    exact v.giveBack hl
  case change c hc =>
    subst h
    obtain ⟨hr, ht⟩ := World.change_trade "" s.callers s.world hc
    exact v.of_change hr ht
  case advance duration =>
    subst h
    exact v.of_change rfl (.tick "" s.callers s.world (s.world.now + duration) {})

end Valid

/-- What holds at the start and is kept by every event holds in every run. -/
theorem run_induction {motive : Service → Prop} {nodes : List Node} {tick : Duration}
    (start : motive (start nodes tick))
    (step : ∀ {s s' : Service} {e : ServiceEvent}, motive s → s.step? e = some s' → motive s')
    (events : List ServiceEvent) : motive (run nodes tick events) := by
  -- the induction is on the last event
  induction events using List.reverseRecOn with
  | nil => exact start
  | append_singleton events e ih =>
    rw [run, List.foldl_append, List.foldl_cons, List.foldl_nil, ← run, after]
    cases h : (run nodes tick events).step? e with
    | none => exact ih
    | some s => exact step ih h

/-- Every run leads to a sound world. -/
theorem valid_run (nodes : List Node) (tick : Duration) (events : List ServiceEvent) :
    (run nodes tick events).Valid :=
  run_induction (Valid.start nodes tick) (fun v h => v.step h) events

end Service

end ConnectionRouter
