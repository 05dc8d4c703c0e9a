import ConnectionRouter.Proofs.Router.Bystanders
import Mathlib.Logic.Relation

/-!
# Somebody can always go on

Requests and shutdowns wait for turns of two kinds. Whoever has the turn of a router may wait for the
turn of its balancer, but whoever has the turn of a balancer waits for no other. So those who wait
never wait for each other in a circle, whatever routers share a balancer.

* `Job`: a request or a shutdown under way.
* `World.waits`, `World.WaitsFor`: whether a job waits for a turn, and for whom.
* `Service.exists_querier`, `Service.exists_holder`: who has the turn for which a job waits.
* `Service.goesOn`: a job that does not wait for a turn goes on once the clock has moved far enough.
* `Service.run_leads_on`: in every run every unfinished job waits, through a chain of holders, for one
  that goes on.
-/

namespace ConnectionRouter

/-- The turns for which a job can wait. -/
inductive TurnKind
  /-- The turn of a router, to use or replace its control connection. -/
  | control
  /-- The turn of a router's balancer, to query. -/
  | query
  deriving DecidableEq

/-- The turn that a request needs before it goes on. -/
def Stage.needs? : Stage → Option TurnKind
  | awaitingControl _ => some .control
  | awaitingTurn _ => some .query
  | _ => none

/-- The turn that a shutdown needs before it goes on. -/
def ShutdownStage.needs? : ShutdownStage → Option TurnKind
  | awaitingControl => some .control
  | _ => none

/-- A request or a shutdown under way. -/
inductive Job
  | request (r : Request)
  | shutdown (d : Shutdown)

namespace Job

def party : Job → Party
  | request r => r.party
  | shutdown d => d.party

def needs? : Job → Option TurnKind
  | request r => r.stage.needs?
  | shutdown d => d.stage.needs?

def isOver : Job → Bool
  | request r => r.result?.isSome
  | shutdown d => d.stage = .finished

/-- The next step of a job, if what it waits for is there; `pick` breaks a tie. -/
def next? (w : World) (pick : Nat) : Job → Option (World × Job)
  | request r => (w.resume? r pick).map fun (w, r) => (w, request r)
  | shutdown d => (w.resumeShutdown? d).map fun (w, d) => (w, shutdown d)

end Job

namespace World

/-- A turn as it stands at a router or at the balancer of a router. -/
def turn? (w : World) (name : String) : TurnKind → Option Turn
  | .control => (w.routers[name]?).map (·.turn)
  | .query => (w.scene? name).map (·.balancer.turn)

/-- The turn that a job needs. -/
def neededTurn? (w : World) (j : Job) : Option Turn := j.needs?.bind (w.turn? j.party.router)

/-- A job waits for a turn that is not its own. -/
def waits (w : World) (j : Job) : Bool := (w.neededTurn? j).any (!·.isHeldBy j.party.caller)

/-- The first job waits for a turn that the second has. -/
structure WaitsFor (w : World) (j j' : Job) : Prop where
  waits : w.waits j = true
  held : ∃ t, w.neededTurn? j = some t ∧ t.holder = some j'.party.caller

variable {w : World} {j : Job} {t : Turn}

theorem neededTurn?_eq {kind : TurnKind} (h : j.needs? = some kind) :
    w.neededTurn? j = w.turn? j.party.router kind := by
  rw [neededTurn?, h, Option.bind_some]

/-- The turn of the balancer with which a router works. -/
theorem turn?_query {name : String} {id : BalancerId} {b : Balancer}
    (hid : w.balancerOf? name = some id) (hb : w.registry.balancer? id = some b) :
    w.turn? name .query = some b.turn := by
  obtain ⟨s, hs⟩ := Option.ne_none_iff_exists'.mp (scene?_ne_none hid hb)
  obtain ⟨-, -, hb'⟩ := scene?_eq_some hs
  obtain rfl : s.id = id := Option.some.inj ((balancerOf?_of_scene hs).symm.trans hid)
  obtain rfl : s.balancer = b := Option.some.inj (hb'.symm.trans hb)
  rw [turn?, hs, Option.map_some]

/-- A job that has what it needs does not wait. -/
theorem not_waits_of_holder (ht : w.neededTurn? j = some t)
    (h : t.holder = some j.party.caller) : w.waits j = false := by
  simp [waits, ht, Turn.isHeldBy_iff.mpr h]

theorem not_waits_of_needs (h : j.needs? = none) : w.waits j = false := by
  simp [waits, neededTurn?, h]

end World

theorem Job.not_isOver_of_use {j : Job} (h : j.party.use ≠ .away) : j.isOver = false := by
  cases j with
  | request r =>
    cases hs : r.stage with
    | finished => simp [party, Request.party, hs, Stage.use] at h
    | _ => simp [isOver, Request.result?, hs]
  | shutdown d =>
    cases hs : d.stage with
    | finished => simp [party, Shutdown.party, hs, ShutdownStage.use] at h
    | _ => simp [isOver, hs]

/-- Only requests query. -/
theorem Job.needs?_eq_query {j : Job} (h : j.needs? = some .query) :
    ∃ r purpose, j = .request r ∧ r.stage = .awaitingTurn purpose := by
  cases j with
  | request r =>
    cases hs : r.stage with
    | awaitingTurn purpose => exact ⟨r, purpose, rfl, hs⟩
    | _ => simp [needs?, Stage.needs?, hs] at h
  | shutdown d => cases hs : d.stage <;> simp [needs?, ShutdownStage.needs?, hs] at h

/-- A job that needs the turn of its router stands there. -/
theorem Job.use_of_needs {j : Job} (h : j.needs? = some .control) : j.party.use = .queued := by
  cases j with
  | request r =>
    cases hs : r.stage with
    | awaitingControl round => simp [party, Request.party, hs, Stage.use]
    | _ => simp [needs?, Stage.needs?, hs] at h
  | shutdown d =>
    cases hs : d.stage with
    | awaitingControl => simp [party, Shutdown.party, hs, ShutdownStage.use]
    | _ => simp [needs?, ShutdownStage.needs?, hs] at h

namespace Service

variable {s : Service} {j : Job}

/-- What is under way. -/
def jobs (s : Service) : List Job := s.requests.map .request ++ s.shutdowns.map .shutdown

theorem map_party_jobs (s : Service) : s.jobs.map Job.party = s.parties := by
  simp [jobs, parties, Function.comp_def, Job.party]

theorem request_mem_jobs {r : Request} : .request r ∈ s.jobs ↔ r ∈ s.requests := by
  simp [jobs]

theorem Valid.fits_job (v : s.Valid) (hj : j ∈ s.jobs) : j.party.Fits s.world :=
  v.sound.fits _ (s.map_party_jobs ▸ List.mem_map_of_mem hj)

/-- Whoever stands at the turn of a router is a job of that router. -/
theorem Valid.exists_job (v : s.Valid) {name : String} {r : Router}
    (hr : s.world.routers[name]? = some r) {c : Caller} (hc : c ∈ r.turn.members) :
    ∃ j ∈ s.jobs, j.party.router = name ∧ j.party.caller = c := by
  by_contra hnone
  refine v.sound.absent name r c hr (fun p hp hname hcaller => hnone ?_) hc
  rw [← s.map_party_jobs] at hp
  obtain ⟨j, hj, rfl⟩ := List.mem_map.mp hp
  exact ⟨j, hj, hname, hcaller⟩

/-! ## Who has a turn -/

/-- A request that needs the turn of its balancer stands there, and whoever has the turn is a
request that does not wait. -/
theorem exists_querier (v : s.Valid) (known : s.TurnsKnown) (ready : s.Ready) (hj : j ∈ s.jobs)
    (hneeds : j.needs? = some .query) :
    ∃ t, s.world.neededTurn? j = some t ∧ ∃ j' ∈ s.jobs, t.holder = some j'.party.caller ∧
      j'.isOver = false ∧ s.world.waits j' = false := by
  obtain ⟨r, purpose, rfl, hstage⟩ := Job.needs?_eq_query hneeds
  obtain ⟨sc, hsc, -⟩ := World.exists_scene (v.fits_job hj)
    (by simp [Job.party, Request.party, hstage, Stage.balanced])
  obtain ⟨-, -, hb⟩ := World.scene?_eq_some hsc
  have hready := (ready.requests r (request_mem_jobs.mp hj)).scene sc hsc
  rw [hstage] at hready
  obtain ⟨c, hholder, hc⟩ := (ready.fair.balancers _ _ hb).exists_holder hready.1
  -- the holder is a request of some router with the same balancer
  obtain ⟨r', hr', rfl, hid, hat⟩ := known.known _ _ hb c hc
  have hturn := (World.neededTurn?_eq hneeds).trans
    (World.turn?_query (World.balancerOf?_of_scene hsc) hb)
  refine ⟨_, hturn, .request r', request_mem_jobs.mpr hr', hholder, ?_, ?_⟩
  · cases hs : r'.stage with
    | finished => simp [hs, Stage.atTurn] at hat
    | _ => simp [Job.isOver, Request.result?, hs]
  · cases hs : r'.stage with
    | awaitingTurn purpose' =>
      have hneeds' : (Job.request r').needs? = some .query := by
        simp [Job.needs?, Stage.needs?, hs]
      have hturn' := (World.neededTurn?_eq hneeds').trans (World.turn?_query hid hb)
      exact World.not_waits_of_holder hturn' hholder
    | querying purpose' =>
      exact World.not_waits_of_needs (by simp [Job.needs?, Stage.needs?, hs])
    | _ => simp [hs, Stage.atTurn] at hat

/-- A job that needs the turn of its router stands there, and whoever has the turn is a job of that
router that waits for nothing but the turn of the balancer. -/
theorem exists_holder (v : s.Valid) (ready : s.Ready) (hj : j ∈ s.jobs)
    (hneeds : j.needs? = some .control) :
    ∃ t, s.world.neededTurn? j = some t ∧ ∃ j' ∈ s.jobs, t.holder = some j'.party.caller ∧
      j'.isOver = false ∧ (s.world.waits j' = false ∨ j'.needs? = some .query) := by
  obtain ⟨r, hr, hstands⟩ := (v.fits_job hj).stands
  rw [Job.use_of_needs hneeds] at hstands
  obtain ⟨c, hholder, hc⟩ := (ready.fair.routers _ _ hr).exists_holder hstands
  obtain ⟨j', hj', hname, rfl⟩ := v.exists_job hr hc
  have hturn : s.world.turn? j.party.router .control = some r.turn := by simp [World.turn?, hr]
  refine ⟨_, (World.neededTurn?_eq hneeds).trans hturn, j', hj', hholder, ?_, ?_⟩
  · -- a job that is over does not stand there
    obtain ⟨r', hr', hstands'⟩ := (v.fits_job hj').stands
    rw [hname, hr] at hr'
    cases hr'
    refine Job.not_isOver_of_use fun haway => ?_
    rw [haway] at hstands'
    exact hstands' hc
  · cases hneeds' : j'.needs? with
    | none => exact .inl (World.not_waits_of_needs hneeds')
    | some kind =>
      cases kind with
      | control =>
        rw [← hname] at hturn
        have hturn' := (World.neededTurn?_eq hneeds').trans hturn
        exact .inl (World.not_waits_of_holder hturn' hholder)
      | query => exact .inr rfl

/-- A job that needs the turn of its balancer waits at most for its holder. -/
theorem exists_chain_of_query (v : s.Valid) (known : s.TurnsKnown) (ready : s.Ready)
    (hj : j ∈ s.jobs) (hover : j.isOver = false) (hneeds : j.needs? = some .query) :
    ∃ j' ∈ s.jobs, Relation.ReflTransGen s.world.WaitsFor j j' ∧ j'.isOver = false ∧
      s.world.waits j' = false := by
  obtain ⟨t, ht, j', hj', hholder, hover', hfree⟩ := exists_querier v known ready hj hneeds
  cases hw : s.world.waits j with
  | false => exact ⟨j, hj, .refl, hover, hw⟩
  | true => exact ⟨j', hj', .single ⟨hw, t, ht, hholder⟩, hover', hfree⟩

/-- A job waits for a holder who waits for nothing, or who waits for such a holder. -/
theorem exists_chain (v : s.Valid) (known : s.TurnsKnown) (ready : s.Ready) (hj : j ∈ s.jobs)
    (hover : j.isOver = false) :
    ∃ j' ∈ s.jobs, Relation.ReflTransGen s.world.WaitsFor j j' ∧ j'.isOver = false ∧
      s.world.waits j' = false := by
  cases hw : s.world.waits j with
  | false => exact ⟨j, hj, .refl, hover, hw⟩
  | true =>
    cases hneeds : j.needs? with
    | none => simp [World.not_waits_of_needs hneeds] at hw
    | some kind =>
      cases kind with
      | query => exact exists_chain_of_query v known ready hj hover hneeds
      | control =>
        obtain ⟨t, ht, j', hj', hholder, hover', hfree | hneeds'⟩ :=
          exists_holder v ready hj hneeds
        · exact ⟨j', hj', .single ⟨hw, t, ht, hholder⟩, hover', hfree⟩
        · obtain ⟨j'', hj'', hchain, hover'', hfree⟩ :=
            exists_chain_of_query v known ready hj' hover' hneeds'
          exact ⟨j'', hj'', .head ⟨hw, t, ht, hholder⟩ hchain, hover'', hfree⟩

/-! ## Going on -/

/-- A request that does not wait for a turn goes on when its connect is over. -/
theorem isSome_proceed? {w : World} {r : Request} (hf : r.party.Fits w) (ready : w.Ready r)
    (hover : r.result? = none) (hwaits : w.waits (.request r) = false)
    (hdue : ∀ due ∈ r.due, due.time ≤ w.now) (pick : Nat) : (w.proceed? r pick).isSome = true := by
  obtain ⟨name, caller, stage, due⟩ := r
  cases stage with
  | awaitingControl round =>
    obtain ⟨found, hr, -⟩ := hf.stands
    replace hr : w.routers[name]? = some found := hr
    have hheld : found.turn.isHeldBy caller = true := by
      simpa [World.waits, World.neededTurn?, Job.needs?, Stage.needs?, World.turn?, hr, Job.party,
        Request.party] using hwaits
    simp [World.proceed?, hr, hheld]
  | awaitingTurn purpose =>
    obtain ⟨s, hs, -⟩ := World.exists_scene hf rfl
    replace hs : w.scene? name = some s := hs
    have hheld : s.balancer.turn.isHeldBy caller = true := by
      simpa [World.waits, World.neededTurn?, Job.needs?, Stage.needs?, World.turn?, hs, Job.party,
        Request.party] using hwaits
    simp [World.proceed?, hs, hheld]
  | opening addr purpose =>
    obtain ⟨due, rfl⟩ := Option.isSome_iff_exists.mp (ready.due addr purpose rfl)
    have hlate : ¬w.now < due.time := Nat.not_lt.mpr (hdue due rfl)
    cases purpose <;> simp [World.proceed?, hlate]
  | querying purpose =>
    obtain ⟨s, hs, -⟩ := World.exists_scene hf rfl
    obtain ⟨conn, hconn⟩ := Option.isSome_iff_exists.mp (ready.scene s hs)
    replace hs : w.scene? name = some s := hs
    simp [World.proceed?, hs, hconn]
  | closing conn purpose => rfl
  | finished result => cases hover

theorem request_goesOn {w : World} {r : Request} (hf : r.party.Fits w) (ready : w.Ready r)
    (hover : r.result? = none) (hwaits : w.waits (.request r) = false) :
    ∃ d, ∀ pick, (({ w with now := w.now + d } : World).resume? r pick).isSome = true := by
  obtain ⟨d, hd⟩ : ∃ d, ∀ due ∈ r.due, due.time ≤ d := by
    cases r.due with
    | none => exact ⟨0, by simp⟩
    | some due => exact ⟨due.time, by simp⟩
  refine ⟨d, isSome_proceed? (w := { w with now := w.now + d + w.tick })
    ⟨hf.scene, hf.own, hf.stands⟩ ⟨ready.scene, ready.due⟩ hover hwaits fun due hdue => ?_⟩
  exact Nat.le_trans (hd due hdue) (Nat.le_trans (Nat.le_add_left ..) (Nat.le_add_right ..))

/-- A shutdown that does not wait for a turn goes on. -/
theorem shutdown_goesOn {w : World} {d : Shutdown} (hf : d.party.Fits w)
    (hover : d.stage ≠ .finished) (hwaits : w.waits (.shutdown d) = false) :
    (w.resumeShutdown? d).isSome = true := by
  obtain ⟨name, caller, stage⟩ := d
  cases stage with
  | awaitingControl =>
    obtain ⟨found, hr, -⟩ := hf.stands
    replace hr : w.routers[name]? = some found := hr
    have hheld : found.turn.isHeldBy caller = true := by
      simpa [World.waits, World.neededTurn?, Job.needs?, ShutdownStage.needs?, World.turn?, hr,
        Job.party, Shutdown.party] using hwaits
    simp [World.resumeShutdown?, hr, hheld]
  | closing conn => rfl
  | finished => exact absurd rfl hover

/-- A job that does not wait for a turn goes on once the clock has moved far enough. -/
theorem goesOn (v : s.Valid) (ready : s.Ready) (hj : j ∈ s.jobs) (hover : j.isOver = false)
    (hwaits : s.world.waits j = false) :
    ∃ d, ∀ pick, (j.next? { s.world with now := s.world.now + d } pick).isSome = true := by
  have hf := v.fits_job hj
  cases j with
  | request r =>
    obtain ⟨d, hd⟩ := request_goesOn hf (ready.requests r (request_mem_jobs.mp hj))
      (by simpa [Job.isOver] using hover) hwaits
    exact ⟨d, fun pick => by simpa [Job.next?] using hd pick⟩
  | shutdown d =>
    have hd := shutdown_goesOn hf (by simpa [Job.isOver] using hover) hwaits
    refine ⟨0, fun pick => ?_⟩
    simpa [Job.next?] using hd

/-- **Nobody waits in a circle.** Whatever has happened, everybody who is not done and waits for the
turn of a router or of a balancer waits, through a chain of those who have the turns, for somebody
who is not done either and waits for no turn; and that one goes on once the clock has moved far
enough. -/
theorem run_leads_on (nodes : List Node) (tick : Duration) (events : List ServiceEvent) {j : Job}
    (hj : j ∈ (run nodes tick events).jobs) (hover : j.isOver = false) :
    ∃ j' ∈ (run nodes tick events).jobs,
      Relation.ReflTransGen (run nodes tick events).world.WaitsFor j j' ∧ j'.isOver = false ∧
      (run nodes tick events).world.waits j' = false ∧
      ∃ d, ∀ pick, (j'.next? { (run nodes tick events).world with
        now := (run nodes tick events).world.now + d } pick).isSome = true := by
  have v := valid_run nodes tick events
  have known := turnsKnown_run nodes tick events
  have ready := ready_run nodes tick events
  generalize run nodes tick events = s at *
  obtain ⟨j', hj', hchain, hover', hfree⟩ := exists_chain v known ready hj hover
  exact ⟨j', hj', hchain, hover', hfree, goesOn v ready hj' hover' hfree⟩

/-- Two routers share a balancer. The request of `b` queries; the first request of `a` has the turn of
`a` and waits for the turn of the balancer; another one and a shutdown wait for the turn of `a`. -/
def waitingInLine : List ServiceEvent :=
  [.create "a" { cluster := { seeds := ["h"] } }, .create "b" { cluster := { seeds := ["h"] } },
    .request "a" 0, .request "a" 0, .request "b" 0, .shutdown "a", .resume 0 0, .resume 2 0]

/-- Everybody waits for the request of `b`. -/
theorem run_leads_on_waitingInLine :
    let s := run [{ host := "h" }] 0 waitingInLine
    s.jobs.map s.world.waits = [false, true, true, true] ∧
      ∀ j ∈ s.jobs, ∃ j' ∈ s.jobs, Relation.ReflTransGen s.world.WaitsFor j j' ∧
        j'.party.router = "b" := by
  intro s
  have hunfinished : ∀ j ∈ s.jobs, j.isOver = false := by decide +kernel
  have hfree : ∀ j ∈ s.jobs, s.world.waits j = false → j.party.router = "b" := by decide +kernel
  refine ⟨by decide +kernel, fun j hj => ?_⟩
  obtain ⟨j', hj', hchain, -, hj'free, -⟩ := run_leads_on _ _ _ hj (hunfinished j hj)
  exact ⟨j', hj', hchain, hfree j' hj' hj'free⟩

end Service

end ConnectionRouter
