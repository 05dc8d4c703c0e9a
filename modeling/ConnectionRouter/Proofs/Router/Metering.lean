import ConnectionRouter.Proofs.Router.Notes
import Mathlib.Algebra.BigOperators.Group.List.Basic

/-!
# The request metrics of a service

Whoever watches a service, its requests, its network and its balancers, but not its ledger, sees how
often a connection is handed out, given up or refused, how often an opening fails, how often the
seeds are tried without balancing, and how often a host comes into quarantine (`Transition`). After
any number of events, at whichever waits requests stand and wherever they were given up, the ledger
says the same.

* `Transition.shows`: what an event shows of the incidents that are counted.
* `Service.Recounts`: a ledger grows by what transitions show.
* `Service.recounts_step`: every event counts what it shows.
* `Service.run_metrics`: the balance of the request metrics in every run.
-/

namespace ConnectionRouter

/-! ## What can be seen -/

/-- An event that has happened, with the service before it and after it. -/
structure Transition where
  before : Service
  event : ServiceEvent
  after : Service

namespace Transition

variable (t : Transition)

/-- The request that goes on, as it stood. -/
def resumed? : Option Request :=
  match t.event with
  | .resume i _ => t.before.requests[i]?
  | _ => none

/-- The stage that a request enters. -/
def entered? : Option Stage :=
  match t.event with
  | .request .. => t.after.requests.head?.map (·.stage)
  | .resume i _ => (t.after.requests[i]?).map (·.stage)
  | _ => none

/-- A request ends with a balanced connection. -/
def handsOut : Bool := t.entered?.any (·.isHandOut)

/-- The caller of a request gets a balanced connection. -/
def delivers : Bool :=
  match t.event with
  | .deliver i => (t.before.requests[i]?).any (·.stage.isHandOut)
  | _ => false

/-- A connection is given up for a more preferred host. -/
def preempts : Bool := t.entered?.any (·.isPreemption)

/-- The check that follows the opening of a data connection refuses it. -/
def rejects : Bool := t.entered?.any (·.isRejection)

/-- The opening of a data connection ends in an error or at its limit. -/
def failsToOpen : Bool := t.resumed?.any (t.before.world.failsToOpen ·)

/-- A request turns to the seeds; it does not where it goes from one seed to the next. -/
def entersSeeds : Bool := t.entered?.any (·.isSeed) && !t.resumed?.any (·.stage.isSeed)

/-- In how many balancers a host comes into quarantine. -/
def putsIn (host : HostKey) : Nat := t.before.world.registry.putsIn t.after.world.registry host

/-- How often an incident can be seen. -/
def shows : Incident → Nat
  | .attempt .ok => t.handsOut.toNat + t.preempts.toNat
  | .attempt .failed => t.failsToOpen.toNat
  | .attempt .rejected => t.rejects.toNat
  | .preemption => t.preempts.toNat
  | .fallback => t.entersSeeds.toNat

variable {t}

/-- A request that does not come from a seed shows a failed opening and the stage it enters. -/
theorem count_eq_shows {stage : Stage} (he : t.entered? = some stage)
    (hr : t.resumed?.any (·.stage.isSeed) = false) (i : Incident) :
    ((if t.failsToOpen then [Incident.attempt .failed] else []) ++ stage.incidents).count i =
      t.shows i := by
  have hfailed : (if t.failsToOpen then [Incident.attempt .failed] else []).count i =
      if .attempt .failed = i then t.failsToOpen.toNat else 0 := by
    cases t.failsToOpen <;> simp [List.count_singleton]
  rw [List.count_append, Stage.count_incidents, hfailed]
  cases i with
  | attempt o => cases o <;> simp [shows, handsOut, preempts, rejects, he]
  | _ => simp [shows, preempts, entersSeeds, he, hr]

/-- A request that goes from one seed to the next shows nothing. -/
theorem shows_of_seed {later : List HostAddr} {result : Except RoutingError Connection}
    {r : Request} (hr : t.resumed? = some r) (hseed : r.stage.isSeed = true)
    (he : t.entered? = some (seedOpened later result)) (i : Incident) : t.shows i = 0 := by
  obtain ⟨addr, seeds, hstage⟩ : ∃ addr seeds, r.stage = .opening addr (.seed seeds) := by
    unfold Stage.isSeed at hseed
    split at hseed
    · exact ⟨_, _, ‹_›⟩
    · cases hseed
  have hfails : t.failsToOpen = false := by
    simp [failsToOpen, hr, World.failsToOpen, hstage]
  have hentered : (seedOpened later result).isHandOut = false ∧
      (seedOpened later result).isPreemption = false ∧
      (seedOpened later result).isRejection = false := by
    cases result with
    | ok conn => exact ⟨rfl, rfl, rfl⟩
    | error e => cases later <;> exact ⟨rfl, rfl, rfl⟩
  obtain ⟨hhand, hpreempt, hreject⟩ := hentered
  cases i with
  | attempt o => cases o <;>
      simp [shows, handsOut, preempts, rejects, he, hhand, hpreempt, hreject, hfails]
  | _ => simp [shows, preempts, entersSeeds, he, hr, hseed, hpreempt]

end Transition

namespace Service

/-- The requests that are over with a balanced connection that their callers do not have yet. -/
def ready (s : Service) : Nat := s.requests.countP (·.stage.isHandOut)

/-- The events of a list that happen, one after the other. -/
def transitions (s : Service) : List ServiceEvent → List Transition
  | [] => []
  | e :: events =>
    match s.step? e with
    | none => s.transitions events
    | some s' => ⟨s, e, s'⟩ :: s'.transitions events

/-- From one service to another the ledger counts what transitions show, and every balanced
connection is delivered or ready. -/
structure Recounts (s : Service) (trace : List Transition) (s' : Service) : Prop where
  times : ∀ i, s'.world.ledger.times i = s.world.ledger.times i + (trace.map (·.shows i)).sum
  quarantinings : ∀ host, s'.world.ledger.quarantinings host =
    s.world.ledger.quarantinings host + (trace.map (·.putsIn host)).sum
  ready : s'.ready + trace.countP (·.delivers) = s.ready + trace.countP (·.handsOut)
  seeded : s.world.Seeded → s'.world.Seeded

namespace Recounts

variable {s m s' : Service} {t : Transition} {trace : List Transition} {e : ServiceEvent}
  {is : List Incident}

theorem nil (s : Service) : s.Recounts [] s := ⟨fun _ => rfl, fun _ => rfl, rfl, id⟩

theorem cons (h : s.Recounts [t] m) (h' : m.Recounts trace s') : s.Recounts (t :: trace) s' where
  times i := by
    have hlast := h.times i
    have hnext := h'.times i
    simp only [List.map_cons, List.map_nil, List.sum_cons, List.sum_nil] at hlast ⊢
    omega
  quarantinings host := by
    have hlast := h.quarantinings host
    have hnext := h'.quarantinings host
    simp only [List.map_cons, List.map_nil, List.sum_cons, List.sum_nil] at hlast ⊢
    omega
  ready := by
    have hlast := h.ready
    have hnext := h'.ready
    simp only [List.countP_cons, List.countP_nil] at hlast ⊢
    omega
  seeded hs := h'.seeded (h.seeded hs)

/-- A transition in which the world notes what can be seen. -/
theorem of_notes (h : s.world.Notes is s'.world)
    (hs : ∀ i, is.count i = Transition.shows ⟨s, e, s'⟩ i)
    (hr : s'.ready + (Transition.delivers ⟨s, e, s'⟩).toNat =
      s.ready + (Transition.handsOut ⟨s, e, s'⟩).toNat) : s.Recounts [⟨s, e, s'⟩] s' where
  times i := by simpa [hs] using h.times i
  quarantinings host := by simpa [Transition.putsIn] using h.quarantinings host
  ready := by
    simp only [List.countP_cons, List.countP_nil, Nat.zero_add]
    revert hr
    cases Transition.delivers ⟨s, e, s'⟩ <;> cases Transition.handsOut ⟨s, e, s'⟩ <;> exact id
  seeded := h.seeded

/-- A transition in which no request goes on. -/
theorem of_silent (h : s.world.Notes [] s'.world) (hr : Transition.resumed? ⟨s, e, s'⟩ = none)
    (he : Transition.entered? ⟨s, e, s'⟩ = none)
    (hready : s'.ready + (Transition.delivers ⟨s, e, s'⟩).toNat = s.ready) :
    s.Recounts [⟨s, e, s'⟩] s' := by
  refine .of_notes h (fun i => ?_) ?_
  · cases i with
    | attempt o => cases o <;> simp [Transition.shows, Transition.handsOut, Transition.preempts,
        Transition.rejects, Transition.failsToOpen, hr, he]
    | _ => simp [Transition.shows, Transition.preempts, Transition.entersSeeds, he]
  · simp [Transition.handsOut, he, hready]

end Recounts

variable {s s' : Service}

/-- A request without a result has nothing to hand out. -/
theorem isHandOut_of_result? {r : Request} (h : r.result? = none) : r.stage.isHandOut = false := by
  obtain ⟨name, caller, stage, due⟩ := r
  cases stage with
  | finished result => cases h
  | _ => rfl

theorem result?_of_resume? {w w' : World} {r r' : Request} {pick : Nat}
    (h : w.resume? r pick = some (w', r')) : r.result? = none := by
  obtain ⟨name, caller, stage, due⟩ := r
  cases stage with
  | finished result => cases h
  | _ => rfl

theorem countP_cons_toNat {α : Type} (p : α → Bool) (a : α) (l : List α) :
    (a :: l).countP p = l.countP p + (p a).toNat := by
  rw [List.countP_cons]
  cases p a <;> rfl

theorem ready_eraseIdx {i : Nat} {r : Request} (h : s.requests[i]? = some r) :
    (s.requests.eraseIdx i).countP (·.stage.isHandOut) + r.stage.isHandOut.toNat = s.ready := by
  rw [ready, (perm_eraseIdx h).countP_eq, countP_cons_toNat]

theorem ready_set {i : Nat} {r : Request} (h : s.requests[i]? = some r)
    (hr : r.stage.isHandOut = false) (r' : Request) :
    (s.requests.set i r').countP (·.stage.isHandOut) = s.ready + r'.stage.isHandOut.toNat := by
  rw [(perm_set h r').countP_eq, countP_cons_toNat, ← ready_eraseIdx h, hr, Bool.toNat_false,
    Nat.add_zero]

/-- A request that goes on counts what this shows. -/
theorem recounts_resume (v : s.Valid) (hs : s.world.Seeded) {i pick : Nat} {r r' : Request}
    (hr : s.requests[i]? = some r) (hw : s.world.resume? r pick = some (s'.world, r'))
    (h : s'.requests = s.requests.set i r') : s.Recounts [⟨s, .resume i pick, s'⟩] s' := by
  have hresumed : Transition.resumed? ⟨s, .resume i pick, s'⟩ = some r := hr
  have hentered : Transition.entered? ⟨s, .resume i pick, s'⟩ = some r'.stage := by
    have hi : i < s.requests.length := (List.getElem?_eq_some_iff.mp hr).1
    show (s'.requests[i]?).map (·.stage) = some r'.stage
    rw [h, List.getElem?_set_self hi, Option.map_some]
  have hready : s'.ready + (Transition.delivers ⟨s, .resume i pick, s'⟩).toNat =
      s.ready + (Transition.handsOut ⟨s, .resume i pick, s'⟩).toNat := by
    rw [Transition.handsOut, hentered, ready, h,
      ready_set hr (isHandOut_of_result? (result?_of_resume? hw))]
    rfl
  cases hb : r.stage.balanced with
  | true =>
    have hseed : (Transition.resumed? ⟨s, .resume i pick, s'⟩).any (·.stage.isSeed) = false := by
      rw [hresumed]
      exact Stage.isSeed_of_balanced hb
    have hfails : Transition.failsToOpen ⟨s, .resume i pick, s'⟩ = s.world.failsToOpen r := by
      rw [Transition.failsToOpen, hresumed]
      rfl
    have hnotes := World.resume?_notes (v.fits_request hr) hs hb hw
    rw [← hfails] at hnotes
    exact .of_notes hnotes (Transition.count_eq_shows hentered hseed) hready
  | false =>
    obtain ⟨hnotes, hseed, later, result, hstage⟩ := World.resume?_notes_seed hb hw
    have hshows := Transition.shows_of_seed hresumed hseed (hstage ▸ hentered)
    exact .of_notes hnotes (fun i => (hshows i).symm) hready

/-- Every event counts what it shows. -/
theorem recounts_step (v : s.Valid) (hs : s.world.Seeded) {e : ServiceEvent}
    (h : s.step? e = some s') : s.Recounts [⟨s, e, s'⟩] s' := by
  cases e <;> simp only [step?, Option.bind_eq_bind, Option.bind_eq_some_iff, Option.pure_def,
    Option.some.injEq, Option.guard_eq_some', exists_const] at h
  case create name config =>
    obtain ⟨hnew, ⟨r, registry⟩, hc, rfl⟩ := h
    exact .of_silent (World.install_notes (by simpa using hnew) (eq_ok_of_toOption hc)) rfl rfl rfl
  case request name pick =>
    obtain ⟨r, hr, rfl⟩ := h
    refine .of_notes (World.begin_notes hs name s.callers pick)
      (Transition.count_eq_shows (t := ⟨s, .request name pick, _⟩) rfl rfl) ?_
    exact countP_cons_toNat (fun r : Request => r.stage.isHandOut) ..
  case resume i pick =>
    obtain ⟨r, hr, ⟨w, r'⟩, hw, rfl⟩ := h
    exact recounts_resume v hs hr hw rfl
  case deliver i =>
    obtain ⟨r, hr, result, -, rfl⟩ := h
    refine .of_silent (.of_eq rfl rfl id) rfl rfl ?_
    show (s.requests.eraseIdx i).countP (·.stage.isHandOut) +
      ((s.requests[i]?).any (·.stage.isHandOut)).toNat = s.ready
    rw [hr]
    exact ready_eraseIdx hr
  case abandon i =>
    obtain ⟨r, hr, hresult, rfl⟩ := h
    refine .of_silent (World.abandon_notes ..) rfl rfl ?_
    have hready := ready_eraseIdx hr
    rwa [isHandOut_of_result? (by simpa using hresult)] at hready
  case shutdown name =>
    obtain ⟨r, hr, rfl⟩ := h
    exact .of_silent (World.beginShutdown_notes ..) rfl rfl rfl
  case resumeShutdown i =>
    obtain ⟨d, hd, ⟨w, d'⟩, hw, rfl⟩ := h
    exact .of_silent (World.resumeShutdown?_notes hw) rfl rfl rfl
  case endShutdown i =>
    obtain ⟨d, hd, hstage, rfl⟩ := h
    exact .of_silent (.of_eq rfl rfl id) rfl rfl rfl
  case abandonShutdown i =>
    obtain ⟨d, hd, -, rfl⟩ := h
    exact .of_silent (World.abandonShutdown_notes ..) rfl rfl rfl
  case close i =>
    obtain ⟨c, hc, rfl⟩ := h
    exact .of_silent (.of_eq rfl rfl id) rfl rfl rfl
  case closed i =>
    obtain ⟨c, hc, rfl⟩ := h
    exact .of_silent (.of_eq rfl rfl id) rfl rfl rfl
  case abandonClose i =>
    obtain ⟨c, hc, rfl⟩ := h
    exact .of_silent (.of_eq rfl rfl id) rfl rfl rfl
  case drop i =>
    obtain ⟨c, hc, rfl⟩ := h
    exact .of_silent (.of_eq rfl rfl id) rfl rfl rfl
  case giveBack i =>
    obtain ⟨l, hl, rfl⟩ := h
    exact .of_silent (World.release_notes ..) rfl rfl rfl
  case change c hc =>
    subst h
    exact .of_silent (World.change_notes _ hc) rfl rfl rfl
  case advance duration =>
    subst h
    exact .of_silent (.of_eq rfl rfl id) rfl rfl rfl

theorem seeded_start (nodes : List Node) (tick : Duration) : (start nodes tick).world.Seeded := by
  intro name r hr
  simp [start] at hr

/-- From any sound service on, the ledger counts what the events show. -/
theorem recounts_transitions (v : s.Valid) (hs : s.world.Seeded) (events : List ServiceEvent) :
    s.Recounts (s.transitions events) (events.foldl after s) := by
  -- the induction is on the events to come, for every service that they can come to
  induction events generalizing s with
  | nil => exact .nil s
  | cons e events ih =>
    rw [transitions, List.foldl_cons, after]
    cases h : s.step? e with
    | none => exact ih v hs
    | some s' =>
      have hstep := recounts_step v hs h
      exact hstep.cons (ih (v.step h) (hstep.seeded hs))

/-- The ledger of a service says what could be seen of it. -/
structure MetricsBalance (s : Service) (trace : List Transition) : Prop where
  /-- Data connections that opened and passed the check were given up again or handed out. -/
  ok : s.world.ledger.attempts.ok =
    s.world.ledger.preemptions + trace.countP (·.handsOut)
  /-- What was handed out is with the callers, but for requests that are just over. -/
  handedOut : trace.countP (·.handsOut) = trace.countP (·.delivers) + s.ready
  preemptions : s.world.ledger.preemptions = trace.countP (·.preempts)
  failed : s.world.ledger.attempts.failed = trace.countP (·.failsToOpen)
  rejected : s.world.ledger.attempts.rejected = trace.countP (·.rejects)
  fallbacks : s.world.ledger.singleHostFallbacks = trace.countP (·.entersSeeds)
  quarantined : ∀ host, (s.world.ledger.quarantined[host]?).getD 0 =
    (trace.map (·.putsIn host)).sum

theorem sum_map_toNat {α : Type} (p : α → Bool) (l : List α) :
    (l.map fun a => (p a).toNat).sum = l.countP p := by
  induction l with
  | nil => rfl
  | cons a l ih => rw [List.map_cons, List.sum_cons, ih, countP_cons_toNat, Nat.add_comm]

/-- **The request metrics balance**: whatever has happened to a cluster and its routers, the ledger
counts the events that could be seen, neither more nor less. -/
theorem run_metrics (nodes : List Node) (tick : Duration) (events : List ServiceEvent) :
    (run nodes tick events).MetricsBalance ((start nodes tick).transitions events) := by
  have hrun : (start nodes tick).Recounts ((start nodes tick).transitions events)
      (run nodes tick events) :=
    recounts_transitions (Valid.start nodes tick) (seeded_start nodes tick) events
  have hzero : ∀ i, (start nodes tick).world.ledger.times i = 0 := by
    intro i
    cases i with
    | attempt o => cases o <;> rfl
    | _ => rfl
  have htimes : ∀ i, (run nodes tick events).world.ledger.times i =
      (((start nodes tick).transitions events).map (·.shows i)).sum := by
    intro i
    rw [hrun.times, hzero, Nat.zero_add]
  -- each kind of incident is a property of single transitions, but for opened connections
  have hcount : ∀ (i : Incident) (p : Transition → Bool),
      (∀ t, Transition.shows t i = (p t).toNat) → (run nodes tick events).world.ledger.times i =
        ((start nodes tick).transitions events).countP p := by
    intro i p hp
    simp only [htimes, hp, sum_map_toNat]
  have hpreempted := hcount .preemption Transition.preempts fun _ => rfl
  refine ⟨?_, ?_, hpreempted, hcount (.attempt .failed) _ fun _ => rfl,
    hcount (.attempt .rejected) _ fun _ => rfl, hcount .fallback _ fun _ => rfl, fun host => ?_⟩
  · calc (run nodes tick events).world.ledger.times (.attempt .ok)
      _ = (((start nodes tick).transitions events).map fun t =>
            t.preempts.toNat + t.handsOut.toNat).sum := by
          simp only [htimes, Transition.shows, Nat.add_comm]
      _ = ((start nodes tick).transitions events).countP (·.preempts) +
            ((start nodes tick).transitions events).countP (·.handsOut) := by
          rw [List.sum_map_add, sum_map_toNat, sum_map_toNat]
      _ = _ := by rw [← hpreempted]; rfl
  · have hready := hrun.ready
    have hnone : (start nodes tick).ready = 0 := rfl
    omega
  · have hcount := hrun.quarantinings host
    have hnone : (start nodes tick).world.ledger.quarantinings host = 0 := rfl
    rwa [hnone, Nat.zero_add] at hcount

/-- Of two hosts one stops. It refuses the second request, which is served by the other one. -/
example :
    let trace := (start [{ host := "a" }, { host := "b" }] 0).transitions
      [.create "r" { cluster := { seeds := ["a"] } }, .request "r" 0, .resume 0 0, .resume 0 0,
        .resume 0 0, .deliver 0, .change (.stop "b") rfl, .request "r" 0, .resume 0 0,
        .resume 0 0, .resume 0 0, .deliver 0]
    trace.countP (·.delivers) = 2 ∧ trace.countP (·.failsToOpen) = 1 ∧
      (trace.map (·.putsIn "b")).sum = 1 := by
  decide +kernel

end Service

end ConnectionRouter
