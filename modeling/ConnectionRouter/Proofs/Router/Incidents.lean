import ConnectionRouter.Proofs.Pool.Quarantine
import ConnectionRouter.Proofs.Router.Journey

/-!
# What a request counts

A request counts what befalls it: the attempts it makes, the connections it gives up for better
ones, and its way to the seeds. Each of these belongs to one moment, the failure of an opening or
the stage that a part leads to, so nothing can come between what happens and its count: a part of a
request counts what the stage it enters stands for (`Stage.incidents`), after what it has heard
(`Scene.recorded_hear`). Quarantine is counted apart, by host; only what a request hears can put a
host there.

* `Ledger.times`, `Ledger.quarantinings`: how often a ledger has counted something.
* `Ledger.Counts`: a part of a request counts what the stage it leads to stands for.
* `Recorded`: incidents and quarantined hosts between two ledgers with their pools.
* `Stride.Plays.recorded`: a stride counts what befalls the request in it, and nothing else.
* `Scene.givesBack_abandon`: a request that is given up counts no incident.
-/

namespace ConnectionRouter

/-! ## Ledgers -/

/-- What befalls a request and is counted once each time. -/
inductive Incident
  | attempt (outcome : AttemptOutcome)
  | preemption
  | fallback
  deriving DecidableEq

def Incident.metric : Incident → Metric
  | attempt outcome => .connectAttempt outcome
  | preemption => .preemption
  | fallback => .singleHostFallback

namespace Ledger

/-- How often an incident was counted. -/
def times (l : Ledger) : Incident → Nat
  | .attempt .ok => l.attempts.ok
  | .attempt .failed => l.attempts.failed
  | .attempt .rejected => l.attempts.rejected
  | .preemption => l.preemptions
  | .fallback => l.singleHostFallbacks

/-- How often a host was counted as put in quarantine. -/
def quarantinings (l : Ledger) (host : HostKey) : Nat := (l.quarantined[host]?).getD 0

theorem times_record (l : Ledger) (i j : Incident) :
    (l.record i.metric).times j = l.times j + [i].count j := by
  cases i with
  | attempt o => cases o <;> cases j with
    | attempt o' => cases o' <;> rfl
    | _ => rfl
  | _ => cases j with
    | attempt o' => cases o' <;> rfl
    | _ => rfl

theorem times_record_quarantined (l : Ledger) (host : HostKey) (i : Incident) :
    (l.record (.quarantined host)).times i = l.times i := by
  cases i with
  | attempt o => cases o <;> rfl
  | _ => rfl

theorem quarantinings_record (l : Ledger) (i : Incident) (host : HostKey) :
    (l.record i.metric).quarantinings host = l.quarantinings host := by
  cases i <;> rfl

theorem quarantinings_record_quarantined (l : Ledger) (host k : HostKey) :
    (l.record (.quarantined host)).quarantinings k =
      l.quarantinings k + if host = k then 1 else 0 := by
  rw [record, quarantinings, Table.getElem?_tally, quarantinings]
  by_cases h : host = k
  · rw [if_pos h, if_pos h, Option.getD_some, h]
  · rw [if_neg h, if_neg h, Nat.add_zero]

/-- Ledgers that agree on everything that befalls requests and hosts. -/
structure Agrees (l l' : Ledger) : Prop where
  times : ∀ i, l'.times i = l.times i
  quarantinings : ∀ host, l'.quarantinings host = l.quarantinings host

namespace Agrees

variable {l l' : Ledger}

theorem refl (l : Ledger) : l.Agrees l := ⟨fun _ => rfl, fun _ => rfl⟩

/-- Refreshes, and what is told of hosts, are no incidents. -/
theorem of_eq (ha : l'.attempts = l.attempts) (hp : l'.preemptions = l.preemptions)
    (hf : l'.singleHostFallbacks = l.singleHostFallbacks) (hq : l'.quarantined = l.quarantined) :
    l.Agrees l' := by
  refine ⟨fun i => ?_, fun host => ?_⟩
  · cases i with
    | attempt o => cases o <;> simp only [Ledger.times, ha]
    | preemption => exact hp
    | fallback => exact hf
  · rw [Ledger.quarantinings, hq, Ledger.quarantinings]

theorem note_hostConnections (l : Ledger) (host : HostKey) (count : Option Nat) :
    l.Agrees (l.note (count.map (.hostConnections host))) := by
  cases count <;> exact .of_eq rfl rfl rfl rfl

theorem note_refresh (l : Ledger) (outcome : RefreshOutcome) :
    l.Agrees (l.note (some (.refresh outcome))) := .of_eq rfl rfl rfl rfl

end Agrees

end Ledger

/-! ## Stages -/

namespace Stage

/-- A balanced connection is ready to be handed out. -/
def isHandOut : Stage → Bool
  | finished (.ok c) => c.lease.isSome
  | _ => false

/-- A connection is given up for a more preferred host. -/
def isPreemption : Stage → Bool
  | closing _ (.preempted ..) => true
  | _ => false

/-- A connection is refused because its host is no candidate any more. -/
def isRejection : Stage → Bool
  | closing _ (.rejected ..) => true
  | _ => false

/-- The seeds are tried without balancing. -/
def isSeed : Stage → Bool
  | opening _ (.seed _) => true
  | _ => false

/-- What has befallen a request that enters a stage. -/
def incidents : Stage → List Incident
  | finished (.ok ⟨_, some _⟩) => [.attempt .ok]
  | closing _ (.preempted ..) => [.attempt .ok, .preemption]
  | closing _ (.rejected ..) => [.attempt .rejected]
  | opening _ (.seed _) => [.fallback]
  | _ => []

/-- What a stage stands for can be seen as a request enters it. -/
theorem count_incidents (stage : Stage) (i : Incident) : stage.incidents.count i =
    match i with
    | .attempt .ok => stage.isHandOut.toNat + stage.isPreemption.toNat
    | .attempt .failed => 0
    | .attempt .rejected => stage.isRejection.toNat
    | .preemption => stage.isPreemption.toNat
    | .fallback => stage.isSeed.toNat := by
  cases i with
  | attempt o => cases o <;> cases stage with
    | finished result => rcases result with e | ⟨conn, _ | lease⟩ <;> rfl
    | opening addr purpose => cases purpose <;> rfl
    | closing conn purpose => cases purpose <;> rfl
    | _ => rfl
  | _ => cases stage with
    | finished result => rcases result with e | ⟨conn, _ | lease⟩ <;> rfl
    | opening addr purpose => cases purpose <;> rfl
    | closing conn purpose => cases purpose <;> rfl
    | _ => rfl

theorem isSeed_of_balanced {stage : Stage} (h : stage.balanced = true) :
    stage.isSeed = false := by
  cases stage with
  | opening addr purpose => cases purpose with
    | seed later => cases h
    | _ => rfl
  | _ => rfl

end Stage

/-! ## Parts of a request -/

/-- What is counted on the way to a stage is what the stage stands for; nobody is counted as put in
quarantine. -/
structure Ledger.Counts (l : Ledger) (r : Scene × Stage) : Prop where
  times : ∀ i, r.1.ledger.times i = l.times i + r.2.incidents.count i
  quarantinings : ∀ host, r.1.ledger.quarantinings host = l.quarantinings host

namespace Ledger

variable {l l' : Ledger} {s : Scene} {stage : Stage}

theorem Agrees.counts (h : l.Agrees s.ledger) (hs : stage.incidents = []) :
    l.Counts (s, stage) where
  times i := by
    rw [hs, List.count_nil]
    exact h.times i
  quarantinings := h.quarantinings

theorem Counts.of_silent (hl : s.ledger = l) (hs : stage.incidents = []) : l.Counts (s, stage) :=
  Agrees.counts (hl ▸ .refl l) hs

theorem Counts.of_agrees {r : Scene × Stage} (h : l.Agrees l') (c : l'.Counts r) : l.Counts r where
  times i := by rw [c.times, h.times]
  quarantinings host := (c.quarantinings host).trans (h.quarantinings host)

end Ledger

namespace Scene

variable (s : Scene) (caller : Caller) (now : Instant) (pick : Nat)

theorem counts_reserveNext (round : Nat) (refused : List HostKey) :
    s.ledger.Counts (s.reserveNext round refused pick) := by
  unfold reserveNext Balancer.reserve
  generalize s.balancer.pool.reserve refused pick = reserved
  obtain ⟨pool, _ | ⟨host, addr⟩⟩ := reserved
  · exact .of_silent rfl rfl
  · exact (Ledger.Agrees.note_hostConnections _ host (pool.count? host)).counts rfl

theorem counts_tryControl (round total : Nat) (addrs : List HostAddr) :
    s.ledger.Counts (s.tryControl caller round total addrs) := by
  cases addrs <;> exact .of_silent rfl rfl

theorem counts_bootstrap (round : Nat) : s.ledger.Counts (s.bootstrap caller round) :=
  s.counts_tryControl ..

/-- A single incident is counted. -/
theorem counts_count (i : Incident) {stage : Stage} (hs : stage.incidents = [i]) :
    s.ledger.Counts (s.count i.metric, stage) where
  times j := by
    rw [hs]
    exact s.ledger.times_record i j
  quarantinings := s.ledger.quarantinings_record i

/-- A connection is counted as opened before it is given up. -/
theorem counts_keep (round : Nat) (held : Held) : s.ledger.Counts (s.keep round held) := by
  unfold keep
  dsimp only
  split
  · refine ⟨fun i => ?_, fun host => rfl⟩
    have hok := s.ledger.times_record (.attempt .ok) i
    have hpreempted := (s.ledger.record (.connectAttempt .ok)).times_record .preemption i
    calc ((s.count (.connectAttempt .ok)).count .preemption).ledger.times i
      _ = s.ledger.times i + [.attempt .ok].count i + [.preemption].count i := by
          rw [← hok]
          exact hpreempted
      _ = s.ledger.times i + [.attempt .ok, .preemption].count i := by
          rw [Nat.add_assoc, ← List.count_append, List.singleton_append]
  · exact s.counts_count (.attempt .ok) rfl

/-- The way to the seeds is counted as the first of them is tried. -/
theorem counts_fallBack (hseeds : s.router.seeds ≠ []) : s.ledger.Counts s.fallBack := by
  obtain ⟨addr, later, hs⟩ := List.exists_cons_of_ne_nil hseeds
  have hstage : s.fallBack = (s.count .singleHostFallback, .opening addr (.seed later)) := by
    simp only [fallBack, connectThroughSeeds, hs, trySeeds, count]
  rw [hstage]
  exact s.counts_count .fallback rfl

theorem counts_refreshed (ok : Bool) (purpose : RefreshPurpose) (hseeds : s.router.seeds ≠ []) :
    s.ledger.Counts (s.refreshed caller pick ok purpose) := by
  unfold refreshed
  cases purpose with
  | cached round =>
    dsimp only
    split
    · exact counts_reserveNext (s.leaveControl caller) pick round []
    · split
      · exact .of_silent rfl rfl
      · exact s.counts_bootstrap caller round
  | fresh round conn =>
    dsimp only
    split
    · exact counts_reserveNext
        ({ s with router := { s.router with control := some conn } }.leaveControl caller) pick
          round []
    · exact counts_fallBack
        ({ s with router := { s.router with control := some conn } }.leaveControl caller) hseeds
  | check round held =>
    dsimp only
    split
    · exact s.counts_count (.attempt .rejected) rfl
    · exact s.counts_keep round held

/-- A refresh that starts counts at most that no query was needed. -/
theorem counts_startRefresh (purpose : RefreshPurpose) (hseeds : s.router.seeds ≠ []) :
    s.ledger.Counts (s.startRefresh caller now pick purpose) := by
  unfold startRefresh
  rcases s.balancer.startRefresh_cases caller now with
    ⟨turn, -, -, he⟩ | ⟨-, -, -, he⟩ | ⟨-, he⟩ <;> rw [he]
  · exact .of_silent rfl rfl
  · exact .of_silent rfl rfl
  · exact .of_agrees (.note_refresh s.ledger .skipped) (counts_refreshed
      { s with ledger := s.ledger.note (some (.refresh .skipped)) } caller pick true purpose hseeds)

theorem counts_turnGranted (purpose : RefreshPurpose) (hseeds : s.router.seeds ≠ []) :
    s.ledger.Counts (s.turnGranted caller now pick purpose) := by
  unfold turnGranted Balancer.resumeRefresh
  split_ifs
  · exact .of_silent rfl rfl
  · exact counts_refreshed
      { s with balancer := { s.balancer with turn := s.balancer.turn.leave caller } } caller pick
        true purpose hseeds

theorem counts_controlGranted (round : Nat) (hseeds : s.router.seeds ≠ []) :
    s.ledger.Counts (s.controlGranted caller now round pick) := by
  unfold controlGranted
  split
  · exact s.counts_startRefresh caller now pick _ hseeds
  · exact s.counts_bootstrap caller round

theorem counts_beginRound (round : Nat) (hseeds : s.router.seeds ≠ []) :
    s.ledger.Counts (s.beginRound caller now round pick) := by
  unfold beginRound
  split
  · split
    · rename_i turn _
      exact counts_controlGranted { s with router := { s.router with turn := turn } } caller now
        pick round hseeds
    · split
      · exact s.counts_reserveNext pick round []
      · exact .of_silent rfl rfl
  · exact s.counts_reserveNext pick round []

end Scene

/-! ## What is heard -/

/-- The opening of a data connection has failed. -/
def Wait.isFailedOpening : Wait → Bool
  | some (.opening _ (.data ..), .opened (some _)) => true
  | _ => false

/-- A host was outside of quarantine in one pool and is in quarantine in another. -/
def Pool.putsIn (p q : Pool) (host : HostKey) : Bool :=
  !p.isQuarantined host && q.isQuarantined host

/-- Of incidents a ledger counts the given ones; and it counts every host that comes into
quarantine. -/
structure Recorded (incidents : List Incident) (l : Ledger) (p : Pool) (l' : Ledger) (p' : Pool) :
    Prop where
  times : ∀ i, l'.times i = l.times i + incidents.count i
  quarantinings : ∀ host, l'.quarantinings host = l.quarantinings host + (p.putsIn p' host).toNat

namespace Recorded

variable {l l' l'' : Ledger} {p p' p'' : Pool} {is js : List Incident}

theorem of_agrees (h : l.Agrees l') (hq : ∀ host, p.putsIn p' host = false) :
    Recorded [] l p l' p' where
  times := h.times
  quarantinings host := by rw [hq, h.quarantinings]; rfl

/-- A host is counted when it comes into quarantine, not when it fails again. -/
theorem markFailed (l : Ledger) (p : Pool) (host : HostKey) (now : Instant) :
    Recorded [] l p (l.note (if (p.markFailed host now).2 then some (.quarantined host) else none))
      (p.markFailed host now).1 where
  times i := by
    split
    · exact l.times_record_quarantined host i
    · rfl
  quarantinings k := by
    rw [Pool.putsIn, Pool.isQuarantined_markFailed, Pool.markFailed_isNews]
    cases hq : p.isQuarantined host with
    | true =>
      have hin : (!p.isQuarantined k && (host == k || p.isQuarantined k)) = false := by
        by_cases hk : host = k
        · rw [← hk, hq]
          rfl
        · simp [hk]
      rw [hin]
      rfl
    | false =>
      by_cases hk : host = k
      · simp [← hk, hq, Ledger.note, Ledger.quarantinings_record_quarantined]
      · simp [hk, Ledger.note, Ledger.quarantinings_record_quarantined]

theorem of_quarantine_eq (h : l.Agrees l') (hq : p'.quarantine = p.quarantine) :
    Recorded [] l p l' p' :=
  .of_agrees h fun host => by
    rw [Pool.putsIn, Pool.isQuarantined, Pool.isQuarantined, hq, Bool.not_and_self]

/-- Of two changes one leaves the quarantine alone. -/
theorem trans (h : Recorded is l p l' p') (h' : Recorded js l' p' l'' p'')
    (hq : p'.quarantine = p.quarantine ∨ p''.quarantine = p'.quarantine) :
    Recorded (is ++ js) l p l'' p'' where
  times i := by rw [h'.times, h.times, List.count_append, Nat.add_assoc]
  quarantinings host := by
    rw [h'.quarantinings, h.quarantinings]
    rcases hq with hq | hq <;>
      simp only [Pool.putsIn, Pool.isQuarantined, hq, Bool.not_and_self, Bool.toNat_false,
        Nat.add_zero]

theorem of_counts {r : Scene × Stage} (c : l.Counts r)
    (hq : r.1.balancer.pool.quarantine = p.quarantine) :
    Recorded r.2.incidents l p r.1.ledger r.1.balancer.pool where
  times := c.times
  quarantinings host := by
    simp only [c.quarantinings, Pool.putsIn, Pool.isQuarantined, hq, Bool.not_and_self,
      Bool.toNat_false, Nat.add_zero]

/-- An incident is counted as it occurs. -/
theorem record (l : Ledger) (p : Pool) (i : Incident) : Recorded [i] l p (l.record i.metric) p where
  times := l.times_record i
  quarantinings host := by
    rw [l.quarantinings_record, Pool.putsIn, Bool.not_and_self]
    rfl

end Recorded

namespace Balancer

/-- A lease that is given back changes a number of connections only. -/
theorem recorded_release (b : Balancer) (l : Ledger) (host : HostKey) :
    Recorded [] l b.pool (l.note (b.release host).2) (b.release host).1.pool :=
  .of_quarantine_eq (.note_hostConnections ..) (Pool.quarantine_adjust b.pool host (-1))

theorem recorded_markFailed (b : Balancer) (l : Ledger) (host : HostKey) (now : Instant) :
    Recorded [] l b.pool (l.note (b.markFailed host now).2) (b.markFailed host now).1.pool :=
  .markFailed l b.pool host now

/-- A refresh counts its outcome only, and lets hosts out of quarantine at most. -/
theorem recorded_finishRefresh (b : Balancer) (l : Ledger) (caller : Caller) (now : Instant)
    (control : String) (answer : Except RoutingError (List Row)) :
    Recorded [] l b.pool (l.note (b.finishRefresh caller now control answer).2.2)
      (b.finishRefresh caller now control answer).1.pool := by
  unfold finishRefresh
  split
  · exact .of_quarantine_eq (.note_refresh ..) rfl
  · rename_i members _
    refine .of_agrees (.note_refresh ..) fun host => ?_
    show b.pool.putsIn (b.pool.apply ⟨members, control⟩ b.rules now).1 host = false
    cases hq : b.pool.isQuarantined host with
    | true => simp [Pool.putsIn, hq]
    | false => rw [Pool.putsIn, Pool.isQuarantined_apply_of_false hq, Bool.and_false]

end Balancer

namespace Scene

variable (s : Scene) (caller : Caller) (now : Instant)

/-- The lease is given back before its host is failed. -/
theorem recorded_failHost (lease : Lease) : Recorded [] s.ledger s.balancer.pool
    (s.failHost lease now).ledger (s.failHost lease now).balancer.pool := by
  have hreleased : Recorded [] s.ledger s.balancer.pool (s.release lease).ledger
      (s.release lease).balancer.pool := s.balancer.recorded_release s.ledger lease.host
  have hfailed := (s.release lease).balancer.recorded_markFailed (s.release lease).ledger
    lease.host now
  have hforced : Recorded [] (s.failHost lease now).ledger
      ((s.release lease).balancer.markFailed lease.host now).1.pool (s.failHost lease now).ledger
      (s.failHost lease now).balancer.pool := .of_quarantine_eq (.refl _) rfl
  exact hreleased.trans (hfailed.trans hforced (.inr rfl))
    (.inl (Pool.quarantine_adjust _ lease.host (-1)))

/-- A request that hears of a failed opening counts it. -/
theorem recorded_hear (w : Wait) :
    Recorded (if w.isFailedOpening then [.attempt .failed] else []) s.ledger s.balancer.pool
      (s.hear caller now w).ledger (s.hear caller now w).balancer.pool := by
  generalize hm : s.hear caller now w = m
  unfold hear at hm
  split at hm <;> subst hm
  · exact (Recorded.record s.ledger s.balancer.pool (.attempt .failed)).trans
      (recorded_failHost (s.count (.connectAttempt .failed)) now _) (.inl rfl)
  · exact s.recorded_failHost now _
  · exact s.balancer.recorded_release s.ledger _
  · exact s.balancer.recorded_finishRefresh s.ledger caller now _ _
  · rename_i hno _ _ _
    have hf : w.isFailedOpening = false := by
      unfold Wait.isFailedOpening
      split
      · exact absurd rfl (hno _ _ _ _ _)
      · rfl
    rw [hf]
    exact .of_quarantine_eq (.refl _) rfl

/-- What a part of a request leaves alone while it gives back what it holds. -/
structure GivesBack (s m : Scene) : Prop where
  id_eq : m.id = s.id
  seeds_eq : m.router.seeds = s.router.seeds
  recorded : Recorded [] s.ledger s.balancer.pool m.ledger m.balancer.pool

theorem GivesBack.of_eq {m : Scene} (hi : m.id = s.id) (hr : m.router.seeds = s.router.seeds)
    (hl : m.ledger = s.ledger) (hb : m.balancer.pool = s.balancer.pool) : s.GivesBack m where
  id_eq := hi
  seeds_eq := hr
  recorded := by
    rw [hl, hb]
    exact .of_quarantine_eq (.refl _) rfl

/-- A request that is given up counts no incident. -/
theorem givesBack_abandon (stage : Stage) : s.GivesBack (s.abandon caller stage).1 := by
  have hreleased : ∀ lease, s.GivesBack (s.release lease) := fun lease =>
    ⟨rfl, rfl, s.balancer.recorded_release s.ledger lease.host⟩
  cases stage with
  | awaitingControl round => exact .of_eq s rfl rfl rfl rfl
  | awaitingTurn purpose =>
    cases purpose with
    | check round held =>
      exact ⟨rfl, rfl, (s.balancer.abandonRefresh caller).recorded_release s.ledger held.lease.host⟩
    | _ => exact .of_eq s rfl rfl rfl rfl
  | querying purpose =>
    cases purpose with
    | check round held =>
      exact ⟨rfl, rfl, (s.balancer.abandonRefresh caller).recorded_release s.ledger held.lease.host⟩
    | _ => exact .of_eq s rfl rfl rfl rfl
  | opening addr purpose =>
    cases purpose with
    | data round lease refused => exact hreleased lease
    | _ => exact .of_eq s rfl rfl rfl rfl
  | closing conn purpose =>
    cases purpose with
    | stale round => exact .of_eq s rfl rfl rfl rfl
    | rejected round lease refused => exact hreleased lease
    | preempted round lease => exact hreleased lease
  | finished result => exact .of_eq s rfl rfl rfl rfl

end Scene

/-! ## Strides -/

namespace Stride

variable {caller : Caller} {t : Stride}

/-- After what it has heard, a request counts what the stage it enters stands for. -/
theorem Plays.counts (h : t.Plays caller) (hseeds : t.found.router.seeds ≠ [])
    (hb : ∀ stage arrival, t.wait = some (stage, arrival) → stage.balanced = true) :
    (t.found.hear caller t.now t.wait).ledger.Counts (t.left, t.stage) := by
  obtain ⟨wait, found, now, pick, left, stage⟩ := t
  have hheard : (found.hear caller now wait).router.seeds ≠ [] := by
    rw [(Scene.Later.hear ..).seeds_eq]
    exact hseeds
  cases wait with
  | none => exact (h : found.beginRound caller now 1 pick = (left, stage)) ▸
      found.counts_beginRound caller now pick 1 hseeds
  | some wait =>
    obtain ⟨from_, arrival⟩ := wait
    have he : found.proceed? caller now pick from_ arrival = some (left, stage) := h
    have hbalanced : from_.balanced = true := hb from_ arrival rfl
    unfold Scene.proceed? at he
    split at he
    · exact Option.some.inj he ▸ found.counts_controlGranted caller now pick _ hseeds
    · exact Option.some.inj he ▸ found.counts_turnGranted caller now pick _ hseeds
    · rename_i addr purpose failure
      rw [← Option.some.inj he]
      cases purpose with
      | control round later total =>
        cases failure with
        | none => exact found.counts_startRefresh caller now pick _ hseeds
        | some e => exact found.counts_tryControl caller round total later
      | data round lease refused =>
        cases failure with
        | none => exact found.counts_startRefresh caller now pick _ hseeds
        | some e => exact Scene.counts_reserveNext _ pick round (lease.host :: refused)
      | seed later => cases hbalanced
    · exact Option.some.inj he ▸ Scene.counts_refreshed _ caller pick _ _ hheard
    · rename_i conn purpose
      rw [← Option.some.inj he]
      cases purpose with
      | stale round => exact found.counts_bootstrap caller round
      | rejected round lease refused =>
        exact Scene.counts_reserveNext _ pick round (lease.host :: refused)
      | preempted round lease => exact Scene.counts_beginRound _ caller now pick (round + 1) hheard
    · cases he

/-- Everything that befalls a request in a stride is counted, and nothing else. -/
theorem Plays.recorded (h : t.Plays caller) (hseeds : t.found.router.seeds ≠ [])
    (hb : ∀ stage arrival, t.wait = some (stage, arrival) → stage.balanced = true) :
    Recorded ((if t.wait.isFailedOpening then [.attempt .failed] else []) ++ t.stage.incidents)
      t.found.ledger t.found.balancer.pool t.left.ledger t.left.balancer.pool := by
  have hquarantine : t.left.balancer.pool.quarantine =
      (t.found.hear caller t.now t.wait).balancer.pool.quarantine := by
    obtain ⟨-, hp | ⟨addr, lease, -, hr⟩⟩ := h.sequel.moves
    · rw [hp]
    · rw [hr.pool_eq, Pool.quarantine_adjust]
  exact (t.found.recorded_hear caller t.now t.wait).trans
    (.of_counts (h.counts hseeds hb) hquarantine) (.inr hquarantine)

end Stride

end ConnectionRouter
