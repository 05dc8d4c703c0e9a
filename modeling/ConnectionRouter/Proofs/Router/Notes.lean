import ConnectionRouter.Proofs.Config.Faults
import ConnectionRouter.Proofs.Router.Arrivals
import ConnectionRouter.Proofs.Router.Incidents
import ConnectionRouter.Proofs.Router.Service

/-!
# What a world notes

The ledger of a world counts what befalls its requests, and every host that comes into quarantine in
one of its balancers (`World.Notes`). Whatever is under way, only the steps of requests count
incidents.

* `Registry.putsIn`: the balancers in which a host comes into quarantine.
* `World.begin_notes`, `World.resume?_notes`: the steps of requests.
* `World.abandon_notes`, `World.change_notes`, `World.install_notes` and others: what counts no
  incident.
-/

namespace ConnectionRouter

/-! ## Quarantines of a registry -/

namespace Registry

variable {reg reg' : Registry} {id : BalancerId} {b : Balancer}

def isQuarantined (reg : Registry) (id : BalancerId) (host : HostKey) : Bool :=
  (reg.balancer? id).any (·.pool.isQuarantined host)

theorem isQuarantined_iff {host : HostKey} : reg.isQuarantined id host = true ↔
    ∃ b, reg.balancer? id = some b ∧ b.pool.isQuarantined host = true := by
  unfold isQuarantined
  cases reg.balancer? id <;> simp

/-- The number of balancers that had a host outside of quarantine and have it in quarantine now. -/
def putsIn (reg reg' : Registry) (host : HostKey) : Nat :=
  (List.range reg'.size).countP fun id => !reg.isQuarantined id host && reg'.isQuarantined id host

theorem putsIn_eq_zero {host : HostKey}
    (h : ∀ id, reg'.isQuarantined id host = true → reg.isQuarantined id host = true) :
    reg.putsIn reg' host = 0 := by
  refine List.countP_eq_zero.mpr fun id _ hin => ?_
  obtain ⟨hout, hin⟩ := Bool.and_eq_true_iff.mp hin
  rw [h id hin] at hout
  cases hout

/-- A balancer that was never used has nobody in quarantine. -/
theorem Extends.putsIn_eq_zero (he : reg.Extends reg') (host : HostKey) :
    reg.putsIn reg' host = 0 := by
  refine Registry.putsIn_eq_zero fun id hin => ?_
  obtain ⟨b, hb, hq⟩ := isQuarantined_iff.mp hin
  rcases he.balancer? hb with hold | ⟨-, preference, settings, rfl⟩
  · exact isQuarantined_iff.mpr ⟨b, hold, hq⟩
  · simp [Pool.isQuarantined, Quarantine.contains] at hq

theorem isQuarantined_put (hb : reg.balancer? id = some b) (b' : Balancer) (j : BalancerId)
    (host : HostKey) : (reg.put id b').isQuarantined j host =
      if id = j then b'.pool.isQuarantined host else reg.isQuarantined j host := by
  rw [isQuarantined, balancer?_put]
  split
  · rename_i hj
    rw [← hj, hb]
    rfl
  · rfl

theorem lt_size (hb : reg.balancer? id = some b) : id < reg.size := by
  obtain ⟨e, he, -⟩ := Option.map_eq_some_iff.mp hb
  exact (List.getElem?_eq_some_iff.mp he).1

/-- Only the balancer that changes can put a host in quarantine. -/
theorem putsIn_put (hb : reg.balancer? id = some b) (b' : Balancer) (host : HostKey) :
    reg.putsIn (reg.put id b') host = (b.pool.putsIn b'.pool host).toNat := by
  have hsize : (reg.put id b').size = reg.size := List.length_modify ..
  have hold : reg.isQuarantined id host = b.pool.isQuarantined host := by
    rw [isQuarantined, hb]
    rfl
  have heach : ∀ j, (!reg.isQuarantined j host && (reg.put id b').isQuarantined j host) =
      (decide (j = id) && b.pool.putsIn b'.pool host) := by
    intro j
    rw [isQuarantined_put hb]
    by_cases hj : id = j
    · subst hj
      simp [hold, Pool.putsIn]
    · simp [hj, Ne.symm hj]
  rw [putsIn, hsize]
  simp only [heach]
  cases b.pool.putsIn b'.pool host with
  | false => simp
  | true =>
    have hone : (List.range reg.size).count id = 1 :=
      List.count_eq_one_of_mem List.nodup_range (List.mem_range.mpr (lt_size hb))
    simpa [List.count, beq_eq_decide] using hone

end Registry

/-! ## What a world notes -/

namespace World

/-- Every router has a seed. -/
def Seeded (w : World) : Prop :=
  ∀ (name : String) (r : Router), w.routers[name]? = some r → r.seeds ≠ []

/-- A world counts some incidents and every host that comes into quarantine, and keeps the seeds. -/
structure Notes (incidents : List Incident) (w w' : World) : Prop where
  times : ∀ i, w'.ledger.times i = w.ledger.times i + incidents.count i
  quarantinings : ∀ host, w'.ledger.quarantinings host =
    w.ledger.quarantinings host + w.registry.putsIn w'.registry host
  seeded : w.Seeded → w'.Seeded

namespace Notes

variable {w w' : World} {is : List Incident} {id : BalancerId} {b b' : Balancer}

theorem of_eq (hl : w'.ledger = w.ledger) (hr : w'.registry = w.registry)
    (hs : w.Seeded → w'.Seeded) : Notes [] w w' where
  times i := by rw [hl]; rfl
  quarantinings host := by
    rw [hl, hr, Registry.putsIn_eq_zero fun _ h => h]
    rfl
  seeded := hs

/-- A balancer changes, and the world counts what this yields. -/
theorem of_recorded (hb : w.registry.balancer? id = some b)
    (hr : w'.registry = w.registry.put id b')
    (h : Recorded is w.ledger b.pool w'.ledger b'.pool) (hs : w.Seeded → w'.Seeded) :
    Notes is w w' where
  times := h.times
  quarantinings host := by rw [hr, Registry.putsIn_put hb, h.quarantinings]
  seeded := hs

end Notes

variable {w : World} {name : String}

theorem Seeded.insert {w' : World} {r : Router} (hs : w.Seeded) (hr : r.seeds ≠ [])
    (he : w'.routers = w.routers.insert name r) : w'.Seeded := by
  intro k r' hk
  rw [he, Std.ExtTreeMap.getElem?_insert] at hk
  split at hk
  · cases hk
    exact hr
  · exact hs k r' hk

/-- A router changes, but not its seeds. -/
theorem Seeded.withRouter {f : Router → Router} (hs : w.Seeded) (hf : ∀ r, (f r).seeds = r.seeds) :
    (w.withRouter name f).Seeded := by
  intro k r' hk
  simp only [World.withRouter, Std.ExtTreeMap.getElem?_modify] at hk
  split at hk
  · obtain ⟨r, hr, rfl⟩ := Option.map_eq_some_iff.mp hk
    rw [hf]
    exact hs name r hr
  · exact hs k r' hk

theorem ledger_scene? {s : Scene} (hs : w.scene? name = some s) : s.ledger = w.ledger := by
  simp only [scene?, Option.bind_eq_bind, Option.bind_eq_some_iff, Option.pure_def,
    Option.some.injEq] at hs
  obtain ⟨r, -, id, -, b, -, rfl⟩ := hs
  rfl

/-- A scene is put back with the seeds that it had. -/
theorem Notes.setScene {is : List Incident} {s s' : Scene} (hs : w.scene? name = some s)
    (hid : s'.id = s.id) (hseeds : s'.router.seeds = s.router.seeds)
    (h : Recorded is s.ledger s.balancer.pool s'.ledger s'.balancer.pool) :
    Notes is w (w.setScene name s') := by
  obtain ⟨hr, -, hb⟩ := scene?_eq_some hs
  have hl : s.ledger = w.ledger := ledger_scene? hs
  refine .of_recorded hb (by rw [World.setScene, hid]) (hl ▸ h) fun hw => ?_
  exact hw.insert (hseeds ▸ hw name s.router hr) rfl

/-! ## Requests -/

variable {w' : World} {r r' : Request} {is : List Incident}

theorem stage_enter (w : World) (r : Request) (stage : Stage) :
    (w.enter r stage).2.stage = stage := by
  unfold enter
  split <;> rfl

/-- The clock and the network of the later world do not matter. -/
theorem Notes.set_now_network (h : Notes is w w') (now : Instant) (network : Network) :
    Notes is w { w' with now := now, network := network } := ⟨h.times, h.quarantinings, h.seeded⟩

theorem Notes.enter (h : Notes is w w') (r : Request) (stage : Stage) :
    Notes is w (w'.enter r stage).1 := by
  unfold World.enter
  split
  · exact h.set_now_network ..
  · exact h

theorem Notes.of_enter {m : World} {stage : Stage} (h : Notes is w m)
    (he : m.enter r stage = (w', r')) : Notes is w w' ∧ r'.stage = stage := by
  have hnotes := h.enter r stage
  have hstage := stage_enter m r stage
  rw [he] at hnotes hstage
  exact ⟨hnotes, hstage⟩

/-- What a request counts in a stride in a world. -/
theorem Notes.of_plays {caller : Caller} {t : Stride} (h : t.Plays caller)
    (hs : w.scene? name = some t.found) (hw : w.Seeded)
    (hb : ∀ stage arrival, t.wait = some (stage, arrival) → stage.balanced = true) :
    Notes ((if t.wait.isFailedOpening then [.attempt .failed] else []) ++ t.stage.incidents) w
      (w.setScene name t.left) := by
  obtain ⟨hr, -, -⟩ := scene?_eq_some hs
  exact .setScene hs h.later.id_eq h.later.seeds_eq (h.recorded (hw name _ hr) hb)

/-- An incident that has nothing to do with a balancer. -/
theorem Notes.record (w : World) (i : Incident) :
    Notes [i] w { w with ledger := w.ledger.record i.metric } where
  times := w.ledger.times_record i
  quarantinings host := by
    rw [Registry.putsIn_eq_zero fun _ h => h]
    exact w.ledger.quarantinings_record i host
  seeded := id

/-- A request that begins counts what its first stage stands for. -/
theorem begin_notes (hw : w.Seeded) (name : String) (caller : Caller) (pick : Nat) :
    Notes (w.begin name caller pick).2.stage.incidents w (w.begin name caller pick).1 := by
  unfold begin
  cases hr : w.routers[name]? with
  | none => exact .of_eq rfl rfl id
  | some found =>
    dsimp only
    split
    · rw [stage_enter]
      unfold play
      cases hs : w.scene? name with
      | none => exact Notes.enter (.of_eq rfl rfl id) _ _
      | some s =>
        have hplays : Stride.Plays caller ⟨none, s, w.now, pick,
            (s.beginRound caller w.now 1 pick).1, (s.beginRound caller w.now 1 pick).2⟩ := rfl
        exact Notes.enter (.of_plays hplays hs hw (fun _ _ h => nomatch h)) _ _
    · rw [stage_enter]
      obtain ⟨addr, later, hseeds⟩ := List.exists_cons_of_ne_nil (hw name found hr)
      have hstage : (connectThroughSeeds found w.ledger).2 = .opening addr (.seed later) := by
        rw [connectThroughSeeds, hseeds, trySeeds]
      rw [hstage]
      exact (Notes.record w .fallback).enter _ _

/-- What a request waits for is the opening of a data connection, and that fails. -/
def failsToOpen (w : World) (r : Request) : Bool :=
  match r.stage, r.due with
  | .opening addr (.data ..), some due => (Except.failure? (w.arrive r addr due).2).isSome
  | _, _ => false

/-- The clock has no part in how an opening ends. -/
theorem isFailedOpening_arrival {now : Instant} {network : Network} {arrival : Arrival}
    (h : { w with now := now }.arrival? r = some (network, arrival)) :
    Wait.isFailedOpening (some (r.stage, arrival)) = w.failsToOpen r := by
  obtain ⟨name, caller, stage, due⟩ := r
  cases stage with
  | opening addr purpose =>
    cases due with
    | none => cases h
    | some due =>
      simp only [arrival?] at h
      split at h
      · cases h
      · have harrive :
            ({ w with now := now }.arrive ⟨name, caller, .opening addr purpose, some due⟩
              addr due).2 =
            (w.arrive ⟨name, caller, .opening addr purpose, some due⟩ addr due).2 := by
          unfold arrive
          split <;> rfl
        rw [harrive] at h
        obtain ⟨-, rfl⟩ := Prod.mk.inj (Option.some.inj h)
        cases purpose with
        | data round lease refused =>
          simp only [Wait.isFailedOpening, failsToOpen]
          cases Except.failure? (w.arrive _ addr due).2 <;> rfl
        | control => rfl
        | seed => rfl
  | _ => rfl

/-- A balanced request that goes on counts a failed opening and what its next stage stands for. -/
theorem resume?_notes (hf : r.party.Fits w) (hw : w.Seeded) (hb : r.stage.balanced = true)
    {pick : Nat} (h : w.resume? r pick = some (w', r')) :
    Notes ((if w.failsToOpen r then [.attempt .failed] else []) ++ r'.stage.incidents) w w' := by
  obtain ⟨s, hs⟩ := Option.isSome_iff_exists.mp (hf.scene hb)
  rw [resume?, proceed?_eq (w := { w with now := w.now + w.tick }) (s := s) hs hb] at h
  obtain ⟨⟨network, arrival⟩, harrival, h⟩ := Option.bind_eq_some_iff.mp h
  obtain ⟨⟨left, stage⟩, hplays, h⟩ := Option.map_eq_some_iff.mp h
  have hplays : Stride.Plays r.caller
      ⟨some (r.stage, arrival), s, w.now + w.tick, pick, left, stage⟩ := hplays
  have hnotes := Notes.of_plays hplays hs hw fun _ _ he => by
    cases he
    exact hb
  rw [isFailedOpening_arrival harrival] at hnotes
  obtain ⟨hnotes, hstage⟩ := (hnotes.set_now_network (w.now + w.tick) network).of_enter h
  rw [hstage]
  exact hnotes

/-- Without balancing a request counts nothing on its way. -/
theorem resume?_notes_seed (hb : r.stage.balanced = false) {pick : Nat}
    (h : w.resume? r pick = some (w', r')) : Notes [] w w' ∧ r.stage.isSeed = true ∧
      ∃ later result, r'.stage = seedOpened later result := by
  obtain ⟨name, caller, stage, due⟩ := r
  cases stage with
  | opening addr purpose =>
    cases purpose with
    | seed later =>
      cases due with
      | none => cases h
      | some due =>
        simp only [resume?, proceed?] at h
        split at h
        · cases h
        · obtain ⟨network, harrive⟩ := arrive_eq { w with now := w.now + w.tick }
            ⟨name, caller, .opening addr (.seed later), some due⟩ addr due
          have harrived : Notes [] w ({ w with now := w.now + w.tick }.arrive
              ⟨name, caller, .opening addr (.seed later), some due⟩ addr due).1 := by
            rw [harrive]
            exact .of_eq rfl rfl id
          obtain ⟨hnotes, hstage⟩ := harrived.of_enter (Option.some.inj h)
          exact ⟨hnotes, rfl, later, _, hstage⟩
    | control => cases hb
    | data => cases hb
  | finished => cases h
  | _ => cases hb

/-- A request that is given up counts nothing. -/
theorem abandon_notes (w : World) (r : Request) : Notes [] w (w.abandon r) := by
  unfold abandon
  cases hs : w.scene? r.router with
  | none => exact .of_eq rfl rfl id
  | some s =>
    have hgiven := s.givesBack_abandon r.caller r.stage
    exact (Notes.setScene hs hgiven.id_eq hgiven.seeds_eq hgiven.recorded).set_now_network w.now _

/-! ## Others -/

/-- A balancer changes and the world counts what this yields. -/
theorem withBalancer_notes {f : Balancer → Balancer × Option Metric}
    (hf : ∀ b : Balancer, Recorded [] w.ledger b.pool (w.ledger.note (f b).2) (f b).1.pool)
    (id : BalancerId) : Notes [] w (w.withBalancer id f) := by
  unfold withBalancer
  cases hb : w.registry.balancer? id with
  | none => exact .of_eq rfl rfl fun hs => hs
  | some b => exact .of_recorded hb rfl (hf b) fun hs => hs

theorem change_notes (w : World) {c : Change} (hc : c.isAdjust = false) :
    Notes [] w (w.change c) := by
  have hbalancer : ∀ (router : String) (f : Balancer → Balancer × Option Metric),
      (∀ b : Balancer, Recorded [] w.ledger b.pool (w.ledger.note (f b).2) (f b).1.pool) →
        Notes [] w (w.withBalancerOf router f) := by
    intro router f hf
    unfold withBalancerOf
    cases w.balancerOf? router with
    | none => exact .of_eq rfl rfl id
    | some id => exact withBalancer_notes hf id
  cases c with
  | markFailed router host =>
    exact hbalancer router _ fun b => b.recorded_markFailed w.ledger host w.now
  | forceRefresh router => exact hbalancer router _ fun b => .of_quarantine_eq (.refl _) rfl
  | adjust => cases hc
  | _ => exact .of_eq rfl rfl id

theorem release_notes (w : World) (lease : Lease) : Notes [] w (w.release lease) :=
  withBalancer_notes (fun b => b.recorded_release w.ledger lease.host) lease.balancer

/-- A new router has a seed, and a new balancer has nobody in quarantine. -/
theorem install_notes (hnew : w.routers[name]? = none) {config : Config} {found : Router}
    {registry : Registry} (hc : Router.create config w.registry = .ok (found, registry)) :
    Notes [] w (w.install name found registry) := by
  obtain ⟨-, -, hext⟩ := Router.create_eq_ok hc
  rw [install_eq hnew]
  refine ⟨fun _ => rfl, fun host => ?_, fun hs => hs.insert (Router.mapM_seeds_of_create hc).2 rfl⟩
  rw [hext.putsIn_eq_zero]
  rfl

/-- A shutdown counts nothing. -/
theorem withRouter_notes {f : Router → Router} (hf : ∀ r, (f r).seeds = r.seeds)
    (h : Notes [] w w') (name : String) : Notes [] w (w'.withRouter name f) :=
  ⟨h.times, h.quarantinings, fun hs => (h.seeded hs).withRouter hf⟩

theorem takeControl_notes (h : Notes [] w w') (d : Shutdown) :
    Notes [] w (w'.takeControl d).1 := by
  unfold takeControl
  split
  · exact withRouter_notes (fun _ => by rfl) h _
  · exact withRouter_notes (fun _ => by rfl) h _

theorem beginShutdown_notes (w : World) (name : String) (caller : Caller) :
    Notes [] w (w.beginShutdown name caller).1 := by
  unfold beginShutdown
  dsimp only
  split
  · exact takeControl_notes (withRouter_notes (fun _ => by rfl) (.of_eq rfl rfl id) name) _
  · exact withRouter_notes (fun _ => by rfl) (.of_eq rfl rfl id) name

theorem resumeShutdown?_notes {d d' : Shutdown} (h : w.resumeShutdown? d = some (w', d')) :
    Notes [] w w' := by
  unfold resumeShutdown? at h
  split at h
  · cases h
  · split at h
    · obtain rfl : (w.takeControl d).1 = w' := congrArg Prod.fst (Option.some.inj h)
      exact takeControl_notes (.of_eq rfl rfl id) d
    · cases h
  · rename_i conn _
    cases h
    have hclosed : Notes [] w { w with network := (w.network.close conn).1 } := .of_eq rfl rfl id
    exact withRouter_notes (fun _ => by rfl) hclosed _

theorem abandonShutdown_notes (w : World) (d : Shutdown) : Notes [] w (w.abandonShutdown d) := by
  have hleft : Notes [] w
      (w.withRouter d.router fun r => { r with turn := r.turn.leave d.caller }) :=
    withRouter_notes (fun _ => by rfl) (.of_eq rfl rfl id) _
  unfold abandonShutdown
  dsimp only
  split
  · exact hleft.set_now_network w.now _
  · exact hleft

end World

end ConnectionRouter
