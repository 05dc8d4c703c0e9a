import ConnectionRouter.Proofs.Router.Course
import ConnectionRouter.Proofs.Router.QueryTurns

/-!
# Recovery

A router that nobody uses, whose cluster is again as its balancer knows it and keeps nobody waiting,
and whose quarantine has nobody in it who has to stay (`Service.Restored`), gets a balanced
connection (`Service.Grants`) if a refresh is due and nobody else is at the turn of the balancer, or
if some member is outside quarantine. Otherwise nobody is let out: hosts leave quarantine at a
refresh and not by a timer, so that a router whose members are all in quarantine is refused until
its next refresh is due (`Service.run_recovers`).

* `Course.Follows.step`: a step of a request on its course leads further on it.
* `Course.Follows.granted`: a request on its course comes to its end.
-/

namespace ConnectionRouter

namespace Course

variable {c : Course} {w : World} {r : Request} {s : Scene} {bound : Nat}

/-- A request at work in a world is on its course. -/
structure Follows (c : Course) (w : World) (r : Request) : Prop where
  network : c.network.Alike w.network
  scene : ∃ s, w.scene? r.router = some s ∧ c.Settled w.now s ∧ c.Allows r.caller w.now s r.stage
  /-- A connect that is under way is over at once. -/
  due : ∀ addr purpose, r.stage = .opening addr purpose →
    ∃ time, r.due = some ⟨time, false⟩ ∧ time ≤ w.now

/-! ## A step -/

/-- Whatever is opened on the course takes no time. -/
theorem Allows.prompt {caller : Caller} {now : Instant} (st : c.Settled now s) {addr : HostAddr}
    {purpose : OpenPurpose} (h : c.Allows caller now s (.opening addr purpose)) :
    c.network.Prompt addr := by
  cases purpose with
  | control round later total => exact h.2.1 addr List.mem_cons_self
  | data round lease refused =>
    obtain ⟨m, hm, -, rfl⟩ := h
    exact (st.upToDate.reachable_member hm).toPrompt
  | seed later => exact h.elim

theorem follows_enter (hn : c.network.Alike w.network) (hs : w.scene? r.router = some s)
    {stage : Stage} (h : c.Heads r.caller w.now (s, stage) bound) :
    c.Follows (w.enter r stage).1 (w.enter r stage).2 ∧
      c.stepsLeft (w.enter r stage).2.stage ≤ bound := by
  unfold World.enter
  split
  · rename_i addr purpose
    refine ⟨⟨hn.trans (.attempt w.network addr), ⟨s, hs, h.settled, h.allows⟩, fun _ _ _ => ?_⟩,
      h.stepsLeft_le⟩
    have hdelay : (w.network.attempt addr).2 = 0 :=
      (hn.attempt_eq addr).trans (Allows.prompt h.settled h.allows).attempt
    refine ⟨w.now, ?_, Nat.le_refl _⟩
    dsimp only
    rw [hdelay, Due.ofDelay_zero]
  · rename_i hopening
    exact ⟨⟨hn, ⟨s, hs, h.settled, h.allows⟩,
      fun addr purpose he => absurd he (hopening addr purpose)⟩, h.stepsLeft_le⟩

theorem follows_carryOn (hn : c.network.Alike w.network) (hs : w.scene? r.router = some s)
    (st : c.Settled w.now s) (part : Scene → Scene × Stage)
    (h : c.Heads r.caller w.now (part s) bound) :
    c.Follows (w.carryOn r part).1 (w.carryOn r part).2 ∧
      c.stepsLeft (w.carryOn r part).2.stage ≤ bound := by
  rw [World.carryOn_eq hs]
  have hid : (part s).1.id = s.id := h.settled.id_eq.trans st.id_eq.symm
  have hb : (part s).1.router.balancer = some (part s).1.id := by
    rw [h.settled.balancer_eq, h.settled.id_eq]
  exact follows_enter (w := w.setScene r.router (part s).1) hn (World.scene?_setScene hs hid hb) h

/-- A part that leads on is played while the network has only its books changed. -/
theorem follows_part {n : Network} {r : Request} (hn : c.network.Alike w.network)
    (halike : w.network.Alike n) (hs : w.scene? r.router = some s) (st : c.Settled w.now s)
    {part : Scene → Scene × Stage} (h : c.Heads r.caller w.now (part s) bound)
    (hlt : bound < c.stepsLeft r.stage) :
    ∃ w' r', some (({ w with network := n } : World).carryOn r part) = some (w', r') ∧
      c.Follows w' r' ∧ c.stepsLeft r'.stage < c.stepsLeft r.stage := by
  obtain ⟨hf, hleft⟩ :=
    follows_carryOn (w := { w with network := n }) (hn.trans halike) hs st part h
  exact ⟨_, _, rfl, hf, Nat.lt_of_le_of_lt hleft hlt⟩

/-- At each stage of its course a request can go on, and has fewer steps left afterwards. -/
theorem Follows.proceed (f : c.Follows w r) (hr : r.result? = none) (pick : Nat) :
    ∃ w' r', w.proceed? r pick = some (w', r') ∧ c.Follows w' r' ∧
      c.stepsLeft r'.stage < c.stepsLeft r.stage := by
  obtain ⟨hn, ⟨s, hs, st, h⟩, hdue⟩ := f
  obtain ⟨name, caller, stage, due⟩ := r
  unfold World.proceed?
  cases stage with
  | awaitingControl round => exact h.elim
  | awaitingTurn purpose => exact h.elim
  | opening addr purpose =>
    obtain ⟨time, rfl, htime⟩ := hdue addr purpose rfl
    have hlt : ¬w.now < time := Nat.not_lt.mpr htime
    have hconnect := hn.connect_eq addr
    cases purpose with
    | seed later => exact h.elim
    | control round later total =>
      have hheads := heads_opened_control st h pick
      rw [← hconnect] at hheads
      simp only [if_neg hlt, World.arrive, if_neg Bool.false_ne_true]
      exact follows_part hn (.connect w.network addr) hs st hheads (Nat.lt_succ_self _)
    | data round lease refused =>
      have hheads := heads_opened_data st h pick
      rw [← hconnect] at hheads
      simp only [if_neg hlt, World.arrive, if_neg Bool.false_ne_true]
      exact follows_part hn (.connect w.network addr) hs st hheads (Nat.lt_succ_self _)
  | querying purpose =>
    have hscene : w.scene? name = some s := hs
    cases purpose with
    | cached round =>
      obtain ⟨conn, hconn⟩ := Option.isSome_iff_exists.mp h.1
      have hheads := heads_answered_cached st h conn pick conn.addr.host
      rw [← hn.query_eq conn] at hheads
      simp only [hscene, Option.bind_some, Scene.refreshConnection?, hconn]
      exact follows_part hn (.query w.network conn) hs st hheads (Nat.lt_succ_self _)
    | fresh round conn =>
      have hrows : (c.network.query conn).2 = .ok c.network.rows := h
      have hheads := heads_answered_fresh st caller round pick conn conn.addr.host
      rw [← hrows, ← hn.query_eq conn] at hheads
      simp only [hscene, Option.bind_some, Scene.refreshConnection?]
      exact follows_part hn (.query w.network conn) hs st hheads (Nat.lt_succ_self _)
    | check round held =>
      obtain ⟨m, hm, -, hconn⟩ := h
      have hserves := st.upToDate.reachable_member hm
      have hheads := heads_answered_check st caller hm round pick
      rw [← hserves.query _ hserves.connect, ← hn.query_eq, ← hconn] at hheads
      have haddr : held.conn.addr.host = m.addr.host := by rw [hconn]
      rw [← haddr] at hheads
      simp only [hscene, Option.bind_some, Scene.refreshConnection?]
      exact follows_part hn (.query w.network held.conn) hs st hheads (Nat.lt_succ_self _)
  | closing conn purpose =>
    cases purpose with
    | stale round =>
      exact follows_part hn (.close w.network conn) hs st (heads_bootstrap st h round)
        (Nat.lt_succ_self _)
    | rejected round lease refused => exact h.elim
    | preempted round lease =>
      exact follows_part hn (.close w.network conn) hs st (heads_closed_preempted st h pick)
        (Nat.lt_succ_self _)
  | finished result => cases hr

/-- The next step, at whatever pace the clock goes. -/
theorem Follows.step (f : c.Follows w r) (hr : r.result? = none) (pick : Nat) :
    ∃ w' r', w.resume? r pick = some (w', r') ∧ c.Follows w' r' ∧
      c.stepsLeft r'.stage < c.stepsLeft r.stage := by
  obtain ⟨hn, ⟨s, hs, st, h⟩, hdue⟩ := f
  have hle : w.now ≤ w.now + w.tick := Nat.le_add_right ..
  have hlater : c.Follows { w with now := w.now + w.tick } r := by
    refine ⟨hn, ⟨s, hs, st.later hle, h.later hle⟩, fun addr purpose he => ?_⟩
    obtain ⟨time, ht, htime⟩ := hdue addr purpose he
    exact ⟨time, ht, Nat.le_trans htime hle⟩
  exact hlater.proceed hr pick

/-- On its course a request ends with a balanced connection. -/
theorem Follows.result_eq (f : c.Follows w r) {result : Except RoutingError RoutedConnection}
    (hr : r.result? = some result) : ∃ conn, result = .ok conn ∧ conn.lease.isSome = true := by
  obtain ⟨-, ⟨s, -, -, h⟩, -⟩ := f
  unfold Request.result? at hr
  split at hr
  · rename_i hstage
    cases hr
    rw [hstage] at h
    cases result with
    | ok conn => exact ⟨conn, rfl, h⟩
    | error e => exact h.elim
  · cases hr

end Course

/-! ## A request to the end -/

/-- A request that is over takes no step. -/
theorem World.resume?_of_result {w : World} {r : Request}
    {result : Except RoutingError RoutedConnection} (h : r.result? = some result) (pick : Nat) :
    w.resume? r pick = none := by
  unfold Request.result? at h
  split at h
  · rename_i hs
    simp only [resume?, proceed?, hs]
  · cases h

namespace Service

/-- A request to a router that takes all its steps before anything else happens; `pick` and `picks`
break the ties. -/
def askEvents (name : String) (pick : Nat) (picks : List Nat) : List ServiceEvent :=
  .request name pick :: picks.map (.resume 0)

/-- The service after such a request. -/
def ask (s : Service) (name : String) (pick : Nat) (picks : List Nat) : Service :=
  (askEvents name pick picks).foldl after s

/-- The result of the request begun last. -/
def lastResult? (s : Service) : Option (Except RoutingError RoutedConnection) :=
  s.requests.head?.bind Request.result?

/-- A request to a router gets a balanced connection, however ties are broken. -/
def Grants (s : Service) (name : String) : Prop :=
  ∃ steps, ∀ (pick : Nat) (picks : List Nat), steps ≤ picks.length →
    ∃ conn, (s.ask name pick picks).lastResult? = some (.ok conn) ∧ conn.lease.isSome = true

variable {c : Course}

/-- A request begins with the first round. -/
theorem after_request {s : Service} {name : String} {scene : Scene}
    (hs : s.world.scene? name = some scene) (pick : Nat) :
    let q : Request := ⟨name, s.callers, .finished (.error (.clusterUnavailable .noSeeds)), none⟩
    let p := s.world.carryOn q (·.beginRound s.callers s.world.now 1 pick)
    s.after (.request name pick) =
      { s with world := p.1, requests := p.2 :: s.requests, callers := s.callers + 1 } := by
  obtain ⟨hr, hid, -⟩ := World.scene?_eq_some hs
  simp [after, step?, hr, World.begin, hid, World.carryOn]

/-- A request that is over stays as it is. -/
theorem after_resume_of_result {s : Service} {r : Request} {rest : List Request}
    (hs : s.requests = r :: rest) {result : Except RoutingError RoutedConnection}
    (h : r.result? = some result) (pick : Nat) : s.after (.resume 0 pick) = s := by
  simp [after, step?, hs, World.resume?_of_result h]

theorem foldl_resume_of_result {s : Service} {r : Request} {rest : List Request}
    (hs : s.requests = r :: rest) {result : Except RoutingError RoutedConnection}
    (h : r.result? = some result) (picks : List Nat) :
    (picks.map (ServiceEvent.resume 0)).foldl after s = s := by
  induction picks with
  | nil => rfl
  | cons pick picks ih =>
    rw [List.map_cons, List.foldl_cons, after_resume_of_result hs h, ih]

/-- A request on its course comes to its end. -/
theorem granted_of_follows (picks : List Nat) :
    ∀ {s : Service} {r : Request} {rest : List Request}, s.requests = r :: rest →
      c.Follows s.world r → c.stepsLeft r.stage ≤ picks.length →
      ∃ conn, ((picks.map (.resume 0)).foldl after s).lastResult? = some (.ok conn) ∧
        conn.lease.isSome = true := by
  induction picks with
  | nil =>
    intro s r rest hs f hleft
    cases hr : r.result? with
    | none =>
      obtain ⟨-, r', -, -, hlt⟩ := f.step hr 0
      exact absurd (Nat.lt_of_lt_of_le hlt hleft) (Nat.not_lt_zero _)
    | some result =>
      obtain ⟨conn, rfl, hlease⟩ := f.result_eq hr
      exact ⟨conn, by simp [lastResult?, hs, hr], hlease⟩
  | cons pick picks ih =>
    intro s r rest hs f hleft
    cases hr : r.result? with
    | none =>
      obtain ⟨w', r', hstep, f', hlt⟩ := f.step hr pick
      have hafter : s.after (.resume 0 pick) = { s with world := w', requests := r' :: rest } := by
        simp [after, step?, hs, hstep]
      rw [List.map_cons, List.foldl_cons, hafter]
      exact ih rfl f' (Nat.le_of_lt_succ (Nat.lt_of_lt_of_le hlt hleft))
    | some result =>
      obtain ⟨conn, rfl, hlease⟩ := f.result_eq hr
      rw [foldl_resume_of_result hs hr]
      exact ⟨conn, by simp [lastResult?, hs, hr], hlease⟩

/-- A request that can end with an error gets no connection, however long it goes on. -/
theorem not_grants_of_error {s : Service} {name : String} {pick : Nat} {picks : List Nat}
    {e : RoutingError} (h : (s.ask name pick picks).lastResult? = some (.error e)) :
    ¬s.Grants name := by
  rintro ⟨steps, hgrants⟩
  obtain ⟨conn, hconn, -⟩ := hgrants pick (picks ++ List.replicate steps 0) (by simp)
  have hmore : s.ask name pick (picks ++ List.replicate steps 0) =
      ((List.replicate steps 0).map (.resume 0)).foldl after (s.ask name pick picks) := by
    simp [ask, askEvents, List.foldl_append]
  obtain ⟨r, hr, hresult⟩ := Option.bind_eq_some_iff.mp h
  obtain ⟨rest, hrest⟩ := List.head?_eq_some_iff.mp hr
  rw [hmore, foldl_resume_of_result hrest hresult, h] at hconn
  cases hconn

/-! ## Recovered clusters -/

/-- A router `r` with balancing enabled that nobody uses, and its balancer `b`, when the cluster is
as the snapshot in force has it, every member of it is reached at once, and whoever is in quarantine
has been there for longer than is asked for. -/
structure Restored (s : Service) (name : String) (r : Router) (id : BalancerId) (b : Balancer) :
    Prop where
  router : s.world.routers[name]? = some r
  enabled : r.balancer = some id
  balancer : s.world.registry.balancer? id = some b
  noRequest : ∀ q ∈ s.requests, q.router ≠ name
  noShutdown : ∀ d ∈ s.shutdowns, d.router ≠ name
  hasSnapshot : b.pool.hasSnapshot = true
  nonempty : b.pool.members ≠ ∅
  listed : b.pool.members = listing s.world.network.members
    (b.pool.family.getD .privateAddress) b.settings.defaultPort
  expired : ∀ at_ ∈ b.pool.quarantine.since.values,
    Quarantine.expired b.settings.failedHostTtl s.world.now at_ = true
  /-- By whichever family of addresses the members may be reached. -/
  served : ∀ family, b.pool.family = none ∨ b.pool.family = some family →
    ∀ m ∈ (listing s.world.network.members family b.settings.defaultPort).values,
      s.world.network.Serves m.addr
  prompt : ∀ addr ∈ r.seeds, s.world.network.Prompt addr

instance (s : Service) (name : String) (r : Router) (id : BalancerId) (b : Balancer) :
    Decidable (s.Restored name r id b) :=
  decidable_of_iff
    (s.world.routers[name]? = some r ∧ r.balancer = some id ∧
      s.world.registry.balancer? id = some b ∧ (∀ q ∈ s.requests, q.router ≠ name) ∧
      (∀ d ∈ s.shutdowns, d.router ≠ name) ∧ b.pool.hasSnapshot = true ∧ b.pool.members ≠ ∅ ∧
      b.pool.members = listing s.world.network.members (b.pool.family.getD .privateAddress)
        b.settings.defaultPort ∧
      (∀ at_ ∈ b.pool.quarantine.since.values,
        Quarantine.expired b.settings.failedHostTtl s.world.now at_ = true) ∧
      (∀ family ∈ [AddressFamily.privateAddress, .publicAddress],
        b.pool.family = none ∨ b.pool.family = some family →
          ∀ m ∈ (listing s.world.network.members family b.settings.defaultPort).values,
            s.world.network.Serves m.addr) ∧
      ∀ addr ∈ r.seeds, s.world.network.Prompt addr)
    ⟨fun ⟨h₁, h₂, h₃, h₄, h₅, h₆, h₇, h₈, h₉, h₁₀, h₁₁⟩ =>
        ⟨h₁, h₂, h₃, h₄, h₅, h₆, h₇, h₈, h₉,
          fun family => h₁₀ family (by cases family <;> simp), h₁₁⟩,
      fun h => ⟨h.router, h.enabled, h.balancer, h.noRequest, h.noShutdown, h.hasSnapshot,
        h.nonempty, h.listed, h.expired, fun family _ => h.served family, h.prompt⟩⟩

variable {s : Service} {name : String} {r : Router} {id : BalancerId} {b : Balancer}

/-- Nobody else queries through a balancer. -/
def NobodyQueries (s : Service) (id : BalancerId) : Prop :=
  ∀ q ∈ s.requests, s.world.balancerOf? q.router = some id → q.stage.atTurn = false

namespace Restored

/-- The way of a request to the router. -/
def course (h : s.Restored name r id b) : Course where
  network := s.world.network
  seeds := r.seeds
  balancer := id
  ranks := b.rankCount
  prompt := h.prompt

theorem settled (h : s.Restored name r id b) (v : s.Valid) :
    h.course.Settled s.world.now ⟨r, id, b, s.world.ledger⟩ where
  id_eq := rfl
  balancer_eq := h.enabled
  seeds_eq := rfl
  upToDate := {
    valid := (v.sound.accounts.balancers id b h.balancer).valid
    hasSnapshot := h.hasSnapshot
    listed := h.listed
    nonempty := h.nonempty
    expired := fun host at_ hat => h.expired at_ (Table.mem_values.mpr ⟨host, hat⟩)
    reachable := fun family hf k m hm => h.served family hf m (Table.mem_values.mpr ⟨k, hm⟩)
    rankCount_eq := rfl }

theorem scene? (h : s.Restored name r id b) :
    s.world.scene? name = some ⟨r, id, b, s.world.ledger⟩ := by
  simp [World.scene?, h.router, h.enabled, h.balancer]

/-- Nobody stands at the turn of a router that nobody uses. -/
theorem turn_eq (h : s.Restored name r id b) (v : s.Valid) : r.turn = {} := by
  refine Turn.eq_of_members_eq_nil (List.eq_nil_iff_forall_not_mem.mpr fun caller =>
    v.sound.absent name r caller h.router fun p hp he => ?_)
  rcases List.mem_append.mp hp with hp | hp
  · obtain ⟨q, hq, rfl⟩ := List.mem_map.mp hp
    exact absurd he (h.noRequest q hq)
  · obtain ⟨d, hd, rfl⟩ := List.mem_map.mp hp
    exact absurd he (h.noShutdown d hd)

/-- A refresh that is due, or a member outside quarantine, is all that a request needs. -/
theorem grants (h : s.Restored name r id b) (v : s.Valid) (k : s.TurnsKnown)
    (hready : (b.needsRefresh s.world.now = true ∧ s.NobodyQueries id) ∨
      ∃ host, b.pool.Available [] host) : s.Grants name := by
  have hbegin : (b.needsRefresh s.world.now = true ∧ b.turn = {} ∧ r.turn = {}) ∨
      ∃ host, b.pool.Available [] host :=
    hready.imp_left fun hd => ⟨hd.1, k.turn_eq h.balancer hd.2, h.turn_eq v⟩
  refine ⟨h.course.roundsLeft 1 + h.course.attempts + 6, fun pick picks hlen => ?_⟩
  obtain ⟨f, hleft⟩ := Course.follows_carryOn (c := h.course)
    (r := ⟨name, s.callers, .finished (.error (.clusterUnavailable .noSeeds)), none⟩)
    (.refl _) h.scene? (h.settled v) (·.beginRound s.callers s.world.now 1 pick)
    (Course.heads_beginRound (h.settled v) hbegin 1 pick)
  rw [ask, askEvents, List.foldl_cons, after_request h.scene?]
  exact granted_of_follows picks rfl f (Nat.le_trans hleft hlen)

/-- While no refresh is due, members in quarantine stay there. -/
theorem refused (h : s.Restored name r id b) (v : s.Valid)
    (hfresh : b.needsRefresh s.world.now = false)
    (hall : ∀ host ∈ b.pool.members, b.pool.isQuarantined host = true) (pick : Nat)
    (picks : List Nat) : (s.ask name pick picks).lastResult? =
      some (.error (.clusterUnavailable .noCandidate)) := by
  have hreserve : b.pool.reserve [] pick = (b.pool, none) := by
    refine Pool.Valid.reserve_of_unavailable (h.settled v).upToDate.valid (fun host hav => ?_) pick
    have hq := hall host hav.1
    rw [hav.2.1] at hq
    cases hq
  have hpart : (Scene.beginRound ⟨r, id, b, s.world.ledger⟩ s.callers s.world.now 1 pick).2 =
      .finished (.error (.clusterUnavailable .noCandidate)) := by
    simp [Scene.beginRound, hfresh, Scene.reserveNext, Balancer.reserve, hreserve]
  have hresult : (s.world.carryOn
      ⟨name, s.callers, .finished (.error (.clusterUnavailable .noSeeds)), none⟩
      (·.beginRound s.callers s.world.now 1 pick)).2.result? =
        some (.error (.clusterUnavailable .noCandidate)) := by
    simp only [World.carryOn, World.play, h.scene?]
    rw [Request.result?, (World.enter_eq _ _ _).2, hpart]
  rw [ask, askEvents, List.foldl_cons, after_request h.scene?, foldl_resume_of_result rfl hresult]
  exact hresult

end Restored

/-- **Recovery.** In every run, once the cluster of a router that nobody uses is as its balancer
knows it and keeps nobody waiting, and nobody in its quarantine has to stay, a request to the router
gets a balanced connection if a refresh is due and nobody queries through the balancer, or if some
member is outside quarantine. If no refresh is due and all members are in quarantine, it is
refused. -/
theorem run_recovers (nodes : List Node) (tick : Duration) (events : List ServiceEvent)
    {name : String} {r : Router} {id : BalancerId} {b : Balancer}
    (h : (run nodes tick events).Restored name r id b) :
    let s := run nodes tick events
    ((b.needsRefresh s.world.now = true ∧ s.NobodyQueries id) ∨
        (∃ host ∈ b.pool.members, b.pool.isQuarantined host = false) → s.Grants name) ∧
      (b.needsRefresh s.world.now = false →
        (∀ host ∈ b.pool.members, b.pool.isQuarantined host = true) →
          ∀ pick picks, (s.ask name pick picks).lastResult? =
            some (.error (.clusterUnavailable .noCandidate))) := by
  intro s
  have v : s.Valid := valid_run nodes tick events
  have k : s.TurnsKnown := turnsKnown_run nodes tick events
  refine ⟨fun hready => h.grants v k (hready.imp_right ?_), h.refused v⟩
  rintro ⟨host, hm, hq⟩
  exact ⟨host, hm, hq, List.not_mem_nil⟩

/-- The only member fails a connect at the start and is back at once. Ten seconds pass, with a
request one second after the failure or without. -/
def failedOnce (early : Bool) : Service :=
  run [{ host := "a" }] 0 <|
    [.create "r" { cluster := { seeds := ["a"] } }, .request "r" 0, .resume 0 0, .resume 0 0,
      .resume 0 0, .deliver 0, .change (.stop "a") rfl, .request "r" 0, .resume 0 0, .deliver 0,
      .change (.start "a") rfl, .advance (.ofSeconds 1)] ++
    (if early then askEvents "r" 0 [0] ++ [.deliver 0] else []) ++ [.advance (.ofSeconds 9)]

/-- The early request finds the member still in quarantine, and uses up the refresh that its failure
had made due. -/
theorem restored_failedOnce (early : Bool) :
    ∃ r b, (failedOnce early).Restored "r" r 0 b ∧
      b.needsRefresh (failedOnce early).world.now = !early ∧
      ∀ host ∈ b.pool.members.keys, b.pool.isQuarantined host = true := by
  have hr : ((failedOnce early).world.routers["r"]?).isSome = true := by
    cases early <;> decide +kernel
  have hb : ((failedOnce early).world.registry.balancer? 0).isSome = true := by
    cases early <;> decide +kernel
  refine ⟨Option.get _ hr, Option.get _ hb, ?_⟩
  cases early <;> decide +kernel +revert

theorem run_recovers_failedOnce :
    (∃ r b, (failedOnce false).Restored "r" r 0 b ∧
        ∀ host ∈ b.pool.members.keys, b.pool.isQuarantined host = true) ∧
      (failedOnce false).Grants "r" := by
  obtain ⟨r, b, h, hdue, hall⟩ := restored_failedOnce false
  have hnobody : (failedOnce false).requests = [] := by decide +kernel
  refine ⟨⟨r, b, h, hall⟩, (run_recovers _ _ _ h).1 (.inl ⟨hdue, fun q hq => ?_⟩)⟩
  rw [← failedOnce, hnobody] at hq
  cases hq

/-- The only member of two routers fails a connect at the start and is back at once. Ten seconds
later the other router queries. -/
def queriedElsewhere : Service :=
  run [{ host := "a" }] 0
    [.create "r" { cluster := { seeds := ["a"] } }, .create "q" { cluster := { seeds := ["a"] } },
      .request "r" 0, .resume 0 0, .resume 0 0, .resume 0 0, .deliver 0, .change (.stop "a") rfl,
      .request "r" 0, .resume 0 0, .deliver 0, .change (.start "a") rfl, .advance (.ofSeconds 10),
      .request "q" 0, .resume 0 0]

theorem restored_queriedElsewhere :
    ∃ r b, queriedElsewhere.Restored "r" r 0 b ∧
      b.needsRefresh queriedElsewhere.world.now = true := by
  have hr : (queriedElsewhere.world.routers["r"]?).isSome = true := by decide +kernel
  have hb : (queriedElsewhere.world.registry.balancer? 0).isSome = true := by decide +kernel
  refine ⟨Option.get _ hr, Option.get _ hb, ?_⟩
  decide +kernel +revert

/-- A router is refused although every stay in quarantine is over: after the early request, since no
refresh is due, and while another router queries, since its answer is not waited for. -/
theorem failedOnce_not_granted :
    ((∃ r b, (failedOnce true).Restored "r" r 0 b) ∧ (failedOnce true).requests = [] ∧
        ¬(failedOnce true).Grants "r") ∧
      (∃ r b, queriedElsewhere.Restored "r" r 0 b ∧
        b.needsRefresh queriedElsewhere.world.now = true) ∧ ¬queriedElsewhere.Grants "r" := by
  obtain ⟨r, b, h, hfresh, hall⟩ := restored_failedOnce true
  refine ⟨⟨⟨r, b, h⟩, by decide +kernel, ?_⟩, restored_queriedElsewhere, ?_⟩
  · have hquarantined : ∀ host ∈ b.pool.members, b.pool.isQuarantined host = true :=
      fun host hm => hall host (by simpa using hm)
    exact not_grants_of_error (h.refused (valid_run ..) hfresh hquarantined 0 [])
  · have hresult : (queriedElsewhere.ask "r" 0 []).lastResult? =
        some (.error (.clusterUnavailable .noCandidate)) := by decide +kernel
    exact not_grants_of_error hresult

end Service

end ConnectionRouter
