import ConnectionRouter.Proofs.Balancer.Validity
import ConnectionRouter.Proofs.Pool.Eligibility
import ConnectionRouter.Proofs.Router.Hands

/-!
# The journey of a request

A request has the scene to itself only during its parts. While it waits, others may change whatever
they can, and what ends the wait may be anything of its kind: a connect succeeds or fails, a query
is answered with anything. A journey (`Journey`) is the list of the strides that a request makes in
such surroundings. Each stride tells what ended the wait, the scene that the request found and the
scene that it left.

What others can do to a scene is said by `Scene.Later`: they keep the seeds, the preference and the
settings, and change the pool by events of a pool. A request does no more itself
(`Stride.Plays.later`).

What a stride can do is said once (`Sequel`). First the request deals with what it has heard
(`Scene.hear`): a host that refused or was rejected is failed, a lease is given back, an answer is
applied. Then it goes on to its next wait; what it reserves comes last.
-/

namespace ConnectionRouter

/-! ## Waits -/

deriving instance DecidableEq for Stage

/-- What ends a wait of a request. -/
inductive Arrival
  /-- The turn that it waited for. -/
  | turn
  /-- An opening is over, with an error or with a connection. -/
  | opened (failure : Option RoutingError)
  /-- A query was answered by the host `control`. -/
  | answered (control : String) (answer : Except RoutingError (List Row))
  /-- A connection was closed, whether without an error or with one. -/
  | closed

/-- What dialing an address comes to. -/
def HostAddr.dial (addr : HostAddr) : Option RoutingError → Except RoutingError Connection
  | none => .ok { addr }
  | some e => .error e

/-- A stage and what ended the wait there; nothing before a request begins. -/
abbrev Wait : Type := Option (Stage × Arrival)

/-- The next part of a request, if what ends its wait is of the kind that it waits for. -/
def Scene.proceed? (s : Scene) (caller : Caller) (now : Instant) (pick : Nat) :
    Stage → Arrival → Option (Scene × Stage)
  | .awaitingControl round, .turn => some (s.controlGranted caller now round pick)
  | .awaitingTurn purpose, .turn => some (s.turnGranted caller now pick purpose)
  | .opening addr purpose, .opened failure =>
    some (s.opened caller now pick purpose (addr.dial failure))
  | .querying purpose, .answered control answer =>
    some (s.answered caller now pick purpose control answer)
  | .closing _ purpose, .closed => some (s.closed caller now pick purpose)
  | _, _ => none

/-! ## Rounds -/

namespace RefreshPurpose

def round : RefreshPurpose → Nat
  | cached round | fresh round _ | check round _ => round

/-- The hosts dialed in this round, latest first. -/
def dialed : RefreshPurpose → List HostKey
  | cached _ | fresh .. => []
  | check _ held => held.lease.host :: held.refused

end RefreshPurpose

namespace Stage

/-- The round to which a stage belongs; 0 without balancing, and when the request is over. -/
def round : Stage → Nat
  | awaitingControl round => round
  | awaitingTurn purpose | querying purpose => purpose.round
  | opening _ (.control round ..) | opening _ (.data round ..) => round
  | opening _ (.seed _) => 0
  | closing _ (.stale round) | closing _ (.rejected round ..) | closing _ (.preempted round _) =>
    round
  | finished _ => 0

/-- The hosts dialed in the round of a stage, latest first, for as long as the round looks for a
host. -/
def dialed : Stage → List HostKey
  | opening _ (.data _ lease refused) => lease.host :: refused
  | awaitingTurn purpose | querying purpose => purpose.dialed
  | closing _ (.rejected _ lease refused) => lease.host :: refused
  | _ => []

end Stage

namespace Wait

/-- The round in which a request goes on. -/
def round : Wait → Nat
  | none => 1
  | some (.closing _ (.preempted round _), _) => round + 1
  | some (stage, _) => stage.round

/-- The hosts that have failed in the round in which a request goes on, latest first. -/
def refused : Wait → List HostKey
  | none => []
  | some (stage, _) => stage.dialed

/-- A round begins. -/
inductive Begins : Wait → Prop
  | call : Begins none
  | preempted (conn : Connection) (round : Nat) (lease : Lease) :
    Begins (some (.closing conn (.preempted round lease), .closed))

/-- There is no control connection that answers, and none has been looked for in this round. -/
inductive Early : Wait → Prop
  | begins {w : Wait} : Begins w → Early w
  | granted (round : Nat) : Early (some (.awaitingControl round, .turn))
  | unanswered (round : Nat) (control : String) (e : RoutingError) :
    Early (some (.querying (.cached round), .answered control (.error e)))
  | stale (conn : Connection) (round : Nat) : Early (some (.closing conn (.stale round), .closed))

/-- A refresh starts. -/
inductive Asks : Wait → RefreshPurpose → Prop
  | begins {w : Wait} : Begins w → Asks w (.cached w.round)
  | granted (round : Nat) : Asks (some (.awaitingControl round, .turn)) (.cached round)
  | fresh (addr : HostAddr) (round : Nat) (later : List HostAddr) (total : Nat) :
    Asks (some (.opening addr (.control round later total), .opened none))
      (.fresh round { addr })
  | check (addr : HostAddr) (round : Nat) (lease : Lease) (refused : List HostKey) :
    Asks (some (.opening addr (.data round lease refused), .opened none))
      (.check round ⟨lease, { addr }, refused⟩)

/-- A refresh is over; `ok` tells that no query failed. -/
inductive Refreshed : Wait → RefreshPurpose → Bool → Prop
  /-- No query was needed. -/
  | skipped {w : Wait} {purpose : RefreshPurpose} : Asks w purpose → Refreshed w purpose true
  /-- Another refresh came first. -/
  | spared (purpose : RefreshPurpose) : Refreshed (some (.awaitingTurn purpose, .turn)) purpose true
  | answered (purpose : RefreshPurpose) (control : String)
    (answer : Except RoutingError (List Row)) :
    Refreshed (some (.querying purpose, .answered control answer)) purpose answer.isOk

/-- A host has failed the request: its connect did not succeed, or it was rejected. -/
inductive Fails : Wait → HostKey → Prop
  | refused (addr : HostAddr) (round : Nat) (lease : Lease) (refused : List HostKey)
    (e : RoutingError) :
    Fails (some (.opening addr (.data round lease refused), .opened (some e))) lease.host
  | rejected (conn : Connection) (round : Nat) (lease : Lease) (refused : List HostKey) :
    Fails (some (.closing conn (.rejected round lease refused), .closed)) lease.host

/-- A request goes on to reserve a host. -/
inductive Looks : Wait → Prop
  | begins {w : Wait} : Begins w → Looks w
  | refreshed {w : Wait} {purpose : RefreshPurpose} : Refreshed w purpose true →
    purpose.dialed = [] → Looks w
  | fails {w : Wait} {host : HostKey} : Fails w host → Looks w

end Wait

/-! ## What is left alone -/

namespace Scene

/-- What nobody changes. -/
structure Stays (s m : Scene) : Prop where
  id_eq : m.id = s.id
  seeds_eq : m.router.seeds = s.router.seeds
  preference_eq : m.balancer.preference = s.balancer.preference
  settings_eq : m.balancer.settings = s.balancer.settings

/-- What others can make of a scene while a request waits. -/
structure Later (s m : Scene) : Prop extends Stays s m where
  evolves : ∃ events : List PoolEvent,
    m.balancer.pool = events.foldl (Pool.after s.balancer.rules) s.balancer.pool

/-- Scenes that differ in turns, counted things, and the control connection. A new control
connection is one that the request has opened. -/
structure Alike (w : Wait) (s m : Scene) : Prop extends Stays s m where
  pool_eq : m.balancer.pool = s.balancer.pool
  control : ∀ conn, m.router.control = some conn → s.router.control = some conn ∨
    ∃ round ok, w.Refreshed (.fresh round conn) ok

/-- What a request makes of the end of a wait before it goes on. -/
def hear (s : Scene) (caller : Caller) (now : Instant) : Wait → Scene
  | some (.opening _ (.data _ lease _), .opened (some _)) =>
    (s.count (.connectAttempt .failed)).failHost lease now
  | some (.closing _ (.rejected _ lease _), .closed) => s.failHost lease now
  | some (.closing _ (.preempted _ lease), .closed) => s.release lease
  | some (.querying _, .answered control answer) =>
    let (balancer, _, metric) := s.balancer.finishRefresh caller now control answer
    { s with balancer := balancer, ledger := s.ledger.note metric }
  | _ => s

end Scene

/-! ## Strides -/

/-- One part of a request: the wait before it, what the request found and left, and the stage to
which the part led. -/
structure Stride where
  wait : Wait
  found : Scene
  now : Instant
  pick : Nat
  left : Scene
  stage : Stage

/-- A request begins with its first round, and goes on as it stands. -/
def Stride.Plays (caller : Caller) (t : Stride) : Prop :=
  match t.wait with
  | none => t.found.beginRound caller t.now 1 t.pick = (t.left, t.stage)
  | some (stage, arrival) =>
    t.found.proceed? caller t.now t.pick stage arrival = some (t.left, t.stage)

/-- What a stride can lead to once the request has dealt with what it heard; `s` is the scene
then. -/
inductive Sequel (w : Wait) (s : Scene) : Scene × Stage → Prop
  | awaitsControl {m : Scene} (begins : w.Begins) (alike : s.Alike w m) :
    Sequel w s (m, .awaitingControl w.round)
  | awaitsTurn {m : Scene} {purpose : RefreshPurpose} (asks : w.Asks purpose) (alike : s.Alike w m)
    (conn : (m.refreshConnection? purpose).isSome = true) : Sequel w s (m, .awaitingTurn purpose)
  | queries {m : Scene} {purpose : RefreshPurpose} (asks : w.Asks purpose) (alike : s.Alike w m)
    (conn : (m.refreshConnection? purpose).isSome = true) : Sequel w s (m, .querying purpose)
  | resumes {m : Scene} {purpose : RefreshPurpose} (wait : w = some (.awaitingTurn purpose, .turn))
    (alike : s.Alike w m) (router_eq : m.router = s.router) : Sequel w s (m, .querying purpose)
  | stale {m : Scene} {round : Nat} {control : String} {e : RoutingError} {conn : Connection}
    (wait : w = some (.querying (.cached round), .answered control (.error e)))
    (alike : s.Alike w m) : Sequel w s (m, .closing conn (.stale round))
  | bootstraps {m : Scene} {addr : HostAddr} {later : List HostAddr} (early : w.Early)
    (alike : s.Alike w m)
    (candidates : m.balancer.bootstrapCandidates m.router.seeds = addr :: later) :
    Sequel w s (m, .opening addr (.control w.round later (later.length + 1)))
  | triesNext {addr next : HostAddr} {round total : Nat} {later : List HostAddr} {e : RoutingError}
    (wait : w = some (.opening addr (.control round (next :: later) total), .opened (some e))) :
    Sequel w s (s, .opening next (.control round later total))
  | nobodyToAsk {m : Scene} (early : w.Early) (alike : s.Alike w m)
    (candidates : m.balancer.bootstrapCandidates m.router.seeds = []) :
    Sequel w s (m, .finished (.error (.clusterUnavailable (.noControlHost 0))))
  | nobodyAnswers {m : Scene} {addr : HostAddr} {round total : Nat} {e : RoutingError}
    (wait : w = some (.opening addr (.control round [] total), .opened (some e)))
    (alike : s.Alike w m) :
    Sequel w s (m, .finished (.error (.clusterUnavailable (.noControlHost total))))
  | reserves {m m' : Scene} {host : HostKey} {addr : HostAddr}
    (looks : w.Looks) (alike : s.Alike w m)
    (snapshot : w.refused = [] →
      m.balancer.pool.lastRefresh.isSome = true ∨ m.balancer.pool.hasSnapshot = true)
    (chosen : (host, addr) ∈ m.balancer.pool.select w.refused)
    (stays : m.Stays m') (router_eq : m'.router = m.router)
    (pool_eq : m'.balancer.pool = (m.balancer.pool.adjust host 1).1) :
    Sequel w s (m', .opening addr (.data w.round ⟨m.id, host⟩ w.refused))
  | noCandidate {m : Scene} (looks : w.Looks) (alike : s.Alike w m)
    (snapshot : w.refused = [] →
      m.balancer.pool.lastRefresh.isSome = true ∨ m.balancer.pool.hasSnapshot = true)
    (nobody : m.balancer.pool.select w.refused = []) :
    Sequel w s (m, .finished (.error (.clusterUnavailable .noCandidate)))
  | rejects {m : Scene} {round : Nat} {held : Held} (ended : w.Refreshed (.check round held) true)
    (alike : s.Alike w m) (selectable : m.balancer.pool.isSelectable held.lease.host = false) :
    Sequel w s (m, .closing held.conn (.rejected round held.lease held.refused))
  | preempts {m : Scene} {round : Nat} {held : Held} {ok : Bool}
    (ended : w.Refreshed (.check round held) ok) (alike : s.Alike w m)
    (selectable : ok = true → m.balancer.pool.isSelectable held.lease.host = true)
    (roundsLeft : round < m.balancer.rankCount)
    (preferred : m.balancer.hasMorePreferred held.lease.host = true) :
    Sequel w s (m, .closing held.conn (.preempted round held.lease))
  | handsOut {m : Scene} {round : Nat} {held : Held} {ok : Bool}
    (ended : w.Refreshed (.check round held) ok) (alike : s.Alike w m)
    (selectable : ok = true → m.balancer.pool.isSelectable held.lease.host = true)
    (best : round < m.balancer.rankCount →
      m.balancer.hasMorePreferred held.lease.host = false) :
    Sequel w s (m, .finished (.ok ⟨held.conn, some held.lease⟩))
  | fallsBack {m : Scene} {round : Nat} {conn : Connection} {control : String} {e : RoutingError}
    (wait : w = some (.querying (.fresh round conn), .answered control (.error e)))
    (alike : s.Alike w m) :
    Sequel w s (m, trySeeds (.clusterUnavailable .noSeeds) m.router.seeds)
  | triesSeed {addr : HostAddr} {later : List HostAddr} {failure : Option RoutingError}
    (wait : w = some (.opening addr (.seed later), .opened failure)) :
    Sequel w s (s, seedOpened later (addr.dial failure))

/-! ## What a part leaves alone -/

namespace Scene

variable {w : Wait} {s m m' : Scene} {caller : Caller} {now : Instant}

namespace Stays

theorem refl (s : Scene) : s.Stays s := ⟨rfl, rfl, rfl, rfl⟩

theorem trans (h : s.Stays m) (h' : m.Stays m') : s.Stays m' :=
  ⟨h'.id_eq.trans h.id_eq, h'.seeds_eq.trans h.seeds_eq, h'.preference_eq.trans h.preference_eq,
    h'.settings_eq.trans h.settings_eq⟩

theorem rules_eq (h : s.Stays m) : m.balancer.rules = s.balancer.rules := by
  rw [Balancer.rules, Balancer.rules, h.preference_eq, h.settings_eq]

theorem rankCount_eq (h : s.Stays m) : m.balancer.rankCount = s.balancer.rankCount := by
  rw [Balancer.rankCount, Balancer.rankCount, h.preference_eq]

end Stays

namespace Later

theorem refl (s : Scene) : s.Later s := ⟨.refl s, [], rfl⟩

theorem trans (h : s.Later m) (h' : m.Later m') : s.Later m' := by
  obtain ⟨hs, events, he⟩ := h
  obtain ⟨hs', events', he'⟩ := h'
  refine ⟨hs.trans hs', events ++ events', ?_⟩
  rw [List.foldl_append, ← he, he', hs.rules_eq]

theorem of_pool_eq (h : s.Stays m) (hp : m.balancer.pool = s.balancer.pool) : s.Later m :=
  ⟨h, [], hp⟩

theorem of_event (h : s.Stays m) (e : PoolEvent)
    (hp : m.balancer.pool = s.balancer.pool.after s.balancer.rules e) : s.Later m :=
  ⟨h, [e], hp⟩

/-- Whatever others do, the pool stays valid. -/
theorem valid (h : s.Later m) (v : s.balancer.Valid) : m.balancer.Valid := by
  obtain ⟨events, he⟩ := h.evolves
  have hv : m.balancer.pool.Valid s.balancer.rules.defaultPort := by
    rw [he]
    exact Pool.Valid.foldl_after events v
  rwa [Balancer.Valid, h.settings_eq]

theorem count (s : Scene) (metric : Metric) : s.Later (s.count metric) :=
  .of_pool_eq ⟨rfl, rfl, rfl, rfl⟩ rfl

theorem release (s : Scene) (lease : Lease) : s.Later (s.release lease) :=
  .of_event ⟨rfl, rfl, rfl, rfl⟩ (.adjust lease.host (-1)) rfl

theorem failHost (s : Scene) (lease : Lease) (now : Instant) : s.Later (s.failHost lease now) :=
  ⟨⟨rfl, rfl, rfl, rfl⟩,
    [.adjust lease.host (-1), .markFailed lease.host now, .forceRefresh], rfl⟩

theorem finishRefresh (s : Scene) (caller : Caller) (now : Instant) (control : String)
    (answer : Except RoutingError (List Row)) (ledger : Ledger) :
    s.Later { s with
      balancer := (s.balancer.finishRefresh caller now control answer).1
      ledger := ledger } := by
  obtain ⟨turn, he | ⟨snapshot, he⟩⟩ := s.balancer.finishRefresh_eq caller now control answer
  · rw [he]
    exact .of_pool_eq ⟨rfl, rfl, rfl, rfl⟩ rfl
  · rw [he]
    exact .of_event ⟨rfl, rfl, rfl, rfl⟩ (.snapshot snapshot now) rfl

theorem hear (s : Scene) (caller : Caller) (now : Instant) (w : Wait) :
    s.Later (s.hear caller now w) := by
  unfold Scene.hear
  split
  · exact (count s _).trans (failHost _ _ now)
  · exact failHost s _ now
  · exact release s _
  · exact finishRefresh s caller now _ _ _
  · exact refl s

end Later

namespace Alike

theorem refl (w : Wait) (s : Scene) : s.Alike w s := ⟨.refl s, rfl, fun _ h => .inl h⟩

/-- Turns and counted things do not matter. -/
theorem withTurns (h : s.Alike w m) (turn turn' : Turn) (ledger : Ledger) :
    s.Alike w { m with
      router := { m.router with turn := turn }
      balancer := { m.balancer with turn := turn' }
      ledger := ledger } :=
  ⟨⟨h.id_eq, h.seeds_eq, h.preference_eq, h.settings_eq⟩, h.pool_eq, h.control⟩

theorem withControl (h : s.Alike w m) {control : Option Connection} (hc : ∀ conn,
    control = some conn → ∃ round ok, w.Refreshed (.fresh round conn) ok) :
    s.Alike w { m with router := { m.router with control := control } } :=
  ⟨⟨h.id_eq, h.seeds_eq, h.preference_eq, h.settings_eq⟩, h.pool_eq,
    fun conn hconn => .inr (hc conn hconn)⟩

end Alike

end Scene

/-! ## Every part, once -/

namespace Wait

variable {w : Wait} {purpose : RefreshPurpose} {ok : Bool}

theorem Asks.round_eq (h : w.Asks purpose) : w.round = purpose.round := by
  cases h <;> rfl

theorem Refreshed.round_eq (h : w.Refreshed purpose ok) : w.round = purpose.round := by
  cases h with
  | skipped h => exact h.round_eq
  | spared => rfl
  | answered => rfl

theorem Begins.refused_eq (h : w.Begins) : w.refused = [] := by
  cases h <;> rfl

theorem Begins.balanced (h : w.Begins) {stage : Stage} {arrival : Arrival}
    (hw : w = some (stage, arrival)) : stage.balanced = true := by
  cases h with
  | call => cases hw
  | preempted => cases hw; rfl

theorem Early.balanced (h : w.Early) {stage : Stage} {arrival : Arrival}
    (hw : w = some (stage, arrival)) : stage.balanced = true := by
  cases h with
  | begins h => exact h.balanced hw
  | _ => cases hw; rfl

theorem Asks.balanced (h : w.Asks purpose) {stage : Stage} {arrival : Arrival}
    (hw : w = some (stage, arrival)) : stage.balanced = true := by
  cases h with
  | begins h => exact h.balanced hw
  | _ => cases hw; rfl

theorem Refreshed.balanced (h : w.Refreshed purpose ok) {stage : Stage} {arrival : Arrival}
    (hw : w = some (stage, arrival)) : stage.balanced = true := by
  cases h with
  | skipped h => exact h.balanced hw
  | _ => cases hw; rfl

theorem Fails.balanced {host : HostKey} (h : w.Fails host) {stage : Stage} {arrival : Arrival}
    (hw : w = some (stage, arrival)) : stage.balanced = true := by
  cases h <;> cases hw <;> rfl

theorem Looks.balanced (h : w.Looks) {stage : Stage} {arrival : Arrival}
    (hw : w = some (stage, arrival)) : stage.balanced = true := by
  cases h with
  | begins h => exact h.balanced hw
  | refreshed h => exact h.balanced hw
  | fails h => exact h.balanced hw

/-- A round that refreshes before it has reserved has no failures yet. -/
theorem Asks.refused_eq (h : w.Asks purpose) (hp : purpose.dialed = []) : w.refused = [] := by
  cases h with
  | begins h => exact h.refused_eq
  | granted => rfl
  | fresh => rfl
  | check => cases hp

theorem Refreshed.refused_eq (h : w.Refreshed purpose ok) (hp : purpose.dialed = []) :
    w.refused = [] := by
  cases h with
  | skipped h => exact h.refused_eq hp
  | spared => exact hp
  | answered => exact hp

/-- Only the answer of a query can be that it failed. -/
theorem Refreshed.eq_of_false (h : w.Refreshed purpose false) :
    ∃ control e, w = some (.querying purpose, .answered control (.error e)) := by
  generalize hok : false = ok at h
  cases h with
  | skipped => cases hok
  | spared => cases hok
  | answered _ control answer =>
    cases answer with
    | ok rows => cases hok
    | error e => exact ⟨control, e, rfl⟩

end Wait

theorem Balancer.isSome_lastRefresh {b : Balancer} {now : Instant}
    (h : b.needsRefresh now = false) : b.pool.lastRefresh.isSome = true := by
  unfold Balancer.needsRefresh at h
  cases hl : b.pool.lastRefresh with
  | none => simp [hl] at h
  | some at_ => rfl

namespace Scene

variable (s : Scene)

/-- A search reserves a host or is over. -/
theorem reserveNext_cases (round : Nat) (refused : List HostKey) (pick : Nat) :
    (s.balancer.pool.select refused = [] ∧ s.reserveNext round refused pick =
      (s, .finished (.error (.clusterUnavailable .noCandidate)))) ∨
    ∃ (host : HostKey) (addr : HostAddr) (m : Scene),
      (host, addr) ∈ s.balancer.pool.select refused ∧ s.Stays m ∧ m.router = s.router ∧
      m.balancer.turn = s.balancer.turn ∧
      m.balancer.pool = (s.balancer.pool.adjust host 1).1 ∧
      s.reserveNext round refused pick = (m, .opening addr (.data round ⟨s.id, host⟩ refused)) := by
  unfold reserveNext Balancer.reserve
  by_cases hn : s.balancer.pool.select refused = []
  · have hr : s.balancer.pool.reserve refused pick = (s.balancer.pool, none) := by
      simp [Pool.reserve, hn]
    rw [hr]
    exact .inl ⟨hn, rfl⟩
  · obtain ⟨host, addr, hmem, hr⟩ := Pool.reserve_of_select hn pick
    rw [hr]
    refine .inr ⟨host, addr, _, hmem, ?_, ?_, ?_, ?_, rfl⟩
    · exact ⟨rfl, rfl, rfl, rfl⟩
    all_goals rfl

theorem refreshed_check {held : Held} (h : s.balancer.pool.isSelectable held.lease.host = true)
    (caller : Caller) (pick : Nat) (ok : Bool) (round : Nat) :
    s.refreshed caller pick ok (.check round held) = s.keep round held := by
  simp [refreshed, h]

end Scene

namespace Sequel

open Scene

variable {w : Wait} {s m : Scene} {caller : Caller} {now : Instant} {round : Nat}
  {purpose : RefreshPurpose}

theorem of_reserveNext (looks : w.Looks) (alike : s.Alike w m)
    (snapshot : w.refused = [] →
      m.balancer.pool.lastRefresh.isSome = true ∨ m.balancer.pool.hasSnapshot = true)
    (pick : Nat) : Sequel w s (m.reserveNext w.round w.refused pick) := by
  rcases m.reserveNext_cases w.round w.refused pick with
    ⟨hn, he⟩ | ⟨host, addr, m', hmem, hstays, hrouter, -, hpool, he⟩ <;> rw [he]
  · exact .noCandidate looks alike snapshot hn
  · exact .reserves looks alike snapshot hmem hstays hrouter hpool

theorem of_bootstrap (early : w.Early) (alike : s.Alike w m) :
    Sequel w s (m.bootstrap caller w.round) := by
  unfold bootstrap
  dsimp only
  cases hc : m.balancer.bootstrapCandidates m.router.seeds with
  | nil => exact .nobodyToAsk early (alike.withTurns _ m.balancer.turn m.ledger) hc
  | cons addr later => exact .bootstraps early alike hc

theorem of_keep {held : Held} {ok : Bool} (ended : w.Refreshed (.check round held) ok)
    (alike : s.Alike w m)
    (selectable : ok = true → m.balancer.pool.isSelectable held.lease.host = true) :
    Sequel w s (m.keep round held) := by
  have hcount : s.Alike w (m.count (.connectAttempt .ok)) :=
    alike.withTurns m.router.turn m.balancer.turn _
  unfold keep
  dsimp only
  split
  · rename_i h
    simp only [Bool.and_eq_true, decide_eq_true_iff] at h
    exact .preempts ended (hcount.withTurns m.router.turn m.balancer.turn _) selectable h.1 h.2
  · rename_i h
    refine .handsOut ended hcount selectable fun hlt => ?_
    simpa [hlt] using h

theorem of_refreshed {ok : Bool} (ended : w.Refreshed purpose ok) (alike : s.Alike w m)
    (snapshot : ok = true →
      m.balancer.pool.lastRefresh.isSome = true ∨ m.balancer.pool.hasSnapshot = true)
    (pick : Nat) : Sequel w s (m.refreshed caller pick ok purpose) := by
  have hround := ended.round_eq
  cases purpose with
  | cached round =>
    cases ok with
    | true =>
      have hleave : s.Alike w (m.leaveControl caller) :=
        alike.withTurns _ m.balancer.turn m.ledger
      have hres := of_reserveNext (.refreshed ended rfl) hleave (fun _ => snapshot rfl) pick
      rw [ended.refused_eq rfl, hround] at hres
      exact hres
    | false =>
      obtain ⟨control, e, hw⟩ := ended.eq_of_false
      rw [refreshed, if_neg (by simp)]
      cases hc : m.router.control with
      | some conn => exact .stale hw (alike.withControl fun _ h => by cases h)
      | none =>
        subst hw
        exact of_bootstrap (.unanswered round control e) alike
  | fresh round conn =>
    have hput : s.Alike w
        ({ m with router := { m.router with control := some conn } }.leaveControl caller) := by
      refine Alike.withTurns (m := { m with router := { m.router with control := some conn } })
        (alike.withControl ?_) _ m.balancer.turn m.ledger
      rintro _ ⟨rfl⟩
      exact ⟨round, ok, ended⟩
    cases ok with
    | true =>
      have hres := of_reserveNext (.refreshed ended rfl) hput (fun _ => snapshot rfl) pick
      rw [ended.refused_eq rfl, hround] at hres
      exact hres
    | false =>
      obtain ⟨control, e, hw⟩ := ended.eq_of_false
      exact .fallsBack hw (hput.withTurns _ m.balancer.turn _)
  | check round held =>
    rw [refreshed]
    split
    · rename_i h
      simp only [Bool.and_eq_true, Bool.not_eq_true'] at h
      obtain ⟨rfl, hs⟩ := h
      exact .rejects ended (alike.withTurns m.router.turn m.balancer.turn _) hs
    · rename_i h
      refine of_keep ended alike fun hok => ?_
      simpa [hok] using h

theorem of_startRefresh (asks : w.Asks purpose) (alike : s.Alike w m)
    (conn : (m.refreshConnection? purpose).isSome = true) (pick : Nat) :
    Sequel w s (m.startRefresh caller now pick purpose) := by
  have hconn : ∀ (balancer : Balancer) (ledger : Ledger),
      ({ m with balancer := balancer, ledger := ledger }.refreshConnection? purpose).isSome =
        true := by
    intro balancer ledger
    cases purpose <;> exact conn
  unfold startRefresh
  rcases m.balancer.startRefresh_cases caller now with
    ⟨turn, -, -, he⟩ | ⟨-, -, -, he⟩ | ⟨hd, he⟩ <;> rw [he]
  · exact .queries asks (alike.withTurns m.router.turn turn _) (hconn ..)
  · exact .awaitsTurn asks (alike.withTurns m.router.turn _ _) (hconn ..)
  · refine of_refreshed (.skipped asks) (alike.withTurns m.router.turn m.balancer.turn _)
      (fun _ => ?_) pick
    -- a refresh is skipped because it is not due, or for the snapshot in force
    cases hdue : m.balancer.needsRefresh now with
    | false => exact .inl (Balancer.isSome_lastRefresh hdue)
    | true =>
      cases hs : m.balancer.pool.hasSnapshot with
      | true => exact .inr rfl
      | false =>
        have hq := congrArg (fun r => r.2.1) he
        simp [Balancer.startRefresh, hdue, hd hdue, hs] at hq

theorem of_controlGranted (early : w.Early) (asks : w.Asks (.cached w.round))
    (alike : s.Alike w m) (pick : Nat) :
    Sequel w s (m.controlGranted caller now w.round pick) := by
  unfold controlGranted
  cases hc : m.router.control with
  | some conn => exact of_startRefresh asks alike (by simp [refreshConnection?, hc]) pick
  | none => exact of_bootstrap early alike

theorem of_beginRound (begins : w.Begins) (alike : s.Alike w m) (pick : Nat) :
    Sequel w s (m.beginRound caller now w.round pick) := by
  have hreserve : m.balancer.pool.lastRefresh.isSome = true ∨
      m.balancer.pool.hasSnapshot = true → Sequel w s (m.reserveNext w.round [] pick) := by
    intro hsnap
    have hres := of_reserveNext (.begins begins) alike (fun _ => hsnap) pick
    rwa [begins.refused_eq] at hres
  unfold beginRound
  split
  · cases ht : m.router.turn.take? caller with
    | some turn =>
      exact of_controlGranted (.begins begins) (.begins begins)
        (alike.withTurns turn m.balancer.turn m.ledger) pick
    | none =>
      dsimp only
      split
      · rename_i hs
        exact hreserve (.inr hs)
      · exact .awaitsControl begins (alike.withTurns _ m.balancer.turn m.ledger)
  · rename_i hdue
    exact hreserve (.inl (Balancer.isSome_lastRefresh (by simpa using hdue)))

theorem of_turnGranted (pick : Nat) :
    Sequel (some (.awaitingTurn purpose, .turn)) s (s.turnGranted caller now pick purpose) := by
  unfold turnGranted
  have hq := s.balancer.resumeRefresh_cases caller now
  cases hd : s.balancer.needsRefresh now with
  | true =>
    have he : s.balancer.resumeRefresh caller now = (s.balancer, .querying) := by
      simp [Balancer.resumeRefresh, hd]
    rw [he]
    exact .resumes rfl (.refl _ s) rfl
  | false =>
    have he : s.balancer.resumeRefresh caller now =
        ({ s.balancer with turn := s.balancer.turn.leave caller }, .done true) := by
      simp [Balancer.resumeRefresh, hd]
    have hleave : s.Alike (some (.awaitingTurn purpose, .turn))
        { s with balancer := { s.balancer with turn := s.balancer.turn.leave caller } } :=
      Alike.withTurns (.refl _ s) s.router.turn _ s.ledger
    rw [he]
    exact of_refreshed (.spared purpose) hleave
      (fun _ => .inl (Balancer.isSome_lastRefresh hd)) pick

theorem of_answered (control : String) (answer : Except RoutingError (List Row)) (pick : Nat) :
    Sequel (some (.querying purpose, .answered control answer))
      (s.hear caller now (some (.querying purpose, .answered control answer)))
      (s.answered caller now pick purpose control answer) := by
  unfold answered
  have hok : (s.balancer.finishRefresh caller now control answer).2.1 = answer.isOk := by
    cases answer with
    | ok rows => rfl
    | error e => cases e <;> rfl
  dsimp only
  rw [hok]
  refine of_refreshed (.answered purpose control answer) (.refl _ _) (fun hans => .inl ?_) pick
  cases answer with
  | ok rows => rfl
  | error e => cases hans

theorem of_opened (addr : HostAddr) (purpose : OpenPurpose) (failure : Option RoutingError)
    (pick : Nat) :
    Sequel (some (.opening addr purpose, .opened failure))
      (s.hear caller now (some (.opening addr purpose, .opened failure)))
      (s.opened caller now pick purpose (addr.dial failure)) := by
  cases purpose with
  | control round later total =>
    cases failure with
    | none => exact of_startRefresh (.fresh addr round later total) (.refl _ s) rfl pick
    | some e =>
      cases later with
      | nil => exact .nobodyAnswers rfl (Alike.withTurns (.refl _ s) _ s.balancer.turn s.ledger)
      | cons next later => exact .triesNext rfl
  | data round lease refused =>
    cases failure with
    | none => exact of_startRefresh (.check addr round lease refused) (.refl _ s) rfl pick
    | some e =>
      exact of_reserveNext (.fails (.refused addr round lease refused e)) (.refl _ _)
        (fun h => by cases h) pick
  | seed later => exact .triesSeed rfl

theorem of_closed (conn : Connection) (purpose : ClosePurpose) (pick : Nat) :
    Sequel (some (.closing conn purpose, .closed))
      (s.hear caller now (some (.closing conn purpose, .closed)))
      (s.closed caller now pick purpose) := by
  cases purpose with
  | stale round => exact of_bootstrap (.stale conn round) (.refl _ s)
  | rejected round lease refused =>
    exact of_reserveNext (.fails (.rejected conn round lease refused)) (.refl _ _)
      (fun h => by cases h) pick
  | preempted round lease => exact of_beginRound (.preempted conn round lease) (.refl _ _) pick

/-- A stride that leads to the opening of a data connection has just reserved its host. -/
structure Reserves (w : Wait) (s m : Scene) (addr : HostAddr) (lease : Lease) : Prop where
  looks : w.Looks
  id_eq : lease.balancer = s.id
  snapshot : w.refused = [] →
    s.balancer.pool.lastRefresh.isSome = true ∨ s.balancer.pool.hasSnapshot = true
  chosen : (lease.host, addr) ∈ s.balancer.pool.select w.refused
  pool_eq : m.balancer.pool = (s.balancer.pool.adjust lease.host 1).1

theorem Reserves.mem_members {addr : HostAddr} {lease : Lease} (h : Reserves w s m addr lease) :
    lease.host ∈ m.balancer.pool.members := by
  obtain ⟨-, -, pm, hpm, -⟩ := Pool.of_mem_select h.chosen
  rw [h.pool_eq, Pool.members_adjust]
  exact Table.mem_iff_exists.mpr ⟨pm, hpm⟩

/-- After what was heard is dealt with, a stride changes the pool only by a reservation. -/
theorem moves {r : Scene × Stage} (h : Sequel w s r) : s.Stays r.1 ∧
    (r.1.balancer.pool = s.balancer.pool ∨ ∃ addr lease,
      r.2 = .opening addr (.data w.round lease w.refused) ∧ Reserves w s r.1 addr lease) := by
  cases h with
  | reserves looks alike snapshot chosen stays _ pool_eq =>
    rw [alike.pool_eq] at snapshot chosen pool_eq
    exact ⟨alike.toStays.trans stays,
      .inr ⟨_, _, rfl, looks, alike.id_eq, snapshot, chosen, pool_eq⟩⟩
  | triesNext => exact ⟨.refl s, .inl rfl⟩
  | triesSeed => exact ⟨.refl s, .inl rfl⟩
  | awaitsControl _ alike => exact ⟨alike.toStays, .inl alike.pool_eq⟩
  | awaitsTurn _ alike => exact ⟨alike.toStays, .inl alike.pool_eq⟩
  | queries _ alike => exact ⟨alike.toStays, .inl alike.pool_eq⟩
  | resumes _ alike => exact ⟨alike.toStays, .inl alike.pool_eq⟩
  | stale _ alike => exact ⟨alike.toStays, .inl alike.pool_eq⟩
  | bootstraps _ alike => exact ⟨alike.toStays, .inl alike.pool_eq⟩
  | nobodyToAsk _ alike => exact ⟨alike.toStays, .inl alike.pool_eq⟩
  | nobodyAnswers _ alike => exact ⟨alike.toStays, .inl alike.pool_eq⟩
  | noCandidate _ alike => exact ⟨alike.toStays, .inl alike.pool_eq⟩
  | rejects _ alike => exact ⟨alike.toStays, .inl alike.pool_eq⟩
  | preempts _ alike => exact ⟨alike.toStays, .inl alike.pool_eq⟩
  | handsOut _ alike => exact ⟨alike.toStays, .inl alike.pool_eq⟩
  | fallsBack _ alike => exact ⟨alike.toStays, .inl alike.pool_eq⟩

/-- The seeds are tried without balancing. -/
theorem not_balanced_of_trySeeds {stage : Stage} {e : RoutingError} {addrs : List HostAddr}
    (h : stage = trySeeds e addrs) : ¬stage.balanced = true := by
  subst h
  cases addrs <;> exact Bool.noConfusion

theorem not_balanced_of_seedOpened {stage : Stage} {later : List HostAddr}
    {result : Except RoutingError Connection} (h : stage = seedOpened later result) :
    ¬stage.balanced = true := by
  cases result with
  | ok conn =>
    subst h
    exact Bool.noConfusion
  | error e => exact not_balanced_of_trySeeds h

theorem of_data {addr : HostAddr} {lease : Lease} {refused : List HostKey}
    (h : Sequel w s (m, .opening addr (.data round lease refused))) :
    round = w.round ∧ refused = w.refused ∧ Reserves w s m addr lease := by
  generalize hr : (m, Stage.opening addr (.data round lease refused)) = r at h
  cases h with
  | reserves looks alike snapshot chosen _ _ pool_eq =>
    cases hr
    rw [alike.pool_eq] at snapshot chosen pool_eq
    exact ⟨rfl, rfl, looks, alike.id_eq, snapshot, chosen, pool_eq⟩
  | fallsBack => exact absurd rfl (not_balanced_of_trySeeds (Prod.mk.inj hr).2)
  | triesSeed => exact absurd rfl (not_balanced_of_seedOpened (Prod.mk.inj hr).2)
  | _ => cases hr

/-- Only a refresh that starts waits for the turn. -/
theorem of_awaitingTurn (h : Sequel w s (m, .awaitingTurn purpose)) : w.Asks purpose := by
  generalize hr : (m, Stage.awaitingTurn purpose) = r at h
  cases h with
  | awaitsTurn asks =>
    cases hr
    exact asks
  | fallsBack => exact absurd rfl (not_balanced_of_trySeeds (Prod.mk.inj hr).2)
  | triesSeed => exact absurd rfl (not_balanced_of_seedOpened (Prod.mk.inj hr).2)
  | _ => cases hr

/-- A query comes at the start of a refresh or after its turn. -/
theorem of_querying (h : Sequel w s (m, .querying purpose)) :
    w.Asks purpose ∨ w = some (.awaitingTurn purpose, .turn) := by
  generalize hr : (m, Stage.querying purpose) = r at h
  cases h with
  | queries asks =>
    cases hr
    exact .inl asks
  | resumes wait =>
    cases hr
    exact .inr wait
  | fallsBack => exact absurd rfl (not_balanced_of_trySeeds (Prod.mk.inj hr).2)
  | triesSeed => exact absurd rfl (not_balanced_of_seedOpened (Prod.mk.inj hr).2)
  | _ => cases hr

end Sequel

namespace Stride

variable {caller : Caller} {t : Stride}

/-- What a stride can do. -/
theorem Plays.sequel (h : t.Plays caller) :
    Sequel t.wait (t.found.hear caller t.now t.wait) (t.left, t.stage) := by
  obtain ⟨wait, found, now, pick, left, stage⟩ := t
  cases wait with
  | none =>
    have he : found.beginRound caller now 1 pick = (left, stage) := h
    rw [← he]
    exact .of_beginRound .call (.refl _ _) pick
  | some wait =>
    obtain ⟨from_, arrival⟩ := wait
    have he : found.proceed? caller now pick from_ arrival = some (left, stage) := h
    unfold Scene.proceed? at he
    split at he
    · exact Option.some.inj he ▸ .of_controlGranted (.granted _) (.granted _) (.refl _ _) pick
    · exact Option.some.inj he ▸ .of_turnGranted pick
    · exact Option.some.inj he ▸ .of_opened _ _ _ pick
    · exact Option.some.inj he ▸ .of_answered _ _ pick
    · exact Option.some.inj he ▸ .of_closed _ _ pick
    · cases he

/-- A request does to the scene no more than others can do. -/
theorem Plays.later (h : t.Plays caller) : t.found.Later t.left := by
  obtain ⟨stays, hp | ⟨addr, lease, -, hr⟩⟩ := h.sequel.moves
  · exact (Scene.Later.hear ..).trans (.of_pool_eq stays hp)
  · exact (Scene.Later.hear ..).trans (.of_event stays (.adjust lease.host 1) hr.pool_eq)

end Stride

/-! ## Journeys -/

/-- What a request waits for at a stage. -/
def Stage.waitsFor : Stage → Arrival → Bool
  | awaitingControl _, .turn | awaitingTurn _, .turn => true
  | opening .., .opened _ => true
  | querying _, .answered .. => true
  | closing .., .closed => true
  | _, _ => false

/-- Only a request that is over waits for nothing. -/
theorem Stage.finished_or_waits (stage : Stage) :
    (∃ result, stage = .finished result) ∨ ∃ arrival, stage.waitsFor arrival = true := by
  cases stage with
  | awaitingControl => exact .inr ⟨.turn, rfl⟩
  | awaitingTurn => exact .inr ⟨.turn, rfl⟩
  | opening => exact .inr ⟨.opened none, rfl⟩
  | querying => exact .inr ⟨.answered "" (.ok []), rfl⟩
  | closing => exact .inr ⟨.closed, rfl⟩
  | finished result => exact .inl ⟨result, rfl⟩

/-- The strides of a request so far, latest first. -/
inductive Journey (begins : Stride → Prop) (follows : Stride → Stride → Prop) : List Stride → Prop
  | start {t : Stride} (h : begins t) : Journey begins follows [t]
  | next {t last : Stride} {past : List Stride} (j : Journey begins follows (last :: past))
    (h : follows last t) : Journey begins follows (t :: last :: past)

namespace Stride

/-- The first stride of a request, in a scene that can be reached. -/
structure Begins (caller : Caller) (t : Stride) : Prop where
  wait_eq : t.wait = none
  valid : t.found.balancer.Valid
  plays : t.Plays caller

/-- A stride after others had the scene. -/
structure Follows (caller : Caller) (last t : Stride) : Prop where
  wait_eq : ∃ arrival, t.wait = some (last.stage, arrival)
  later : last.left.Later t.found
  plays : t.Plays caller

end Stride

theorem Stride.Follows.stage_eq {caller : Caller} {last t : Stride} (h : Follows caller last t)
    {stage : Stage} {arrival : Arrival} (hw : t.wait = some (stage, arrival)) :
    last.stage = stage := by
  obtain ⟨arrival', hw'⟩ := h.wait_eq
  exact (Prod.mk.inj (Option.some.inj (hw'.symm.trans hw))).1

/-- The journey of a request among others. -/
abbrev AmongOthers (caller : Caller) : List Stride → Prop :=
  Journey (Stride.Begins caller) (Stride.Follows caller)

namespace Journey

variable {begins : Stride → Prop} {follows : Stride → Stride → Prop} {caller : Caller} {t : Stride}
  {past : List Stride}

/-- What begins with the first stride and is passed on from every stride to the next. -/
theorem along {motive : ∀ t past, Journey begins follows (t :: past) → Prop}
    (start : ∀ t (h : begins t), motive t [] (.start h))
    (next : ∀ t last past (j : Journey begins follows (last :: past)) (h : follows last t),
      motive last past j → motive t (last :: past) (.next j h))
    {t : Stride} {past : List Stride} (h : Journey begins follows (t :: past)) :
    motive t past h := by
  induction past generalizing t with
  | nil =>
    cases h with
    | start h => exact start _ h
  | cons last past ih =>
    cases h with
    | next j h => exact next _ _ _ j h (ih j)

theorem plays (h : AmongOthers caller (t :: past)) : t.Plays caller := by
  cases h with
  | start h => exact h.plays
  | next _ h => exact h.plays

theorem valid_left (h : AmongOthers caller (t :: past)) : t.left.balancer.Valid := by
  induction h using along with
  | start t h => exact h.plays.later.valid h.valid
  | next t last past j h ih => exact h.plays.later.valid (h.later.valid ih)

/-- A request goes on as soon as its wait is over, whatever it finds then. -/
theorem exists_next (h : AmongOthers caller (t :: past)) {arrival : Arrival}
    (ha : t.stage.waitsFor arrival = true) {found : Scene} (hl : t.left.Later found)
    (now : Instant) (pick : Nat) :
    ∃ left stage, AmongOthers caller
      (⟨some (t.stage, arrival), found, now, pick, left, stage⟩ :: t :: past) := by
  obtain ⟨r, hr⟩ : ∃ r, found.proceed? caller now pick t.stage arrival = some r := by
    cases hs : t.stage <;> cases arrival <;> simp_all [Stage.waitsFor, Scene.proceed?]
  exact ⟨r.1, r.2, .next h ⟨⟨arrival, rfl⟩, hl, hr⟩⟩

/-- A request that nobody disturbs goes on for as long as what it waits for arrives. -/
def undisturbed (caller : Caller) (now : Instant) : List Arrival → List Stride → List Stride
  | arrival :: arrivals, last :: past =>
    match last.left.proceed? caller now 0 last.stage arrival with
    | some (left, stage) =>
      undisturbed caller now arrivals
        (⟨some (last.stage, arrival), last.left, now, 0, left, stage⟩ :: last :: past)
    | none => last :: past
  | _, j => j

/-- The journey of a request that nobody disturbs, from its start. -/
def undisturbedFrom (s : Scene) (caller : Caller) (now : Instant) (arrivals : List Arrival) :
    List Stride :=
  let (left, stage) := s.beginRound caller now 1 0
  undisturbed caller now arrivals [⟨none, s, now, 0, left, stage⟩]

theorem amongOthers_undisturbed {now : Instant} (arrivals : List Arrival) :
    ∀ {j : List Stride}, AmongOthers caller j →
      AmongOthers caller (undisturbed caller now arrivals j) := by
  induction arrivals with
  | nil =>
    intro j h
    cases j <;> exact h
  | cons arrival arrivals ih =>
    intro j h
    match j, h with
    | last :: past, h =>
      unfold undisturbed
      cases hr : last.left.proceed? caller now 0 last.stage arrival with
      | none => exact h
      | some r => exact ih (.next h ⟨⟨arrival, rfl⟩, .refl _, hr⟩)

theorem amongOthers_undisturbedFrom {s : Scene} (v : s.balancer.Valid) (caller : Caller)
    (now : Instant) (arrivals : List Arrival) :
    AmongOthers caller (undisturbedFrom s caller now arrivals) :=
  amongOthers_undisturbed arrivals (.start ⟨rfl, v, rfl⟩)

end Journey

end ConnectionRouter
