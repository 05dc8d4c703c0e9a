import ConnectionRouter.Balancer.Refresh

/-!
# Refreshes at the same time

Any number of callers refresh one balancer, each through a connection of its own. A refresh looks
at the balancer several times, and between two looks anything else may happen to it: another
caller's steps, a failure, a reservation, a forced refresh.

* `CallPoint`: where a call stands between two looks; `Visit`: a call.
* `Visit.access?`: one look, and what the call does on the spot.
* `Crowd`: a balancer with its visits, the queries that were asked and the answers that were
  applied; `CrowdEvent`, `Crowd.after` and `Crowd.run`: what happens to it.
* `Visit.Accessed`: the accesses one by one, read off `Visit.access?` (`accessed_of_access?`).

The parts of a refresh are accesses without a pause (`startRefresh_eq_accesses`,
`resumeRefresh_eq_accesses`, `finishRefresh_eq_accesses`), so that whatever holds of every
interleaving of accesses holds of every interleaving of those parts. They count what the accesses
count.
-/

namespace ConnectionRouter

/-- Where a call of refresh stands between two accesses to the balancer. -/
inductive CallPoint
  /-- Nothing is done yet. -/
  | arrived
  /-- A refresh is due; the turn is asked for next. -/
  | due
  /-- The turn is somebody else's. -/
  | barred
  /-- There is no snapshot to go on with. -/
  | unserved
  /-- Waits for the turn. -/
  | queued
  /-- Has the turn, and looks once more whether a refresh is due. -/
  | holding
  /-- The query is under way since an instant. -/
  | querying (since : Instant)
  /-- All is done but for giving up the turn. -/
  | leaving (ok : Bool)
  | done (ok : Bool)
  | abandoned
  deriving DecidableEq

namespace CallPoint

/-- Whether the call stands at the turn: it holds it or waits for it. -/
def AtTurn : CallPoint → Prop
  | queued | holding | querying _ | leaving _ => True
  | _ => False

/-- Whether the call acts as the holder of the turn. -/
def Inside : CallPoint → Prop
  | holding | querying _ | leaving _ => True
  | _ => False

/-- Whether the call may be given up here: it has not begun, or it waits. -/
def stops : CallPoint → Bool
  | arrived | queued | querying _ => true
  | _ => false

/-- Whether the call has nothing left to do. -/
def isOver : CallPoint → Bool
  | done _ | abandoned => true
  | _ => false

def isQuerying : CallPoint → Bool
  | querying _ => true
  | _ => false

/-- Who asks when a call comes to this point. -/
def asks (c : Caller) : CallPoint → List Caller
  | querying _ => [c]
  | _ => []

/-- Whose answer is applied when a call comes from one point to another. -/
def applies (c : Caller) (now : Instant) : CallPoint → CallPoint → List (Caller × Instant)
  | querying _, leaving true => [(c, now)]
  | _, _ => []

/-- What is counted when a call comes from one point to another. -/
def outcome? : CallPoint → CallPoint → Option RefreshOutcome
  | arrived, done _ | barred, done _ => some .skipped
  | querying _, leaving ok => some (if ok then .ok else .failed)
  | _, _ => none

/-- The stage of a refresh that stops here. -/
def stage? : CallPoint → Option RefreshStage
  | queued => some .queued
  | querying _ => some .querying
  | done ok => some (.done ok)
  | _ => none

theorem inside_of_isQuerying {p : CallPoint} (h : p.isQuerying = true) : p.Inside := by
  cases p <;> trivial

end CallPoint

/-- A call of refresh through a connection of its own. -/
structure Visit where
  /-- The host of the connection. -/
  control : String
  /-- How long the query takes. -/
  delay : Duration
  answer : Except RoutingError (List Row)
  point : CallPoint := .arrived

namespace Visit

/-- The next access of a call to the balancer, if what it waits for is there. -/
def access? (v : Visit) (c : Caller) (b : Balancer) (now : Instant) :
    Option (Balancer × CallPoint) :=
  match v.point with
  | .arrived => some (b, if b.needsRefresh now then .due else .done true)
  | .due =>
    match b.turn.take? c with
    | some turn => some ({ b with turn := turn }, .holding)
    | none => some (b, .barred)
  | .barred => some (b, if b.pool.hasSnapshot then .done true else .unserved)
  | .unserved =>
    match b.turn.take? c with
    | some turn => some ({ b with turn := turn }, .holding)
    | none => some ({ b with turn := b.turn.wait c }, .queued)
  | .queued => if b.turn.isHeldBy c then some (b, .holding) else none
  | .holding => some (b, if b.needsRefresh now then .querying now else .leaving true)
  | .querying since =>
    if now < since + v.delay then none
    else
      match Member.ofAnswer v.answer with
      | .error _ => some (b, .leaving false)
      | .ok members => some (b.applySnapshot ⟨members, v.control⟩ now, .leaving true)
  | .leaving ok => some ({ b with turn := b.turn.leave c }, .done ok)
  | .done _ | .abandoned => none

/-- Whether the query of the call fails. -/
def Fails (v : Visit) : Prop := ∃ e, Member.ofAnswer v.answer = .error e

/-- The accesses, one by one. -/
inductive Accessed (v : Visit) (c : Caller) (b : Balancer) (now : Instant) :
    Balancer → CallPoint → Prop
  | due (hp : v.point = .arrived) (hd : b.needsRefresh now = true) : Accessed v c b now b .due
  | fresh (hp : v.point = .arrived) (hd : b.needsRefresh now = false) :
      Accessed v c b now b (.done true)
  | barred (hp : v.point = .due) (ht : b.turn.take? c = none) : Accessed v c b now b .barred
  | served (hp : v.point = .barred) (hs : b.pool.hasSnapshot = true) :
      Accessed v c b now b (.done true)
  | unserved (hp : v.point = .barred) (hs : b.pool.hasSnapshot = false) :
      Accessed v c b now b .unserved
  | take (hp : v.point = .due ∨ v.point = .unserved) {turn : Turn}
      (ht : b.turn.take? c = some turn) : Accessed v c b now { b with turn := turn } .holding
  | wait (hp : v.point = .unserved) (ht : b.turn.take? c = none) :
      Accessed v c b now { b with turn := b.turn.wait c } .queued
  | granted (hp : v.point = .queued) (ht : b.turn.isHeldBy c = true) :
      Accessed v c b now b .holding
  | ask (hp : v.point = .holding) (hd : b.needsRefresh now = true) :
      Accessed v c b now b (.querying now)
  | spare (hp : v.point = .holding) (hd : b.needsRefresh now = false) :
      Accessed v c b now b (.leaving true)
  | fail {since : Instant} (hp : v.point = .querying since) (hf : v.Fails) :
      Accessed v c b now b (.leaving false)
  | apply {since : Instant} (hp : v.point = .querying since) {members : List Member}
      (ha : Member.ofAnswer v.answer = .ok members) :
      Accessed v c b now (b.applySnapshot ⟨members, v.control⟩ now) (.leaving true)
  | leave {ok : Bool} (hp : v.point = .leaving ok) :
      Accessed v c b now { b with turn := b.turn.leave c } (.done ok)

/-- A call can go on unless it waits for the turn or for its own query, or is over. -/
theorem isSome_access? {v : Visit} (hqueued : v.point ≠ .queued)
    (hquery : v.point.isQuerying = false) (hover : v.point.isOver = false) (c : Caller)
    (b : Balancer) (now : Instant) : (v.access? c b now).isSome = true := by
  unfold access?
  split <;> rename_i hp
  · rfl
  · split <;> rfl
  · rfl
  · split <;> rfl
  · exact absurd hp hqueued
  · rfl
  · rw [hp] at hquery
    cases hquery
  · rfl
  · rw [hp] at hover
    cases hover
  · rw [hp] at hover
    cases hover

theorem accessed_of_access? {v : Visit} {c : Caller} {b b' : Balancer} {now : Instant}
    {point : CallPoint} (h : v.access? c b now = some (b', point)) :
    v.Accessed c b now b' point := by
  unfold access? at h
  split at h <;> rename_i hp
  · cases hd : b.needsRefresh now <;> simp only [hd] at h <;> cases h
    · exact .fresh hp hd
    · exact .due hp hd
  · split at h <;> rename_i ht <;> cases h
    · exact .take (.inl hp) ht
    · exact .barred hp ht
  · cases hs : b.pool.hasSnapshot <;> simp only [hs] at h <;> cases h
    · exact .unserved hp hs
    · exact .served hp hs
  · split at h <;> rename_i ht <;> cases h
    · exact .take (.inr hp) ht
    · exact .wait hp ht
  · split at h
    · rename_i ht
      cases h
      exact .granted hp ht
    · cases h
  · cases hd : b.needsRefresh now <;> simp only [hd] at h <;> cases h
    · exact .spare hp hd
    · exact .ask hp hd
  · split at h
    · cases h
    · split at h <;> rename_i ha <;> cases h
      · exact .fail hp ⟨_, ha⟩
      · exact .apply hp ha
  · cases h
    exact .leave hp
  · cases h
  · cases h

/-! ## The parts of a refresh as accesses -/

/-- A balancer and a call after up to `n` accesses of the call without a pause. -/
def accesses (c : Caller) (now : Instant) : (n : Nat) → Balancer → Visit → Balancer × Visit
  | 0, b, v => (b, v)
  | n + 1, b, v =>
    match v.access? c b now with
    | none => (b, v)
    | some (b, point) => accesses c now n b { v with point := point }

/-- What is counted in up to `n` accesses of a call without a pause. -/
def outcomes (c : Caller) (now : Instant) : (n : Nat) → Balancer → Visit → List RefreshOutcome
  | 0, _, _ => []
  | n + 1, b, v =>
    match v.access? c b now with
    | none => []
    | some (b, point) =>
      (v.point.outcome? point).toList ++ outcomes c now n b { v with point := point }

variable {v : Visit} {c : Caller} {b : Balancer} {now : Instant}

/-- The start of a refresh is up to four accesses. -/
theorem startRefresh_eq_accesses (hp : v.point = .arrived) (c : Caller) (b : Balancer)
    (now : Instant) : ∃ n, (accesses c now n b v).1 = (b.startRefresh c now).1 ∧
      (accesses c now n b v).2.point.stage? = some (b.startRefresh c now).2.1 ∧
      (outcomes c now n b v).map .refresh = (b.startRefresh c now).2.2.toList := by
  cases hd : b.needsRefresh now with
  | false =>
    refine ⟨1, ?_⟩
    simp [accesses, outcomes, access?, Balancer.startRefresh, CallPoint.stage?,
      CallPoint.outcome?, hp, hd]
  | true =>
    cases ht : b.turn.take? c with
    | some turn =>
      -- the turn plays no part in whether a refresh is due
      have hd' : Balancer.needsRefresh { b with turn := turn } now = true := hd
      refine ⟨3, ?_⟩
      simp [accesses, outcomes, access?, Balancer.startRefresh, CallPoint.stage?,
        CallPoint.outcome?, hp, hd, hd', ht]
    | none =>
      cases hs : b.pool.hasSnapshot with
      | true =>
        refine ⟨3, ?_⟩
        simp [accesses, outcomes, access?, Balancer.startRefresh, CallPoint.stage?,
          CallPoint.outcome?, hp, hd, ht, hs]
      | false =>
        refine ⟨4, ?_⟩
        simp [accesses, outcomes, access?, Balancer.startRefresh, CallPoint.stage?,
          CallPoint.outcome?, hp, hd, ht, hs]

/-- A refresh that got the turn goes on by up to three accesses, in which nothing is counted. -/
theorem resumeRefresh_eq_accesses (hp : v.point = .queued) (ht : b.turn.isHeldBy c = true)
    (now : Instant) : ∃ n, (accesses c now n b v).1 = (b.resumeRefresh c now).1 ∧
      (accesses c now n b v).2.point.stage? = some (b.resumeRefresh c now).2 ∧
      outcomes c now n b v = [] := by
  cases hd : b.needsRefresh now with
  | false =>
    refine ⟨3, ?_⟩
    simp [accesses, outcomes, access?, Balancer.resumeRefresh, CallPoint.stage?,
      CallPoint.outcome?, hp, ht, hd]
  | true =>
    refine ⟨2, ?_⟩
    simp [accesses, outcomes, access?, Balancer.resumeRefresh, CallPoint.stage?,
      CallPoint.outcome?, hp, ht, hd]

/-- The end of a refresh, once its query is answered, is two accesses. -/
theorem finishRefresh_eq_accesses {since : Instant} (hp : v.point = .querying since)
    (hdue : since + v.delay ≤ now) (c : Caller) (b : Balancer) :
    (accesses c now 2 b v).1 = (b.finishRefresh c now v.control v.answer).1 ∧
      (accesses c now 2 b v).2.point.stage? =
        some (.done (b.finishRefresh c now v.control v.answer).2.1) ∧
      (outcomes c now 2 b v).map .refresh =
        (b.finishRefresh c now v.control v.answer).2.2.toList := by
  have hlate : ¬now < since + v.delay := Nat.not_lt.mpr hdue
  cases ha : Member.ofAnswer v.answer with
  | error e =>
    simp [accesses, outcomes, access?, Balancer.finishRefresh, CallPoint.stage?,
      CallPoint.outcome?, hp, hlate, ha]
  | ok members =>
    simp [accesses, outcomes, access?, Balancer.finishRefresh, Balancer.applySnapshot,
      CallPoint.stage?, CallPoint.outcome?, hp, hlate, ha]

end Visit

/-! ## What else happens -/

/-- What happens to a balancer beside its refreshes. -/
inductive Touch
  | forceRefresh
  | markFailed (host : HostKey)
  /-- `pick` breaks a tie. -/
  | reserve (excluding : List HostKey) (pick : Nat)
  | adjust (host : HostKey) (delta : Int)
  | release (host : HostKey)
  deriving DecidableEq

namespace Balancer

/-- The balancer after a touch. -/
def touch (b : Balancer) (now : Instant) : Touch → Balancer
  | .forceRefresh => b.forceRefresh
  | .markFailed host => (b.markFailed host now).1
  | .reserve excluding pick => (b.reserve excluding pick).1
  | .adjust host delta => (b.adjust host delta).1
  | .release host => (b.release host).1

/-- What a touch counts. -/
def touchMetric (b : Balancer) (now : Instant) : Touch → Option Metric
  | .forceRefresh => none
  | .markFailed host => (b.markFailed host now).2
  | .reserve excluding pick => (b.reserve excluding pick).2.2
  | .adjust host delta => (b.adjust host delta).2.2
  | .release host => (b.release host).2

@[simp] theorem turn_touch (b : Balancer) (now : Instant) (t : Touch) :
    (b.touch now t).turn = b.turn := by
  cases t <;> rfl

@[simp] theorem settings_touch (b : Balancer) (now : Instant) (t : Touch) :
    (b.touch now t).settings = b.settings := by
  cases t <;> rfl

/-- A reservation adjusts the pool or leaves it alone. -/
theorem pool_reserve (b : Balancer) (excluding : List HostKey) (pick : Nat) :
    (b.reserve excluding pick).1.pool = b.pool ∨
      ∃ host, (b.reserve excluding pick).1.pool = (b.pool.adjust host 1).1 := by
  change (b.pool.reserve excluding pick).1 = b.pool ∨
    ∃ host, (b.pool.reserve excluding pick).1 = (b.pool.adjust host 1).1
  rcases b.pool.reserve_cases excluding pick with he | ⟨host, addr, -, he⟩
  · exact .inl (by rw [he])
  · exact .inr ⟨host, by rw [he]⟩

@[simp] theorem hasSnapshot_touch (b : Balancer) (now : Instant) (t : Touch) :
    (b.touch now t).pool.hasSnapshot = b.pool.hasSnapshot := by
  cases t with
  | forceRefresh => rfl
  | markFailed host => rfl
  | reserve excluding pick =>
    rcases b.pool_reserve excluding pick with he | ⟨host, he⟩ <;> simp [touch, he]
  | adjust host delta => exact Pool.hasSnapshot_adjust b.pool host delta
  | release host => exact Pool.hasSnapshot_adjust b.pool host (-1)

@[simp] theorem members_touch (b : Balancer) (now : Instant) (t : Touch) :
    (b.touch now t).pool.members = b.pool.members := by
  cases t with
  | forceRefresh => rfl
  | markFailed host => rfl
  | reserve excluding pick =>
    rcases b.pool_reserve excluding pick with he | ⟨host, he⟩ <;> simp [touch, he]
  | adjust host delta => exact Pool.members_adjust b.pool host delta
  | release host => exact Pool.members_adjust b.pool host (-1)

@[simp] theorem family_touch (b : Balancer) (now : Instant) (t : Touch) :
    (b.touch now t).pool.family = b.pool.family := by
  cases t with
  | forceRefresh => rfl
  | markFailed host => rfl
  | reserve excluding pick =>
    rcases b.pool_reserve excluding pick with he | ⟨host, he⟩ <;> simp [touch, he]
  | adjust host delta => exact Pool.family_adjust b.pool host delta
  | release host => exact Pool.family_adjust b.pool host (-1)

/-- Only a forced refresh makes the balancer forget when the last refresh was. -/
theorem lastRefresh_touch (b : Balancer) (now : Instant) (t : Touch) :
    (b.touch now t).pool.lastRefresh =
      if t = .forceRefresh then none else b.pool.lastRefresh := by
  cases t with
  | forceRefresh => rfl
  | markFailed host => rfl
  | reserve excluding pick =>
    rcases b.pool_reserve excluding pick with he | ⟨host, he⟩ <;> simp [touch, he]
  | adjust host delta => exact Pool.lastRefresh_adjust b.pool host delta
  | release host => exact Pool.lastRefresh_adjust b.pool host (-1)

end Balancer

/-! ## The crowd -/

/-- A balancer with the calls of refresh around it, each known by its place in the list. -/
structure Crowd where
  balancer : Balancer
  now : Instant := 0
  visits : List Visit := []
  /-- Whose queries were started, in order. -/
  asked : List Caller := []
  /-- Whose answers were applied, in order, and when. -/
  applied : List (Caller × Instant) := []

inductive CrowdEvent
  | arrive (control : String) (delay : Duration) (answer : Except RoutingError (List Row))
  | step (c : Caller)
  | abandon (c : Caller)
  | touch (t : Touch)
  | advance (d : Duration)

namespace Crowd

/-- A call takes its next access, if it can. -/
def step (s : Crowd) (c : Caller) : Crowd :=
  match s.visits[c]? with
  | none => s
  | some v =>
    match v.access? c s.balancer s.now with
    | none => s
    | some (b, point) =>
      { s with
        balancer := b
        visits := s.visits.set c { v with point := point }
        asked := s.asked ++ point.asks c
        applied := s.applied ++ v.point.applies c s.now point }

/-- A call is given up, if it stands where it may be. -/
def abandon (s : Crowd) (c : Caller) : Crowd :=
  match s.visits[c]? with
  | none => s
  | some v =>
    if v.point.stops then
      { s with
        balancer := s.balancer.abandonRefresh c
        visits := s.visits.set c { v with point := .abandoned } }
    else s

def after (s : Crowd) : CrowdEvent → Crowd
  | .arrive control delay answer => { s with visits := s.visits ++ [{ control, delay, answer }] }
  | .step c => s.step c
  | .abandon c => s.abandon c
  | .touch t => { s with balancer := s.balancer.touch s.now t }
  | .advance d => { s with now := s.now + d }

def runFrom (s : Crowd) (events : List CrowdEvent) : Crowd := events.foldl after s

/-- A new balancer after a list of events. -/
def run (preference : Option Preference) (settings : BalancerSettings)
    (events : List CrowdEvent) : Crowd :=
  runFrom { balancer := { preference, settings } } events

theorem run_concat (preference : Option Preference) (settings : BalancerSettings)
    (events : List CrowdEvent) (e : CrowdEvent) :
    run preference settings (events ++ [e]) = (run preference settings events).after e := by
  rw [run, runFrom, List.foldl_append]
  rfl

/-- The callers whose answers were applied, in order. -/
def appliers (s : Crowd) : List Caller := s.applied.map (·.1)

/-- A call beside a new one is an old one or the new one. -/
theorem getElem?_visits_concat {s : Crowd} {v w : Visit} {d : Caller}
    (h : (s.visits ++ [w])[d]? = some v) :
    s.visits[d]? = some v ∨ d = s.visits.length ∧ v = w := by
  rcases Nat.lt_trichotomy d s.visits.length with hlt | rfl | hgt
  · rw [List.getElem?_append_left hlt] at h
    exact .inl h
  · rw [List.getElem?_concat_length] at h
    exact .inr ⟨rfl, (Option.some.inj h).symm⟩
  · rw [List.getElem?_eq_none (by simpa using Nat.succ_le_of_lt hgt)] at h
    cases h

/-- When one call moves, a call is that one at its new place, or an old one. -/
theorem getElem?_visits_set {s : Crowd} {c d : Caller} {v v' w : Visit}
    (hv : s.visits[c]? = some v) (hw : (s.visits.set c v')[d]? = some w) :
    d = c ∧ w = v' ∨ d ≠ c ∧ s.visits[d]? = some w := by
  by_cases hd : d = c
  · subst hd
    rw [List.getElem?_set_self (List.getElem?_eq_some_iff.mp hv).1] at hw
    exact .inl ⟨rfl, (Option.some.inj hw).symm⟩
  · rw [List.getElem?_set_ne (Ne.symm hd)] at hw
    exact .inr ⟨hd, hw⟩

theorem step_of_access? {s : Crowd} {c : Caller} {v : Visit} {b : Balancer} {point : CallPoint}
    (hv : s.visits[c]? = some v) (ha : v.access? c s.balancer s.now = some (b, point)) :
    s.step c =
      { s with
        balancer := b
        visits := s.visits.set c { v with point := point }
        asked := s.asked ++ point.asks c
        applied := s.applied ++ v.point.applies c s.now point } := by
  simp only [step, hv, ha]

/-- The call that takes an access is where the access leads. -/
theorem getElem?_visits_step {s : Crowd} {c : Caller} {v : Visit} {b : Balancer}
    {point : CallPoint} (hv : s.visits[c]? = some v)
    (ha : v.access? c s.balancer s.now = some (b, point)) :
    (s.step c).visits[c]? = some { v with point := point } := by
  rw [step_of_access? hv ha]
  exact List.getElem?_set_self (List.getElem?_eq_some_iff.mp hv).1

theorem getElem?_visits_step_of_ne {s : Crowd} {c d : Caller} (h : d ≠ c) :
    (s.step c).visits[d]? = s.visits[d]? := by
  unfold step
  split
  · rfl
  · split
    · rfl
    · exact List.getElem?_set_ne (Ne.symm h)

theorem getElem?_visits_abandon_of_ne {s : Crowd} {c d : Caller} (h : d ≠ c) :
    (s.abandon c).visits[d]? = s.visits[d]? := by
  unfold abandon
  split
  · rfl
  · split
    · exact List.getElem?_set_ne (Ne.symm h)
    · rfl

/-- An access leaves the crowd as it is, or is one of those of `Visit.Accessed`. -/
theorem step_cases (s : Crowd) (c : Caller) :
    s.step c = s ∨ ∃ v b point, s.visits[c]? = some v ∧
      v.Accessed c s.balancer s.now b point ∧
      s.step c =
        { s with
          balancer := b
          visits := s.visits.set c { v with point := point }
          asked := s.asked ++ point.asks c
          applied := s.applied ++ v.point.applies c s.now point } := by
  unfold step
  split
  · exact .inl rfl
  · rename_i v hv
    split
    · exact .inl rfl
    · rename_i b point ha
      exact .inr ⟨v, b, point, hv, Visit.accessed_of_access? ha, rfl⟩

theorem abandon_cases (s : Crowd) (c : Caller) :
    s.abandon c = s ∨ ∃ v, s.visits[c]? = some v ∧ v.point.stops = true ∧
      s.abandon c =
        { s with
          balancer := s.balancer.abandonRefresh c
          visits := s.visits.set c { v with point := .abandoned } } := by
  unfold abandon
  split
  · exact .inl rfl
  · rename_i v hv
    split
    · rename_i hs
      exact .inr ⟨v, hv, hs, rfl⟩
    · exact .inl rfl

/-- A call changes by where it stands only. -/
theorem exists_point_after {s : Crowd} {c : Caller} {v : Visit} (h : s.visits[c]? = some v)
    (e : CrowdEvent) : ∃ point, (s.after e).visits[c]? = some { v with point := point } := by
  have hlt : c < s.visits.length := (List.getElem?_eq_some_iff.mp h).1
  cases e with
  | arrive control delay answer => exact ⟨v.point, (List.getElem?_append_left hlt).trans h⟩
  | step d =>
    by_cases hd : c = d
    · subst hd
      rcases s.step_cases c with he | ⟨w, b, point, hw, -, he⟩
      · exact ⟨v.point, (congrArg (·.visits[c]?) he).trans h⟩
      · cases h.symm.trans hw
        refine ⟨point, ?_⟩
        rw [after, he]
        exact List.getElem?_set_self hlt
    · exact ⟨v.point, (getElem?_visits_step_of_ne hd).trans h⟩
  | abandon d =>
    by_cases hd : c = d
    · subst hd
      rcases s.abandon_cases c with he | ⟨w, hw, -, he⟩
      · exact ⟨v.point, (congrArg (·.visits[c]?) he).trans h⟩
      · cases h.symm.trans hw
        refine ⟨.abandoned, ?_⟩
        rw [after, he]
        exact List.getElem?_set_self hlt
    · exact ⟨v.point, (getElem?_visits_abandon_of_ne hd).trans h⟩
  | touch t => exact ⟨v.point, h⟩
  | advance d => exact ⟨v.point, h⟩

end Crowd

end ConnectionRouter
