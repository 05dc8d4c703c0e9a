import ConnectionRouter.Proofs.Balancer.CrowdOrder

/-!
# What refreshes at the same time do to their balancer

* `Crowd.FollowsProtocol`: queries do not overlap and start only when a refresh is due, answers are
  applied in the order of their queries, a call fails exactly if its own query did, a call changes
  the pool by its answer or not at all, the turn passes on, and a call that comes when there is a
  snapshot waits for nobody.
* `Crowd.followsProtocol`: every orderly crowd with its record follows the protocol.
-/

namespace ConnectionRouter

namespace Balancer

theorem needsRefresh_iff {b : Balancer} {now : Instant} : b.needsRefresh now = true ↔
    b.pool.lastRefresh = none ∨
      ∃ at_, b.pool.lastRefresh = some at_ ∧ b.settings.refreshInterval ≤ now - at_ := by
  unfold needsRefresh
  cases b.pool.lastRefresh <;> simp

end Balancer

namespace Crowd

/-! ## The pool -/

/-- A call gives up the turn: it is over, or it is abandoned while it holds the turn. -/
inductive GivesUp (s : Crowd) (c : Caller) : Crowd → Prop
  | ended {v : Visit} {ok : Bool} (hv : s.visits[c]? = some v) (hp : v.point = .leaving ok) :
      GivesUp s c (s.step c)
  | abandoned {v : Visit} (hv : s.visits[c]? = some v) (hp : v.point.stops = true)
      (hh : s.balancer.turn.holder = some c) : GivesUp s c (s.abandon c)

/-- The call whose answer an access applies. -/
structure Applies (s s' : Crowd) (c : Caller) (v : Visit) (members : List Member) : Prop where
  visit : s.visits[c]? = some v
  answer : Member.ofAnswer v.answer = .ok members
  querying : v.point.isQuerying = true
  pool : s'.balancer.pool =
    (s.balancer.pool.apply ⟨members, v.control⟩ s.balancer.rules s.now).1
  applied : s'.applied = s.applied ++ [(c, s.now)]

/-- An access leaves the pool alone, or it applies the answer of the call's query. -/
theorem step_pool (s : Crowd) (c : Caller) :
    ((s.step c).balancer.pool = s.balancer.pool ∧ (s.step c).applied = s.applied) ∨
      ∃ v members, s.Applies (s.step c) c v members := by
  rcases s.step_cases c with he | ⟨v, b, point, hv, ha, he⟩
  · exact .inl ⟨by rw [he], by rw [he]⟩
  have happlied : (s.step c).applied = s.applied ++ v.point.applies c s.now point := by rw [he]
  have hpool : (s.step c).balancer = b := by rw [he]
  rw [happlied, hpool]
  cases ha with
  | apply hp ha =>
    refine .inr ⟨v, _, hv, ha, ?_, ?_, ?_⟩
    · rw [hp]
      rfl
    · rw [hpool]
      rfl
    · rw [happlied, hp]
      rfl
  | take hp ht =>
    rcases hp with hp | hp
    · exact .inl ⟨rfl, by rw [hp]; exact List.append_nil _⟩
    · exact .inl ⟨rfl, by rw [hp]; exact List.append_nil _⟩
  | due hp | fresh hp | barred hp | served hp | unserved hp | wait hp | granted hp | ask hp
    | spare hp | fail hp | leave hp => exact .inl ⟨rfl, by rw [hp]; exact List.append_nil _⟩

theorem abandon_pool (s : Crowd) (c : Caller) :
    (s.abandon c).balancer.pool = s.balancer.pool ∧ (s.abandon c).applied = s.applied := by
  rcases s.abandon_cases c with he | ⟨v, -, -, he⟩
  · exact ⟨by rw [he], by rw [he]⟩
  · exact ⟨by rw [he]; rfl, by rw [he]⟩

/-- A query starts by an access of its call, when a refresh is due. -/
theorem step_asked (s : Crowd) (c : Caller) :
    (s.step c).asked = s.asked ∨
      (s.step c).asked = s.asked ++ [c] ∧ s.balancer.needsRefresh s.now = true ∧
        ∃ v, s.visits[c]? = some v ∧ v.point = .holding := by
  rcases s.step_cases c with he | ⟨v, b, point, hv, ha, he⟩
  · exact .inl (by rw [he])
  have hasked : (s.step c).asked = s.asked ++ point.asks c := by rw [he]
  rw [hasked]
  cases ha with
  | ask hp hd => exact .inr ⟨rfl, hd, v, hv, hp⟩
  | due | fresh | barred | served | unserved | take | wait | granted | spare | fail | apply
    | leave => exact .inl (List.append_nil _)

theorem abandon_asked (s : Crowd) (c : Caller) : (s.abandon c).asked = s.asked := by
  rcases s.abandon_cases c with he | ⟨v, -, -, he⟩
  · rw [he]
  · rw [he]

/-- The settings of a balancer stay as they are. -/
theorem settings_after (s : Crowd) (e : CrowdEvent) :
    (s.after e).balancer.settings = s.balancer.settings := by
  cases e with
  | arrive control delay answer => rfl
  | step c =>
    rcases s.step_cases c with he | ⟨v, b, point, -, ha, he⟩
    · rw [after, he]
    · rw [after, he]
      cases ha <;> rfl
  | abandon c =>
    rcases s.abandon_cases c with he | ⟨v, -, -, he⟩
    · rw [after, he]
    · rw [after, he]
      rfl
  | touch t => exact Balancer.settings_touch _ _ t
  | advance d => rfl

theorem settings_runFrom (events : List CrowdEvent) :
    ∀ s : Crowd, (s.runFrom events).balancer.settings = s.balancer.settings := by
  induction events with
  | nil => exact fun _ => rfl
  | cons e events ih => exact fun s => (ih (s.after e)).trans (s.settings_after e)

/-! ## The turn passes on -/

/-- The first that waits gets the turn of a call that gives it up, and goes on. -/
theorem Orderly.handsOn {s s' : Crowd} {c d : Caller} {rest : List Caller} (h : s.Orderly)
    (hg : s.GivesUp c s') (hw : s.balancer.turn.waiting = d :: rest) :
    s'.balancer.turn.holder = some d ∧
      ∃ w, (s'.step d).visits[d]? = some w ∧ w.point = .holding := by
  have hholder : s.balancer.turn.holder = some c := by
    cases hg with
    | ended hv hp => exact h.inside c _ hv (by simp [hp, CallPoint.Inside])
    | abandoned hv hp hh => exact hh
  obtain ⟨hne, w, hd, hqueued⟩ := h.queued_of_waiting hholder hw
  have hnext : s'.balancer.turn.holder = some d ∧ s'.visits[d]? = some w := by
    have hheld := Turn.isHeldBy_iff.mpr hholder
    have hhead : (s.balancer.turn.leave c).holder = some d := by
      rw [Turn.holder_leave hheld, hw, List.head?_cons]
    cases hg with
    | ended hv hp =>
      refine ⟨?_, ?_⟩
      · simpa [Crowd.step, hv, Visit.access?, hp] using hhead
      · simpa [Crowd.step, hv, Visit.access?, hp, List.getElem?_set_ne (Ne.symm hne)] using hd
    | abandoned hv hp hh =>
      refine ⟨?_, ?_⟩
      · simpa [Crowd.abandon, hv, hp, Balancer.abandonRefresh] using hhead
      · simpa [Crowd.abandon, hv, hp, List.getElem?_set_ne (Ne.symm hne)] using hd
  refine ⟨hnext.1, { w with point := .holding }, ?_, rfl⟩
  have hheld := Turn.isHeldBy_iff.mpr hnext.1
  have haccess : w.access? d s'.balancer s'.now = some (s'.balancer, .holding) := by
    simp only [Visit.access?, hqueued, hheld, if_true]
  exact getElem?_visits_step hnext.2 haccess

/-! ## A call that comes when there is a snapshot -/

/-- There is a snapshot, and the call neither waits for the turn nor is about to. -/
def Unhindered (c : Caller) (s : Crowd) : Prop :=
  s.balancer.pool.hasSnapshot = true ∧
    ∃ v, s.visits[c]? = some v ∧ v.point ≠ .unserved ∧ v.point ≠ .queued

theorem hasSnapshot_after {s : Crowd} (h : s.balancer.pool.hasSnapshot = true) (e : CrowdEvent) :
    (s.after e).balancer.pool.hasSnapshot = true := by
  cases e with
  | arrive control delay answer => exact h
  | step c =>
    rcases s.step_pool c with ⟨hpool, -⟩ | ⟨v, members, ha⟩
    · exact (congrArg Pool.hasSnapshot hpool).trans h
    · exact (congrArg Pool.hasSnapshot ha.pool).trans (Pool.hasSnapshot_apply _ _ _ _)
  | abandon c => exact (congrArg Pool.hasSnapshot (s.abandon_pool c).1).trans h
  | touch t => exact (Balancer.hasSnapshot_touch _ _ t).trans h
  | advance d => exact h

theorem Unhindered.after {s : Crowd} {c : Caller} (h : s.Unhindered c) (e : CrowdEvent) :
    (s.after e).Unhindered c := by
  obtain ⟨hs, v, hv, hunserved, hqueued⟩ := h
  refine ⟨hasSnapshot_after hs e, ?_⟩
  have hlt : c < s.visits.length := (List.getElem?_eq_some_iff.mp hv).1
  cases e with
  | arrive control delay answer =>
    exact ⟨v, (List.getElem?_append_left hlt).trans hv, hunserved, hqueued⟩
  | step d =>
    by_cases hd : c = d
    · subst hd
      rcases s.step_cases c with he | ⟨w, b, point, hw, ha, he⟩
      · exact ⟨v, (congrArg (·.visits[c]?) he).trans hv, hunserved, hqueued⟩
      · cases hv.symm.trans hw
        refine ⟨{ v with point := point }, ?_, ?_⟩
        · rw [Crowd.after, he]
          exact List.getElem?_set_self hlt
        · cases ha <;> simp_all
    · exact ⟨v, (getElem?_visits_step_of_ne hd).trans hv, hunserved, hqueued⟩
  | abandon d =>
    by_cases hd : c = d
    · subst hd
      rcases s.abandon_cases c with he | ⟨w, hw, -, he⟩
      · exact ⟨v, (congrArg (·.visits[c]?) he).trans hv, hunserved, hqueued⟩
      · refine ⟨{ w with point := .abandoned }, ?_, CallPoint.noConfusion, CallPoint.noConfusion⟩
        rw [Crowd.after, he]
        exact List.getElem?_set_self hlt
    · exact ⟨v, (getElem?_visits_abandon_of_ne hd).trans hv, hunserved, hqueued⟩
  | touch t => exact ⟨v, hv, hunserved, hqueued⟩
  | advance d => exact ⟨v, hv, hunserved, hqueued⟩

theorem Unhindered.runFrom {c : Caller} (events : List CrowdEvent) :
    ∀ {s : Crowd}, s.Unhindered c → (s.runFrom events).Unhindered c := by
  induction events with
  | nil => exact fun h => h
  | cons e events ih => exact fun h => ih (h.after e)

/-- A call that comes when there is a snapshot is unhindered. -/
theorem unhindered_arrive {s : Crowd} (h : s.balancer.pool.hasSnapshot = true) (control : String)
    (delay : Duration) (answer : Except RoutingError (List Row)) :
    (s.after (.arrive control delay answer)).Unhindered s.visits.length :=
  ⟨h, { control, delay, answer }, List.getElem?_concat_length, CallPoint.noConfusion,
    CallPoint.noConfusion⟩

/-! ## The protocol -/

/-- How calls of refresh share their balancer. -/
structure FollowsProtocol (s : Crowd) : Prop where
  /-- At most one query is under way. -/
  oneQuery : ∀ (c d : Caller) (v w : Visit), s.visits[c]? = some v → s.visits[d]? = some w →
    v.point.isQuerying = true → w.point.isQuerying = true → c = d
  /-- A query starts only at a moment at which a refresh is due. -/
  asksWhenDue : ∀ e, (s.after e).asked = s.asked ∨
    ∃ c, e = .step c ∧ (s.after e).asked = s.asked ++ [c] ∧
      (s.balancer.pool.lastRefresh = none ∨
        ∃ at_, s.balancer.pool.lastRefresh = some at_ ∧
          s.balancer.settings.refreshInterval ≤ s.now - at_)
  asksOnce : s.asked.Nodup
  /-- Answers are applied in the order in which their queries were started. -/
  inOrder : s.appliers.Sublist s.asked
  /-- A call fails exactly if its own query did. -/
  answer : ∀ (c : Caller) (v : Visit) (ok : Bool), s.visits[c]? = some v → v.point = .done ok →
    (ok = false ↔ c ∈ s.asked ∧ v.Fails)
  /-- A call changes the pool by applying the answer of its query, or not at all. -/
  changes : ∀ e, (∀ t, e ≠ .touch t) →
    ((s.after e).balancer.pool = s.balancer.pool ∧ (s.after e).applied = s.applied) ∨
      ∃ c v members, e = .step c ∧ s.Applies (s.after e) c v members
  /-- A call that failed or was abandoned has applied no answer. -/
  unapplied : ∀ (c : Caller) (v : Visit), s.visits[c]? = some v →
    v.point = .done false ∨ v.point = .abandoned → c ∉ s.appliers
  /-- A call that gives up the turn lets the first that waits go on. -/
  handsOn : ∀ (c d : Caller) (rest : List Caller) (s' : Crowd), s.GivesUp c s' →
    s.balancer.turn.waiting = d :: rest → s'.balancer.turn.holder = some d ∧
      ∃ w, (s'.step d).visits[d]? = some w ∧ w.point = .holding
  /-- A call that comes when there is a snapshot never waits for another call: it is over, or its
  own query is under way, or it can go on. -/
  unhindered : ∀ (control : String) (delay : Duration) (answer : Except RoutingError (List Row))
    (later : List CrowdEvent), s.balancer.pool.hasSnapshot = true →
      let t := (s.after (.arrive control delay answer)).runFrom later
      ∃ v, t.visits[s.visits.length]? = some v ∧ v.point ≠ .queued ∧
        (v.point.isOver = true ∨ v.point.isQuerying = true ∨
          (v.access? s.visits.length t.balancer t.now).isSome = true)

theorem followsProtocol {s : Crowd} (ho : s.Orderly) (hr : s.Recorded) : s.FollowsProtocol where
  oneQuery c d v w hv hw hc hd :=
    ho.eq_of_inside hv (CallPoint.inside_of_isQuerying hc) hw (CallPoint.inside_of_isQuerying hd)
  asksWhenDue e := by
    cases e with
    | step c =>
      rcases s.step_asked c with he | ⟨he, hdue, -⟩
      · exact .inl he
      · exact .inr ⟨c, rfl, he, Balancer.needsRefresh_iff.mp hdue⟩
    | abandon c => exact .inl (s.abandon_asked c)
    | arrive | touch | advance => exact .inl rfl
  asksOnce := hr.nodup
  inOrder := hr.sublist
  answer c v ok hv hp := by
    have h := hr.visit c v hv
    rw [Visit.Recorded, hp] at h
    exact h.1
  changes e he := by
    cases e with
    | step c =>
      rcases s.step_pool c with h | ⟨v, members, h⟩
      · exact .inl h
      · exact .inr ⟨c, v, members, rfl, h⟩
    | abandon c => exact .inl (s.abandon_pool c)
    | touch t => exact absurd rfl (he t)
    | arrive | advance => exact .inl ⟨rfl, rfl⟩
  unapplied c v hv hp hc := by
    have h := hr.visit c v hv
    rcases hp with hp | hp
    · rw [Visit.Recorded, hp] at h
      exact Bool.noConfusion (h.2 hc)
    · rw [Visit.Recorded, hp] at h
      exact h hc
  handsOn c d rest s' hg hw := ho.handsOn hg hw
  unhindered control delay answer later hs := by
    obtain ⟨-, v, hv, -, hqueued⟩ := (unhindered_arrive hs control delay answer).runFrom later
    refine ⟨v, hv, hqueued, ?_⟩
    cases hover : v.point.isOver with
    | true => exact .inl rfl
    | false =>
      cases hquery : v.point.isQuerying with
      | true => exact .inr (.inl rfl)
      | false => exact .inr (.inr (Visit.isSome_access? hqueued hquery hover _ _ _))

end Crowd

end ConnectionRouter
