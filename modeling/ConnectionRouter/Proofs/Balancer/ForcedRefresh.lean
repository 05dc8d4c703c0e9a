import ConnectionRouter.Proofs.Balancer.RefreshProtocol

/-!
# How long a forced refresh lasts

A forced refresh makes the balancer forget when the last refresh was. The next answer that is
applied ends that, whenever its query was started. So a forced refresh lasts until the answer of a
query started after it, unless a query was under way when it was forced: the answer of that query
tells nothing of what came after its start, and yet it ends the forced refresh.

* `Crowd.ForceLasts`: a refresh forced now stays due until an answer is applied whose query was
  started after it.
* `Crowd.forceLasts_iff`: that is so exactly if no query that will be answered is under way, or the
  refresh interval is zero.
-/

namespace ConnectionRouter

namespace Crowd

/-- A refresh forced now stays due until an answer is applied whose query was started after it. -/
def ForceLasts (s : Crowd) : Prop :=
  ∀ later : List CrowdEvent,
    let t := (s.after (.touch .forceRefresh)).runFrom later
    (∀ c ∈ t.appliers, c ∈ s.asked) → t.balancer.needsRefresh t.now = true

/-- A query that will be answered is under way. -/
def AwaitsAnswer (s : Crowd) : Prop :=
  ∃ (c : Caller) (v : Visit) (since : Instant), s.visits[c]? = some v ∧
    v.point = .querying since ∧ ¬v.Fails

/-- While a forced refresh lasts: no query asked before it is answered any more, and the last
refresh is forgotten until an answer of a later one is applied. -/
structure Lasting (asked : List Caller) (s : Crowd) : Prop where
  mem_asked : ∀ c ∈ asked, c ∈ s.asked
  unanswered : ∀ (c : Caller) (v : Visit), s.visits[c]? = some v → v.point.isQuerying = true →
    ¬v.Fails → c ∉ asked
  forgotten : s.balancer.pool.lastRefresh = none ∨ ∃ c ∈ s.appliers, c ∉ asked

namespace Lasting

variable {asked : List Caller} {s : Crowd}

theorem step (h : s.Lasting asked) (hr : s.Recorded) (c : Caller) : (s.step c).Lasting asked := by
  rcases s.step_cases c with he | ⟨v, b, point, hv, ha, he⟩
  · rwa [he]
  have hsame : ∀ {w : Visit} {d : Caller}, d ≠ c → (s.step c).visits[d]? = some w →
      s.visits[d]? = some w := fun hd hw => (getElem?_visits_step_of_ne hd).symm.trans hw
  refine ⟨fun d hd => ?_, fun d w hw hq hgood => ?_, ?_⟩
  · rw [he]
    exact List.mem_append_left _ (h.mem_asked d hd)
  · by_cases hd : d = c
    · subst hd
      rw [he] at hw
      obtain ⟨-, rfl⟩ | ⟨hne, -⟩ := getElem?_visits_set hv hw
      · -- a call that starts its query has not asked before
        cases ha with
        | ask hp hdue =>
          have hrec := hr.visit d v hv
          rw [Visit.Recorded, hp] at hrec
          exact fun hmem => hrec (h.mem_asked d hmem)
        | _ => cases hq
      · exact absurd rfl hne
    · exact h.unanswered d w (hsame hd hw) hq hgood
  · rcases s.step_pool c with ⟨hpool, happlied⟩ | ⟨w, members, happ⟩
    · rw [hpool, appliers, happlied]
      exact h.forgotten
    · have hgood : ¬w.Fails := by
        rintro ⟨e, herr⟩
        cases happ.answer.symm.trans herr
      refine .inr ⟨c, ?_, h.unanswered c w happ.visit happ.querying hgood⟩
      rw [appliers, happ.applied, List.map_append]
      exact List.mem_append_right _ List.mem_cons_self

theorem abandon (h : s.Lasting asked) (c : Caller) : (s.abandon c).Lasting asked := by
  refine ⟨fun d hd => ?_, fun d w hw hq hgood => ?_, ?_⟩
  · rw [s.abandon_asked c]
    exact h.mem_asked d hd
  · rcases s.abandon_cases c with he | ⟨v, hv, -, he⟩
    · rw [he] at hw
      exact h.unanswered d w hw hq hgood
    · rw [he] at hw
      obtain ⟨-, rfl⟩ | ⟨-, hw⟩ := getElem?_visits_set hv hw
      · cases hq
      · exact h.unanswered d w hw hq hgood
  · obtain ⟨hpool, happlied⟩ := s.abandon_pool c
    rw [hpool, appliers, happlied]
    exact h.forgotten

theorem after (h : s.Lasting asked) (hr : s.Recorded) (e : CrowdEvent) :
    (s.after e).Lasting asked := by
  cases e with
  | arrive control delay answer =>
    refine ⟨h.mem_asked, fun d w hw hq hgood => ?_, h.forgotten⟩
    rcases getElem?_visits_concat hw with hw | ⟨-, rfl⟩
    · exact h.unanswered d w hw hq hgood
    · cases hq
  | step c => exact h.step hr c
  | abandon c => exact h.abandon c
  | touch t =>
    refine ⟨h.mem_asked, h.unanswered, ?_⟩
    rw [Crowd.after, Balancer.lastRefresh_touch]
    split
    · exact .inl rfl
    · exact h.forgotten
  | advance d => exact ⟨h.mem_asked, h.unanswered, h.forgotten⟩

theorem runFrom (later : List CrowdEvent) :
    ∀ {s : Crowd}, s.Orderly → s.Recorded → s.Lasting asked → (s.runFrom later).Lasting asked := by
  induction later with
  | nil => exact fun _ _ h => h
  | cons e later ih => exact fun ho hr h => ih (ho.after e) (hr.after ho e) (h.after hr e)

end Lasting

/-- A refresh forced while no query will be answered lasts. -/
theorem forceLasts_of_not_awaitsAnswer {s : Crowd} (ho : s.Orderly) (hr : s.Recorded)
    (h : ¬s.AwaitsAnswer) : s.ForceLasts := by
  intro later t ht
  have hstart : (s.after (.touch .forceRefresh)).Lasting s.asked := by
    refine ⟨fun c hc => hc, fun c v hv hq hgood => ?_, .inl rfl⟩
    cases hp : v.point with
    | querying since => exact absurd ⟨c, v, since, hv, hp, hgood⟩ h
    | _ =>
      rw [hp] at hq
      cases hq
  rcases (hstart.runFrom later (ho.after _) (hr.after ho _)).forgotten with hnone | ⟨c, hc, hout⟩
  · exact Balancer.needsRefresh_iff.mpr (.inl hnone)
  · exact absurd (ht c hc) hout

/-- The answer of a query that was under way ends a forced refresh. -/
theorem not_forceLasts_of_awaitsAnswer {s : Crowd} (hr : s.Recorded) (h : s.AwaitsAnswer)
    (hinterval : 0 < s.balancer.settings.refreshInterval) : ¬s.ForceLasts := by
  obtain ⟨c, v, since, hv, hp, hgood⟩ := h
  obtain ⟨members, ha⟩ : ∃ members, Member.ofAnswer v.answer = .ok members := by
    cases ha : Member.ofAnswer v.answer with
    | error e => exact absurd ⟨e, ha⟩ hgood
    | ok members => exact ⟨members, rfl⟩
  intro hlasts
  -- the clock moves past the end of the query, and the call takes its answer
  have hend := hlasts [.advance (since + v.delay), .step c]
  let t := (s.after (.touch .forceRefresh)).after (.advance (since + v.delay))
  have hlate : ¬t.now < since + v.delay := Nat.not_lt.mpr (Nat.le_add_left _ s.now)
  have haccess : v.access? c t.balancer t.now =
      some (t.balancer.applySnapshot ⟨members, v.control⟩ t.now, .leaving true) := by
    simp only [Visit.access?, hp, hlate, if_false, ha]
  have hvisit : t.visits[c]? = some v := hv
  have hstep := step_of_access? hvisit haccess
  obtain ⟨front, hasked, -, -⟩ := hr.last_asked hv hp
  have hknown : ∀ d ∈ (t.step c).appliers, d ∈ s.asked := by
    intro d hd
    rw [hstep, appliers, hp, List.map_append] at hd
    rcases List.mem_append.mp hd with hd | hd
    · exact hr.sublist.subset hd
    · rw [List.mem_singleton.mp hd, hasked]
      exact List.mem_append_right _ List.mem_cons_self
  have hdue : (t.step c).balancer.needsRefresh (t.step c).now = true := hend hknown
  rw [hstep] at hdue
  rcases Balancer.needsRefresh_iff.mp hdue with hnone | ⟨at_, hat, hold⟩
  · cases hnone
  · cases hat
    rw [Nat.sub_self] at hold
    exact absurd hinterval (Nat.not_lt.mpr hold)

/-- Since the answers up to number `n` the last refresh is forgotten, or another was applied. -/
def ForgottenSince (n : Nat) (s : Crowd) : Prop :=
  n ≤ s.applied.length ∧ (s.applied.length = n → s.balancer.pool.lastRefresh = none)

theorem ForgottenSince.after {n : Nat} {s : Crowd} (h : s.ForgottenSince n) (e : CrowdEvent) :
    (s.after e).ForgottenSince n := by
  cases e with
  | step c =>
    rcases s.step_pool c with ⟨hpool, happlied⟩ | ⟨v, members, happ⟩
    · rw [ForgottenSince, Crowd.after, hpool, happlied]
      exact h
    · have hle := h.1
      rw [ForgottenSince, Crowd.after, happ.applied, List.length_append, List.length_singleton]
      exact ⟨Nat.le_succ_of_le hle, fun he => absurd he (by omega)⟩
  | abandon c =>
    obtain ⟨hpool, happlied⟩ := s.abandon_pool c
    rw [ForgottenSince, Crowd.after, hpool, happlied]
    exact h
  | touch t =>
    refine ⟨h.1, fun he => ?_⟩
    rw [Crowd.after, Balancer.lastRefresh_touch]
    split
    · rfl
    · exact h.2 he
  | arrive control delay answer => exact h
  | advance d => exact h

theorem ForgottenSince.runFrom {n : Nat} (later : List CrowdEvent) :
    ∀ {s : Crowd}, s.ForgottenSince n → (s.runFrom later).ForgottenSince n := by
  induction later with
  | nil => exact fun h => h
  | cons e later ih => exact fun h => ih (h.after e)

/-- A forced refresh lasts until some answer is applied. -/
theorem due_until_applied (s : Crowd) (later : List CrowdEvent)
    (h : ((s.after (.touch .forceRefresh)).runFrom later).applied = s.applied) (now : Instant) :
    ((s.after (.touch .forceRefresh)).runFrom later).balancer.needsRefresh now = true := by
  have hstart : (s.after (.touch .forceRefresh)).ForgottenSince s.applied.length :=
    ⟨Nat.le_refl _, fun _ => rfl⟩
  exact Balancer.needsRefresh_iff.mpr (.inl ((hstart.runFrom later).2 (congrArg List.length h)))

/-- **A forced refresh lasts until an answer is applied; that answer is of a query started after it,
whatever follows, exactly if no query that will be answered was under way**, or else if refreshes
are due at all times. -/
theorem run_force_lasts (preference : Option Preference) (settings : BalancerSettings)
    (events : List CrowdEvent) :
    (∀ later now,
      let t := ((run preference settings events).after (.touch .forceRefresh)).runFrom later
      t.applied = (run preference settings events).applied → t.balancer.needsRefresh now = true) ∧
      ((run preference settings events).ForceLasts ↔
        settings.refreshInterval = 0 ∨ ¬(run preference settings events).AwaitsAnswer) := by
  have ho := orderly_run preference settings events
  have hr := recorded_run preference settings events
  have hsettings : (run preference settings events).balancer.settings = settings :=
    settings_runFrom events _
  refine ⟨fun later now h => due_until_applied _ later h now, fun hlasts => ?_, ?_⟩
  · rcases Nat.eq_zero_or_pos settings.refreshInterval with hzero | hpos
    · exact .inl hzero
    · refine .inr fun hawaits => not_forceLasts_of_awaitsAnswer hr hawaits ?_ hlasts
      rw [hsettings]
      exact hpos
  · rintro (hzero | hnone)
    · intro later t _
      have ht : t.balancer.settings = settings := by
        rw [settings_runFrom, settings_after, hsettings]
      rw [Balancer.needsRefresh, ht, hzero]
      cases t.balancer.pool.lastRefresh <;> simp
    · exact forceLasts_of_not_awaitsAnswer ho hr hnone

/-- A call comes and asks; three nanoseconds later its answer is still to come. -/
def askedEarly : List CrowdEvent :=
  [.arrive "a" 5 (.ok []), .step 0, .step 0, .step 0, .advance 3]

/-- A refresh forced while a query is under way is lost when that query is answered: no refresh is
due any more, and the only answer that was applied is of a query started before. -/
theorem run_force_lasts_askedEarly :
    ¬(run none {} askedEarly).ForceLasts ∧
      let t := (run none {} askedEarly).runFrom [.touch .forceRefresh, .advance 2, .step 0]
      t.appliers = [0] ∧ (run none {} askedEarly).asked = [0] ∧
        t.balancer.needsRefresh t.now = false := by
  refine ⟨fun hlasts => ?_, by decide +kernel⟩
  rcases (run_force_lasts none {} askedEarly).2.mp hlasts with hzero | hnone
  · exact absurd hzero (by decide)
  · refine hnone ⟨0, ⟨"a", 5, .ok [], .querying 0⟩, 0, rfl, rfl, ?_⟩
    rintro ⟨e, he⟩
    cases he

end Crowd

end ConnectionRouter
