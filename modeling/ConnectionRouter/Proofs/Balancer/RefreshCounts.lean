import ConnectionRouter.Proofs.Balancer.CrowdLedger

/-!
# How refreshes are counted

A call of refresh ends by the outcome of its query, or it is skipped if it never asked
(`Crowd.ending?`). The ledger counts the endings, one by one, but for the calls that were spared:
they returned without a query, and nothing counts them.

* `MeteredCrowd.Accounted`: the invariant, one equation for each outcome.
* `MeteredCrowd.run_refreshCounts`: what the counts say of a run.
-/

namespace ConnectionRouter

/-! ## Counts -/

namespace RefreshOutcome

/-- The outcomes exclude each other, and there are no others. -/
theorem countP_add (f : Caller → Option RefreshOutcome) (l : List Caller) :
    l.countP (f · = some .ok) + l.countP (f · = some .failed) + l.countP (f · = some .skipped) =
      l.countP fun c => (f c).isSome := by
  induction l with
  | nil => rfl
  | cons c l ih =>
    simp only [List.countP_cons, ← ih]
    cases h : f c with
    | none => simp
    | some o => cases o <;> simp <;> omega

end RefreshOutcome

/-- How often an outcome was counted. -/
def RefreshCounts.times (counts : RefreshCounts) : RefreshOutcome → Nat
  | .ok => counts.ok
  | .failed => counts.failed
  | .skipped => counts.skipped

theorem RefreshCounts.times_add (counts : RefreshCounts) (o o' : RefreshOutcome) :
    (counts.add o).times o' = counts.times o' + if o = o' then 1 else 0 := by
  cases o <;> cases o' <;> rfl

/-- A number that newly qualifies is one more. -/
theorem countP_range_of_new {p q : Nat → Bool} {n c : Nat} (hc : c < n)
    (hothers : ∀ d, d ≠ c → q d = p d) (hp : p c = false) :
    (List.range n).countP q = (List.range n).countP p + (q c).toNat := by
  induction n with
  | zero => exact absurd hc (Nat.not_lt_zero c)
  | succ n ih =>
    rw [List.range_succ, List.countP_append, List.countP_append, List.countP_singleton,
      List.countP_singleton]
    by_cases hn : c = n
    · subst hn
      have hbelow : (List.range c).countP q = (List.range c).countP p :=
        List.countP_congr fun d hd => by rw [hothers d (Nat.ne_of_lt (List.mem_range.mp hd))]
      rw [hbelow, hp]
      cases q c <;> simp
    · rw [ih (by omega), hothers n (Ne.symm hn)]
      omega

/-! ## Endings -/

/-- Whether the call has its answer. -/
def CallPoint.isAnswered : CallPoint → Bool
  | leaving _ | done _ => true
  | _ => false

theorem CallPoint.mem_asks {point : CallPoint} {c d : Caller} (h : d ∈ point.asks c) : d = c := by
  cases point <;> simp [asks] at h
  exact h

/-- The outcome of a query. -/
def Visit.queryOutcome (v : Visit) : RefreshOutcome :=
  match Member.ofAnswer v.answer with
  | .ok _ => .ok
  | .error _ => .failed

theorem Visit.queryOutcome_eq_failed_iff {v : Visit} : v.queryOutcome = .failed ↔ v.Fails := by
  unfold queryOutcome Fails
  cases Member.ofAnswer v.answer <;> simp

/-- How a call ended that has asked, or has not. -/
def Visit.ending? (v : Visit) (asked : Bool) : Option RefreshOutcome :=
  if v.point.isAnswered then some (if asked then v.queryOutcome else .skipped) else none

theorem Visit.ending?_eq_none {v : Visit} (h : v.point.isAnswered = false) (asked : Bool) :
    v.ending? asked = none := by
  rw [ending?, h]
  rfl

theorem Visit.ending?_eq_some {v : Visit} (h : v.point.isAnswered = true) (asked : Bool) :
    v.ending? asked = some (if asked then v.queryOutcome else .skipped) := by
  rw [ending?, h]
  rfl

namespace Crowd

variable {s s' : Crowd} {c : Caller} {v : Visit}

/-- How a call ended: by the outcome of its query, or skipped if it returned without one. -/
def ending? (s : Crowd) (c : Caller) : Option RefreshOutcome :=
  (s.visits[c]?).bind (·.ending? (s.asked.contains c))

/-- The number of calls that ended by an outcome. -/
def endings (s : Crowd) (o : RefreshOutcome) : Nat :=
  (List.range s.visits.length).countP (s.ending? · = some o)

theorem ending?_of_visit (hv : s.visits[c]? = some v) :
    s.ending? c = v.ending? (s.asked.contains c) := by
  rw [ending?, hv, Option.bind_some]

theorem endings_congr (hlen : s'.visits.length = s.visits.length)
    (h : ∀ d, s'.ending? d = s.ending? d) (o : RefreshOutcome) : s'.endings o = s.endings o := by
  simp only [endings, hlen, h]

/-- One call ends. -/
theorem endings_of_ended (hlen : s'.visits.length = s.visits.length) (hc : c < s.visits.length)
    (hothers : ∀ d, d ≠ c → s'.ending? d = s.ending? d) (hbefore : s.ending? c = none)
    {o : RefreshOutcome} (hafter : s'.ending? c = some o) (o' : RefreshOutcome) :
    s'.endings o' = s.endings o' + if o = o' then 1 else 0 := by
  rw [endings, hlen, countP_range_of_new hc (p := (s.ending? · = some o')), endings]
  · rw [hafter]
    by_cases ho : o = o' <;> simp [ho]
  · intro d hd
    rw [hothers d hd]
  · simp [hbefore]

/-- Once all calls are done, every call has ended. -/
theorem sum_endings (h : ∀ v ∈ s.visits, ∃ ok, v.point = .done ok) :
    s.endings .ok + s.endings .failed + s.endings .skipped = s.visits.length := by
  rw [endings, endings, endings, RefreshOutcome.countP_add, List.countP_eq_length.mpr,
    List.length_range]
  intro c hc
  have hv := List.getElem?_eq_getElem (List.mem_range.mp hc)
  obtain ⟨ok, hp⟩ := h _ (List.mem_of_getElem? hv)
  rw [ending?_of_visit hv, Visit.ending?_eq_some (by rw [hp]; rfl)]
  rfl

/-! ## Events -/

/-- A new call has not ended. -/
theorem ending?_arrive (s : Crowd) (control : String) (delay : Duration)
    (answer : Except RoutingError (List Row)) (d : Caller) :
    (s.after (.arrive control delay answer)).ending? d = s.ending? d := by
  simp only [ending?, after]
  rcases Nat.lt_trichotomy d s.visits.length with hlt | rfl | hgt
  · rw [List.getElem?_append_left hlt]
  · rw [List.getElem?_concat_length, List.getElem?_eq_none (Nat.le_refl _)]
    rfl
  · rw [List.getElem?_eq_none (by simpa using Nat.succ_le_of_lt hgt),
      List.getElem?_eq_none (Nat.le_of_lt hgt)]

theorem endings_arrive (s : Crowd) (control : String) (delay : Duration)
    (answer : Except RoutingError (List Row)) (o : RefreshOutcome) :
    (s.after (.arrive control delay answer)).endings o = s.endings o := by
  have hnew : s.ending? s.visits.length = none := by
    rw [ending?, List.getElem?_eq_none (Nat.le_refl _)]
    rfl
  have hlen : (s.after (.arrive control delay answer)).visits.length = s.visits.length + 1 :=
    List.length_append
  simp only [endings, ending?_arrive, hlen, List.range_succ, List.countP_append]
  simp [hnew]

/-- A call that may be given up has not ended, and does not end by that. -/
theorem ending?_abandon (s : Crowd) (c d : Caller) : (s.abandon c).ending? d = s.ending? d := by
  rcases s.abandon_cases c with he | ⟨v, hv, hstops, he⟩
  · rw [he]
  · rw [he]
    by_cases hd : d = c
    · subst hd
      have hopen : v.point.isAnswered = false := by
        cases hp : v.point <;> simp [hp, CallPoint.stops] at hstops <;> rfl
      have hv' : (s.visits.set d { v with point := .abandoned })[d]? =
          some { v with point := .abandoned } :=
        List.getElem?_set_self (List.getElem?_eq_some_iff.mp hv).1
      rw [ending?_of_visit hv, ending?_of_visit hv', Visit.ending?_eq_none hopen]
      exact Visit.ending?_eq_none rfl _
    · simp only [ending?, List.getElem?_set_ne (Ne.symm hd)]

theorem length_visits_abandon (s : Crowd) (c : Caller) :
    (s.abandon c).visits.length = s.visits.length := by
  rcases s.abandon_cases c with he | ⟨v, -, -, he⟩
  · rw [he]
  · rw [he, List.length_set]

/-- One call moves, and no other ends by that. -/
theorem ending?_set_of_ne {b : Balancer} {point : CallPoint}
    {applied : List (Caller × Instant)} {d : Caller} (hd : d ≠ c) :
    ending? { s with
      balancer := b
      visits := s.visits.set c { v with point := point }
      asked := s.asked ++ point.asks c
      applied := applied } d = s.ending? d := by
  have hasked : d ∉ point.asks c := fun h => hd (CallPoint.mem_asks h)
  simp only [ending?, List.getElem?_set_ne (Ne.symm hd), List.contains_eq_mem, List.mem_append,
    hasked, or_false]

/-- What an access does to the ending of its call: nothing, and nothing is counted; or it ends the
call, and that is counted unless the call is spared its query. -/
inductive Ends (s : Crowd) (c : Caller) (v : Visit) (point : CallPoint) (s' : Crowd) : Prop
  | goesOn (hsame : s'.ending? c = s.ending? c) (houtcome : v.point.outcome? point = none)
      (hspared : v.point.spares c point = [])
  | counted {o : RefreshOutcome} (hbefore : s.ending? c = none) (hafter : s'.ending? c = some o)
      (houtcome : v.point.outcome? point = some o) (hspared : v.point.spares c point = [])
  | spared (hbefore : s.ending? c = none) (hafter : s'.ending? c = some .skipped)
      (houtcome : v.point.outcome? point = none) (hspared : v.point.spares c point = [c])

theorem Recorded.ends (h : s.Recorded) (hv : s.visits[c]? = some v) {b : Balancer}
    {point : CallPoint} (ha : v.Accessed c s.balancer s.now b point)
    (applied : List (Caller × Instant)) :
    s.Ends c v point { s with
      balancer := b
      visits := s.visits.set c { v with point := point }
      asked := s.asked ++ point.asks c
      applied := applied } := by
  have hr := h.visit c v hv
  have hopen : v.point.isAnswered = false → s.ending? c = none := by
    intro hopen
    rw [ending?_of_visit hv, Visit.ending?_eq_none hopen]
  have hv' : (s.visits.set c { v with point := point })[c]? = some { v with point := point } :=
    List.getElem?_set_self (List.getElem?_eq_some_iff.mp hv).1
  have hafter : ending? { s with
      balancer := b
      visits := s.visits.set c { v with point := point }
      asked := s.asked ++ point.asks c
      applied := applied } c =
        Visit.ending? { v with point := point } ((s.asked ++ point.asks c).contains c) :=
    ending?_of_visit hv'
  cases ha with
  | due hp | barred hp | unserved hp | wait hp | granted hp | ask hp =>
    refine .goesOn ?_ (by rw [hp]; rfl) (by rw [hp]; rfl)
    rw [hopen (by rw [hp]; rfl), hafter]
    exact Visit.ending?_eq_none rfl _
  | take hp =>
    rcases hp with hp | hp <;> refine .goesOn ?_ (by rw [hp]; rfl) (by rw [hp]; rfl) <;>
      · rw [hopen (by rw [hp]; rfl), hafter]
        exact Visit.ending?_eq_none rfl _
  | fresh hp | served hp =>
    have hnot : c ∉ s.asked := by simpa [Visit.Recorded, hp] using hr
    refine .counted (hopen (by rw [hp]; rfl)) ?_ (by rw [hp]; rfl) (by rw [hp]; rfl)
    rw [hafter, Visit.ending?_eq_some rfl]
    simp [CallPoint.asks, hnot]
  | spare hp =>
    have hnot : c ∉ s.asked := by simpa [Visit.Recorded, hp] using hr
    refine .spared (hopen (by rw [hp]; rfl)) ?_ (by rw [hp]; rfl) (by rw [hp]; rfl)
    rw [hafter, Visit.ending?_eq_some rfl]
    simp [CallPoint.asks, hnot]
  | fail hp hf =>
    obtain ⟨front, hasked, -, -⟩ := h.last_asked hv hp
    refine .counted (hopen (by rw [hp]; rfl)) ?_ (by rw [hp]; rfl) (by rw [hp]; rfl)
    have hout : Visit.queryOutcome { v with point := .leaving false } = .failed :=
      Visit.queryOutcome_eq_failed_iff.mpr hf
    rw [hafter, Visit.ending?_eq_some rfl]
    simpa [hasked] using hout
  | apply hp hok =>
    obtain ⟨front, hasked, -, -⟩ := h.last_asked hv hp
    refine .counted (hopen (by rw [hp]; rfl)) ?_ (by rw [hp]; rfl) (by rw [hp]; rfl)
    have hout : Visit.queryOutcome { v with point := .leaving true } = .ok := by
      rw [Visit.queryOutcome, hok]
    rw [hafter, Visit.ending?_eq_some rfl]
    simpa [hasked] using hout
  | leave hp =>
    refine .goesOn ?_ (by rw [hp]; rfl) (by rw [hp]; rfl)
    rw [hafter, ending?_of_visit hv, Visit.ending?_eq_some rfl,
      Visit.ending?_eq_some (by rw [hp]; rfl)]
    simp [CallPoint.asks, Visit.queryOutcome]

/-- A call that is done tells by its result whether its query failed. -/
theorem Recorded.result (h : s.Recorded) (hv : s.visits[c]? = some v) {ok : Bool}
    (hp : v.point = .done ok) : ok = false ↔ s.ending? c = some .failed := by
  have hr := h.visit c v hv
  rw [Visit.Recorded, hp] at hr
  rw [hr.1, ending?_of_visit hv, Visit.ending?_eq_some (by rw [hp]; rfl),
    ← Visit.queryOutcome_eq_failed_iff]
  by_cases hc : c ∈ s.asked <;> simp [hc]

end Crowd

/-! ## The ledger -/

namespace MeteredCrowd

/-- Every ending is counted, but for the calls that were spared their query. -/
structure Accounted (s : MeteredCrowd) : Prop where
  counted : ∀ o, s.ledger.refreshes.times o + (if o = .skipped then s.spared.length else 0) =
    s.crowd.endings o
  spared : ∀ c ∈ s.spared, s.crowd.ending? c = some .skipped
  nodup : s.spared.Nodup

namespace Accounted

variable {s : MeteredCrowd}

theorem step (h : s.Accounted) (hr : s.crowd.Recorded) (c : Caller) : (s.step c).Accounted := by
  rcases s.step_cases c with ⟨he, -⟩ | ⟨v, b, point, hv, ha, hcrowd, he⟩
  · rwa [he]
  have hends := hr.ends hv ha (s.crowd.applied ++ v.point.applies c s.crowd.now point)
  have hothers : ∀ d, d ≠ c → (s.crowd.step c).ending? d = s.crowd.ending? d := by
    intro d hd
    rw [hcrowd]
    exact Crowd.ending?_set_of_ne hd
  have hlen : (s.crowd.step c).visits.length = s.crowd.visits.length := by
    rw [hcrowd, List.length_set]
  have hc : c < s.crowd.visits.length := (List.getElem?_eq_some_iff.mp hv).1
  rw [← hcrowd] at hends
  rw [he]
  cases hends with
  | goesOn hsame houtcome hspared =>
    have hall : ∀ d, (s.crowd.step c).ending? d = s.crowd.ending? d := by
      intro d
      by_cases hd : d = c
      · rw [hd, hsame]
      · exact hothers d hd
    rw [houtcome, hspared, List.append_nil]
    refine ⟨fun o => ?_, fun d hd => ?_, h.nodup⟩
    · rw [Crowd.endings_congr hlen hall]
      exact h.counted o
    · rw [hall]
      exact h.spared d hd
  | @counted o hbefore hafter houtcome hspared =>
    rw [houtcome, hspared, List.append_nil]
    refine ⟨fun o' => ?_, fun d hd => ?_, h.nodup⟩
    · have hcount := h.counted o'
      have htimes := s.ledger.refreshes.times_add o o'
      rw [Crowd.endings_of_ended hlen hc hothers hbefore hafter]
      change (s.ledger.refreshes.add o).times o' +
        (if o' = .skipped then s.spared.length else 0) = _
      omega
    · have hne : d ≠ c := by
        rintro rfl
        rw [h.spared d hd] at hbefore
        cases hbefore
      rw [hothers d hne]
      exact h.spared d hd
  | spared hbefore hafter houtcome hspared =>
    have hnew : c ∉ s.spared := fun hc => by
      rw [h.spared c hc] at hbefore
      cases hbefore
    rw [houtcome, hspared]
    refine ⟨fun o => ?_, fun d hd => ?_, ?_⟩
    · have hcount := h.counted o
      rw [Crowd.endings_of_ended hlen hc hothers hbefore hafter]
      change s.ledger.refreshes.times o + _ = _
      cases o <;> simp at hcount ⊢ <;> omega
    · rcases List.mem_append.mp hd with hd | hd
      · have hne : d ≠ c := fun he => hnew (he ▸ hd)
        rw [hothers d hne]
        exact h.spared d hd
      · rw [List.mem_singleton.mp hd]
        exact hafter
    · exact List.nodup_append.mpr ⟨h.nodup, List.nodup_singleton c, by
        rintro a ha b hb rfl
        exact hnew (List.mem_singleton.mp hb ▸ ha)⟩

/-- What is told of hosts is no refresh. -/
theorem touch (h : s.Accounted) (t : Touch) : (s.after (.touch t)).Accounted := by
  have hrefreshes : (s.after (.touch t)).ledger.refreshes = s.ledger.refreshes := by
    rw [MeteredCrowd.after]
    cases s.crowd.balancer.touched s.crowd.now t with
    | rested _ _ _ _ hmetric =>
      rw [hmetric]
      rfl
    | failed _ hmetric => rcases hmetric with hmetric | hmetric <;> rw [hmetric] <;> rfl
    | @adjusted host delta _ _ hmetric =>
      rw [hmetric]
      cases (s.crowd.balancer.pool.adjust host delta).2 <;> rfl
  refine ⟨fun o => ?_, h.spared, h.nodup⟩
  rw [hrefreshes]
  exact h.counted o

theorem after (h : s.Accounted) (hr : s.crowd.Recorded) (e : CrowdEvent) :
    (s.after e).Accounted := by
  cases e with
  | step c => exact h.step hr c
  | touch t => exact h.touch t
  | arrive control delay answer =>
    refine ⟨fun o => ?_, fun c hc => ?_, h.nodup⟩
    · exact (h.counted o).trans (s.crowd.endings_arrive control delay answer o).symm
    · exact (s.crowd.ending?_arrive control delay answer c).trans (h.spared c hc)
  | abandon c =>
    refine ⟨fun o => ?_, fun d hd => ?_, h.nodup⟩
    · exact (h.counted o).trans (Crowd.endings_congr (s.crowd.length_visits_abandon c)
        (s.crowd.ending?_abandon c) o).symm
    · exact (s.crowd.ending?_abandon c d).trans (h.spared d hd)
  | advance d => exact ⟨h.counted, h.spared, h.nodup⟩

end Accounted

variable (preference : Option Preference) (settings : BalancerSettings) (events : List CrowdEvent)

theorem recorded_run : (run preference settings events).crowd.Recorded :=
  crowd_run preference settings events ▸ Crowd.recorded_run preference settings events

theorem accounted_run : (run preference settings events).Accounted := by
  induction events using List.reverseRecOn with
  | nil =>
    refine ⟨fun o => ?_, by simp [run], List.nodup_nil⟩
    cases o <;> rfl
  | append_singleton events e ih =>
    rw [run_concat]
    exact ih.after (recorded_run preference settings events) e

/-- **Refreshes are counted by how they end, but for those that were spared their query.** The
ledger has as many successes and failures as there are calls whose queries succeeded and failed, and
it lacks of the skipped calls exactly those that had the turn and found no refresh due any more.
A call that is done tells by its result whether its query failed. Once all calls are done, the three
counts and the spared calls make up all calls; so the counts alone do exactly if nobody was
spared. -/
theorem run_refreshCounts :
    let s : MeteredCrowd := run preference settings events
    let counts : RefreshCounts := s.ledger.refreshes
    (counts.ok = s.crowd.endings .ok ∧ counts.failed = s.crowd.endings .failed ∧
        counts.skipped + s.spared.length = s.crowd.endings .skipped) ∧
      (s.spared.Nodup ∧ ∀ c ∈ s.spared, s.crowd.ending? c = some .skipped) ∧
      (∀ c v ok, s.crowd.visits[c]? = some v → v.point = .done ok →
        (ok = false ↔ s.crowd.ending? c = some .failed)) ∧
      ((∀ v ∈ s.crowd.visits, ∃ ok, v.point = .done ok) →
        counts.ok + counts.failed + counts.skipped + s.spared.length = s.crowd.visits.length ∧
          (counts.ok + counts.failed + counts.skipped = s.crowd.visits.length ↔
            s.spared = [])) := by
  intro s counts
  have haccounted : s.Accounted := accounted_run preference settings events
  have hok : counts.ok = s.crowd.endings .ok := haccounted.counted .ok
  have hfailed : counts.failed = s.crowd.endings .failed := haccounted.counted .failed
  have hskipped : counts.skipped + s.spared.length = s.crowd.endings .skipped :=
    haccounted.counted .skipped
  refine ⟨⟨hok, hfailed, hskipped⟩, ⟨haccounted.nodup, haccounted.spared⟩, fun c v ok hv hp => ?_,
    fun hdone => ?_⟩
  · exact (recorded_run preference settings events).result hv hp
  · have hsum := Crowd.sum_endings hdone
    have hall : counts.ok + counts.failed + counts.skipped + s.spared.length =
        s.crowd.visits.length := by omega
    refine ⟨hall, ?_⟩
    rw [← List.length_eq_zero_iff]
    omega

/-- Two calls come before anything is known. The first asks, the second waits for it. -/
def askedTogether : List CrowdEvent :=
  [.arrive "a" 5 (.ok []), .arrive "a" 5 (.ok []), .step 0, .step 0, .step 0, .step 1, .step 1,
    .step 1, .step 1, .advance 5, .step 0, .step 0, .step 1, .step 1, .step 1]

/-- Two calls are done, and one refresh is counted: the second call got the turn from the first and
was spared its query. -/
theorem run_refreshCounts_askedTogether :
    let s := run none {} askedTogether
    let counts := s.ledger.refreshes
    (s.crowd.visits.map (·.point) = [.done true, .done true] ∧ s.spared = [1]) ∧
      counts.ok + counts.failed + counts.skipped + 1 = s.crowd.visits.length ∧
      counts.ok + counts.failed + counts.skipped ≠ s.crowd.visits.length := by
  intro s counts
  have hpoints : s.crowd.visits.map (·.point) = [.done true, .done true] := by decide +kernel
  have hspared : s.spared = [1] := by decide +kernel
  have hdone : ∀ v ∈ s.crowd.visits, ∃ ok, v.point = .done ok := by
    intro v hv
    have hmem := List.mem_map_of_mem (f := (·.point)) hv
    rw [hpoints] at hmem
    exact ⟨true, by simpa using hmem⟩
  obtain ⟨hall, hiff⟩ := (run_refreshCounts none {} askedTogether).2.2.2 hdone
  have hone : s.spared.length = 1 := congrArg List.length hspared
  refine ⟨⟨hpoints, hspared⟩, hone ▸ hall, fun he => ?_⟩
  rw [hiff.mp he] at hone
  cases hone

end MeteredCrowd

end ConnectionRouter
