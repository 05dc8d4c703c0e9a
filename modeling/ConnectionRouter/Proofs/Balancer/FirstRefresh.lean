import ConnectionRouter.Balancer.Alone
import ConnectionRouter.Proofs.Balancer.RefreshProtocol
import Mathlib.Data.List.Induction

/-!
# The first refresh

Callers that come together before there is a snapshot share one query.

* `CrowdEvent.Calm`: nobody fails, gives up or forces a refresh.
* `Crowd.Young`: no answer that was applied is as old as the refresh interval.
* `Crowd.Shared`: the invariant of calm runs while the answers are young.
-/

namespace ConnectionRouter

/-- An event of a run in which queries succeed, no call is abandoned and no refresh is forced. -/
def CrowdEvent.Calm : CrowdEvent → Prop
  | .arrive _ _ answer => ∃ members, Member.ofAnswer answer = .ok members
  | .abandon _ => False
  | .touch t => t ≠ .forceRefresh
  | .step _ | .advance _ => True

namespace Crowd

/-- No answer that was applied is as old as the refresh interval. -/
def Young (s : Crowd) : Prop := ∀ a ∈ s.applied, s.now - a.2 < s.balancer.settings.refreshInterval

/-- What holds in calm runs while the answers are young: one query is asked at most, and nobody is
done before its answer was applied. -/
structure Shared (s : Crowd) : Prop where
  succeeds : ∀ (c : Caller) (v : Visit), s.visits[c]? = some v → ¬v.Fails
  stays : ∀ (c : Caller) (v : Visit), s.visits[c]? = some v → v.point ≠ .abandoned
  /-- The last refresh is known from the first answer on. -/
  lastRefresh : s.applied ≠ [] → ∃ a ∈ s.applied, s.balancer.pool.lastRefresh = some a.2
  applied_of_known :
    s.balancer.pool.hasSnapshot = true ∨ s.balancer.pool.lastRefresh ≠ none → s.applied ≠ []
  applied_of_answered : ∀ (c : Caller) (v : Visit) (ok : Bool), s.visits[c]? = some v →
    v.point = .leaving ok ∨ v.point = .done ok → s.applied ≠ []
  oneAsked : s.asked.length ≤ 1

/-- Answers stay applied, and the clock does not go back. -/
theorem applied_now_after (s : Crowd) (e : CrowdEvent) :
    s.applied ⊆ (s.after e).applied ∧ s.now ≤ (s.after e).now := by
  cases e with
  | arrive control delay answer => exact ⟨fun _ h => h, Nat.le_refl _⟩
  | step c =>
    rcases s.step_cases c with he | ⟨v, b, point, -, -, he⟩
    · rw [after, he]
      exact ⟨fun _ h => h, Nat.le_refl _⟩
    · rw [after, he]
      exact ⟨List.subset_append_left _ _, Nat.le_refl _⟩
  | abandon c =>
    rcases s.abandon_cases c with he | ⟨v, -, -, he⟩
    · rw [after, he]
      exact ⟨fun _ h => h, Nat.le_refl _⟩
    · rw [after, he]
      exact ⟨fun _ h => h, Nat.le_refl _⟩
  | touch t => exact ⟨fun _ h => h, Nat.le_refl _⟩
  | advance d => exact ⟨fun _ h => h, Nat.le_add_right _ _⟩

theorem young_of_after {s : Crowd} {e : CrowdEvent} (h : (s.after e).Young) : s.Young := by
  intro a ha
  obtain ⟨hsub, hnow⟩ := s.applied_now_after e
  have hlate := h a (hsub ha)
  rw [settings_after] at hlate
  exact Nat.lt_of_le_of_lt (Nat.sub_le_sub_right hnow _) hlate

namespace Shared

variable {s : Crowd}

/-- After the first answer no refresh is due while the answers are young. -/
theorem applied_eq_nil_of_due (h : s.Shared) (hyoung : s.Young)
    (hdue : s.balancer.needsRefresh s.now = true) : s.applied = [] := by
  by_contra hne
  obtain ⟨a, ha, hlast⟩ := h.lastRefresh hne
  rcases Balancer.needsRefresh_iff.mp hdue with hnone | ⟨at_, hat, hold⟩
  · rw [hlast] at hnone
    cases hnone
  · rw [hlast] at hat
    cases hat
    exact absurd (hyoung a ha) (Nat.not_lt.mpr hold)

/-- While no answer was applied, a call that asked has its query under way. -/
theorem querying_of_asked (h : s.Shared) (hr : s.Recorded) (hnone : s.applied = []) {c : Caller}
    (hc : c ∈ s.asked) : ∃ v since, s.visits[c]? = some v ∧ v.point = .querying since := by
  obtain ⟨v, hv⟩ : ∃ v, s.visits[c]? = some v :=
    ⟨_, List.getElem?_eq_getElem (hr.lt_length c hc)⟩
  have hrec := hr.visit c v hv
  refine ⟨v, ?_⟩
  cases hp : v.point with
  | querying since => exact ⟨since, hv, rfl⟩
  | leaving ok => exact absurd hnone (h.applied_of_answered c v ok hv (.inl hp))
  | done ok => exact absurd hnone (h.applied_of_answered c v ok hv (.inr hp))
  | abandoned => exact absurd hp (h.stays c v hv)
  | arrived | due | barred | unserved | queued | holding =>
    rw [Visit.Recorded, hp] at hrec
    exact absurd hc hrec

/-- A call asks only if nobody has asked before. -/
theorem asked_eq_nil_of_ask (h : s.Shared) (ho : s.Orderly) (hr : s.Recorded) (hyoung : s.Young)
    {c : Caller} {v : Visit} (hv : s.visits[c]? = some v) (hp : v.point = .holding)
    (hdue : s.balancer.needsRefresh s.now = true) : s.asked = [] := by
  refine List.eq_nil_iff_forall_not_mem.mpr fun d hd => ?_
  obtain ⟨w, since, hw, hq⟩ := h.querying_of_asked hr (h.applied_eq_nil_of_due hyoung hdue) hd
  have hsame : d = c := ho.eq_of_inside hw (by simp [hq, CallPoint.Inside]) hv
    (by simp [hp, CallPoint.Inside])
  subst hsame
  cases hv.symm.trans hw
  rw [hp] at hq
  cases hq

/-- One call moves without an answer. -/
theorem setPoint (h : s.Shared) {c : Caller} {v : Visit} (hv : s.visits[c]? = some v)
    {b : Balancer} {point : CallPoint} {asked : List Caller}
    (hpool : b.pool = s.balancer.pool) (happlies : v.point.applies c s.now point = [])
    (hasked : asked.length ≤ 1) (hstays : point ≠ .abandoned)
    (hanswered : ∀ ok, point = .leaving ok ∨ point = .done ok → s.applied ≠ []) :
    Shared { s with
      balancer := b
      visits := s.visits.set c { v with point := point }
      asked := asked
      applied := s.applied ++ v.point.applies c s.now point } := by
  rw [happlies, List.append_nil]
  refine ⟨fun d w hw => ?_, fun d w hw => ?_, ?_, ?_, fun d w ok hw hp => ?_, hasked⟩
  · rcases getElem?_visits_set hv hw with ⟨-, rfl⟩ | ⟨-, hw⟩
    · exact h.succeeds c v hv
    · exact h.succeeds d w hw
  · rcases getElem?_visits_set hv hw with ⟨-, rfl⟩ | ⟨-, hw⟩
    · exact hstays
    · exact h.stays d w hw
  · simpa [hpool] using h.lastRefresh
  · simpa [hpool] using h.applied_of_known
  · rcases getElem?_visits_set hv hw with ⟨-, rfl⟩ | ⟨-, hw⟩
    · exact hanswered ok hp
    · exact h.applied_of_answered d w ok hw hp

/-- The answer of a call is applied. -/
theorem setApplied (h : s.Shared) {c : Caller} {v : Visit} (hv : s.visits[c]? = some v)
    (snapshot : Snapshot) :
    Shared { s with
      balancer := s.balancer.applySnapshot snapshot s.now
      visits := s.visits.set c { v with point := .leaving true }
      applied := s.applied ++ [(c, s.now)] } := by
  have hsome : s.applied ++ [(c, s.now)] ≠ [] := by simp
  refine ⟨fun d w hw => ?_, fun d w hw => ?_, fun _ => ?_, fun _ => hsome, fun _ _ _ _ _ => hsome,
    h.oneAsked⟩
  · rcases getElem?_visits_set hv hw with ⟨-, rfl⟩ | ⟨-, hw⟩
    · exact h.succeeds c v hv
    · exact h.succeeds d w hw
  · rcases getElem?_visits_set hv hw with ⟨-, rfl⟩ | ⟨-, hw⟩
    · exact CallPoint.noConfusion
    · exact h.stays d w hw
  · exact ⟨(c, s.now), List.mem_append_right _ List.mem_cons_self, rfl⟩

theorem step (h : s.Shared) (ho : s.Orderly) (hr : s.Recorded) (hyoung : s.Young) (c : Caller) :
    (s.step c).Shared := by
  rcases s.step_cases c with he | ⟨v, b, point, hv, ha, he⟩
  · rwa [he]
  rw [he]
  have hquiet : (s.asked ++ []).length ≤ 1 := by simpa using h.oneAsked
  have hfresh : s.balancer.needsRefresh s.now = false → s.applied ≠ [] := by
    intro hd
    refine h.applied_of_known (.inr fun hnone => ?_)
    rw [Balancer.needsRefresh, hnone] at hd
    cases hd
  cases ha with
  | due hp | barred hp | unserved hp | wait hp | granted hp =>
    refine h.setPoint hv rfl (by rw [hp]; rfl) hquiet CallPoint.noConfusion ?_
    rintro ok (hok | hok) <;> cases hok
  | take hp ht =>
    have happlies : v.point.applies c s.now .holding = [] := by
      rcases hp with hp | hp <;> rw [hp] <;> rfl
    refine h.setPoint hv rfl happlies hquiet CallPoint.noConfusion ?_
    rintro ok (hok | hok) <;> cases hok
  | fresh hp hd =>
    exact h.setPoint hv rfl (by rw [hp]; rfl) hquiet CallPoint.noConfusion fun _ _ => hfresh hd
  | served hp hs =>
    exact h.setPoint hv rfl (by rw [hp]; rfl) hquiet CallPoint.noConfusion fun _ _ =>
      h.applied_of_known (.inl hs)
  | spare hp hd =>
    exact h.setPoint hv rfl (by rw [hp]; rfl) hquiet CallPoint.noConfusion fun _ _ => hfresh hd
  | ask hp hd =>
    have hnone := h.asked_eq_nil_of_ask ho hr hyoung hv hp hd
    refine h.setPoint hv rfl (by rw [hp]; rfl) ?_ CallPoint.noConfusion ?_
    · rw [hnone]
      exact Nat.le_refl 1
    · rintro ok (hok | hok) <;> cases hok
  | fail hp hf => exact absurd hf (h.succeeds c v hv)
  | apply hp ha =>
    rw [hp]
    simpa [CallPoint.asks, CallPoint.applies] using h.setApplied hv _
  | leave hp =>
    exact h.setPoint hv rfl (by rw [hp]; rfl) hquiet CallPoint.noConfusion fun _ _ =>
      h.applied_of_answered c v _ hv (.inl hp)

theorem after (h : s.Shared) (ho : s.Orderly) (hr : s.Recorded) (hyoung : s.Young)
    {e : CrowdEvent} (he : e.Calm) : (s.after e).Shared := by
  cases e with
  | arrive control delay answer =>
    obtain ⟨members, hok⟩ := he
    refine ⟨fun d w hw => ?_, fun d w hw => ?_, h.lastRefresh, h.applied_of_known,
      fun d w ok hw hp => ?_, h.oneAsked⟩
    · rcases getElem?_visits_concat hw with hw | ⟨-, rfl⟩
      · exact h.succeeds d w hw
      · rintro ⟨e, herr⟩
        cases hok.symm.trans herr
    · rcases getElem?_visits_concat hw with hw | ⟨-, rfl⟩
      · exact h.stays d w hw
      · exact CallPoint.noConfusion
    · rcases getElem?_visits_concat hw with hw | ⟨-, rfl⟩
      · exact h.applied_of_answered d w ok hw hp
      · rcases hp with hp | hp <;> cases hp
  | step c => exact h.step ho hr hyoung c
  | abandon c => exact absurd he id
  | touch t =>
    have hlast : (s.balancer.touch s.now t).pool.lastRefresh = s.balancer.pool.lastRefresh := by
      rw [Balancer.lastRefresh_touch, if_neg he]
    refine ⟨h.succeeds, h.stays, ?_, ?_, h.applied_of_answered, h.oneAsked⟩
    · simpa [Crowd.after, hlast] using h.lastRefresh
    · simpa [Crowd.after, hlast] using h.applied_of_known
  | advance d =>
    exact ⟨h.succeeds, h.stays, h.lastRefresh, h.applied_of_known, h.applied_of_answered,
      h.oneAsked⟩

end Shared

variable (preference : Option Preference) (settings : BalancerSettings)

theorem shared_run (events : List CrowdEvent) (hcalm : ∀ e ∈ events, e.Calm) :
    (run preference settings events).Young → (run preference settings events).Shared := by
  induction events using List.reverseRecOn with
  | nil => exact fun _ => ⟨by simp [run, runFrom], by simp [run, runFrom], by simp [run, runFrom],
      by simp [run, runFrom], by simp [run, runFrom], by simp [run, runFrom]⟩
  | append_singleton events e ih =>
    intro hyoung
    rw [run_concat] at hyoung ⊢
    have hbefore := young_of_after hyoung
    have hshared := ih (fun e he => hcalm e (List.mem_append_left _ he)) hbefore
    exact hshared.after (orderly_run _ _ _) (recorded_run _ _ _) hbefore
      (hcalm e (List.mem_append_right _ List.mem_cons_self))

/-- In a calm run with young answers at most one query is asked, exactly one once a call is done,
and no call fails. -/
theorem one_query_run {events : List CrowdEvent} (hcalm : ∀ e ∈ events, e.Calm)
    (hyoung : (run preference settings events).Young) :
    (run preference settings events).asked.length ≤ 1 ∧
      ∀ (c : Caller) (v : Visit) (ok : Bool), (run preference settings events).visits[c]? = some v →
        v.point = .done ok → ok = true ∧ (run preference settings events).asked.length = 1 := by
  have hshared := shared_run preference settings events hcalm hyoung
  have hrec := recorded_run preference settings events
  refine ⟨hshared.oneAsked, fun c v ok hv hp => ⟨?_, ?_⟩⟩
  · have hr := hrec.visit c v hv
    rw [Visit.Recorded, hp] at hr
    cases ok with
    | true => rfl
    | false => exact absurd (hr.1.mp rfl).2 (hshared.succeeds c v hv)
  · have hsome := hshared.applied_of_answered c v ok hv (.inr hp)
    have hle := hrec.sublist.length_le
    have hpos : 0 < (run preference settings events).appliers.length := by
      rw [appliers, List.length_map]
      exact List.length_pos_iff.mpr hsome
    have hone := hshared.oneAsked
    omega

end Crowd

end ConnectionRouter
