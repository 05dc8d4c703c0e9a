import ConnectionRouter.Proofs.Balancer.Crowd
import ConnectionRouter.Proofs.Balancer.Turn

/-!
# Order in a crowd

Two invariants of a crowd, each kept by every event.

* `Crowd.Orderly`: the turn knows exactly the calls that stand at it, and a call that acts as its
  holder is its holder. So at most one query is under way.
* `Crowd.Recorded`: a call was asked before it is answered, and the caller whose query is under way
  is the last one that asked. So answers are applied in the order of their queries.

`Crowd.orderly_run` and `Crowd.recorded_run` are the run lemmas.
-/

namespace ConnectionRouter

namespace Crowd

/-! ## Who stands at the turn -/

/-- The turn knows exactly the calls that stand at it, each once, and a call that acts as its holder
is its holder. -/
structure Orderly (s : Crowd) : Prop where
  nodup : s.balancer.turn.members.Nodup
  fair : s.balancer.turn.Fair
  standing : ∀ d, d ∈ s.balancer.turn.members ↔ ∃ v, s.visits[d]? = some v ∧ v.point.AtTurn
  inside : ∀ d v, s.visits[d]? = some v → v.point.Inside → s.balancer.turn.holder = some d

namespace Orderly

variable {s : Crowd} {c d : Caller} {v w : Visit}

theorem mem_members_iff (h : s.Orderly) (hv : s.visits[c]? = some v) :
    c ∈ s.balancer.turn.members ↔ v.point.AtTurn := by
  rw [h.standing c, hv]
  simp

theorem eq_of_inside (h : s.Orderly) (hv : s.visits[c]? = some v) (hc : v.point.Inside)
    (hw : s.visits[d]? = some w) (hd : w.point.Inside) : c = d :=
  Option.some.inj ((h.inside c v hv hc).symm.trans (h.inside d w hw hd))

/-- The first that waits is another call than the holder, and its call waits. -/
theorem queued_of_waiting (h : s.Orderly) {rest : List Caller}
    (hh : s.balancer.turn.holder = some c) (hw : s.balancer.turn.waiting = d :: rest) :
    d ≠ c ∧ ∃ w, s.visits[d]? = some w ∧ w.point = .queued := by
  have hmembers : s.balancer.turn.members = c :: d :: rest := by simp [Turn.members, hh, hw]
  have hne : d ≠ c := by
    have hn := h.nodup
    rw [hmembers] at hn
    rintro rfl
    exact (List.nodup_cons.mp hn).1 List.mem_cons_self
  have hd : d ∈ s.balancer.turn.members := by simp [hmembers]
  obtain ⟨w, hw, hat⟩ := (h.standing d).mp hd
  refine ⟨hne, w, hw, ?_⟩
  have houtside : ¬w.point.Inside := fun hin =>
    hne (Option.some.inj ((h.inside d w hw hin).symm.trans hh))
  revert hat houtside
  cases w.point <;> simp [CallPoint.AtTurn, CallPoint.Inside]

/-- One call moves: what it does to the turn leaves the others alone, and it stands at the turn
exactly if its new point says so. -/
theorem set (h : s.Orderly) (hv : s.visits[c]? = some v) {b : Balancer} {point : CallPoint}
    (asked : List Caller) (applied : List (Caller × Instant))
    (hothers : s.balancer.turn.KeepsOthers c b.turn) (hnodup : b.turn.members.Nodup)
    (hfair : b.turn.Fair) (hmem : c ∈ b.turn.members ↔ point.AtTurn)
    (hinside : point.Inside → b.turn.holder = some c) :
    Orderly { s with
      balancer := b
      visits := s.visits.set c { v with point := point }
      asked := asked
      applied := applied } := by
  have hlt : c < s.visits.length := (List.getElem?_eq_some_iff.mp hv).1
  refine ⟨hnodup, hfair, fun d => ?_, fun d w hw hin => ?_⟩
  · by_cases hd : d = c
    · subst hd
      simpa [hlt] using hmem
    · simp only [List.getElem?_set_ne (Ne.symm hd)]
      rw [hothers.mem_iff d hd]
      exact h.standing d
  · rcases getElem?_visits_set hv hw with ⟨rfl, rfl⟩ | ⟨hd, hw⟩
    · exact hinside hin
    · exact hothers.holder d hd (h.inside d w hw hin)

/-- One call moves and leaves the turn as it is. -/
theorem setPoint (h : s.Orderly) (hv : s.visits[c]? = some v) {b : Balancer} {point : CallPoint}
    (asked : List Caller) (applied : List (Caller × Instant))
    (hturn : b.turn = s.balancer.turn) (hat : point.AtTurn ↔ v.point.AtTurn)
    (hinside : point.Inside → s.balancer.turn.holder = some c) :
    Orderly { s with
      balancer := b
      visits := s.visits.set c { v with point := point }
      asked := asked
      applied := applied } := by
  refine h.set hv asked applied ?_ ?_ ?_ ?_ ?_
  · rw [hturn]
    exact .refl c _
  · rw [hturn]
    exact h.nodup
  · rw [hturn]
    exact h.fair
  · rw [hturn, hat]
    exact h.mem_members_iff hv
  · rw [hturn]
    exact hinside

theorem step (h : s.Orderly) (c : Caller) : (s.step c).Orderly := by
  rcases s.step_cases c with he | ⟨v, b, point, hv, ha, he⟩
  · rwa [he]
  rw [he]
  have hmem := h.mem_members_iff hv
  cases ha with
  | due hp hd | fresh hp hd | barred hp ht | served hp hs | unserved hp hs =>
    refine h.setPoint hv _ _ rfl ?_ ?_ <;> simp [hp, CallPoint.AtTurn, CallPoint.Inside]
  | take hp ht =>
    have hout : c ∉ s.balancer.turn.members := by
      rcases hp with hp | hp <;> simp [hmem, hp, CallPoint.AtTurn]
    obtain ⟨hholder, hin⟩ := Turn.mem_members_of_take ht
    exact h.set hv _ _ (Turn.keepsOthers_take ht) (Turn.nodup_members_take h.nodup hout ht)
      (Turn.fair_take ht) (by simp [hin, CallPoint.AtTurn]) fun _ => hholder
  | wait hp ht =>
    have hout : c ∉ s.balancer.turn.members := by simp [hmem, hp, CallPoint.AtTurn]
    exact h.set hv _ _ (Turn.keepsOthers_wait _ c) (Turn.nodup_members_wait h.nodup hout)
      (Turn.fair_wait ht) (by simp [Turn.members, Turn.wait, CallPoint.AtTurn])
      (by simp [CallPoint.Inside])
  | granted hp ht =>
    refine h.setPoint hv _ _ rfl ?_ fun _ => Turn.isHeldBy_iff.mp ht
    simp [hp, CallPoint.AtTurn]
  | ask hp hd | spare hp hd | fail hp hf | apply hp ha =>
    have hholder := h.inside c v hv (by simp [hp, CallPoint.Inside])
    refine h.setPoint hv _ _ rfl ?_ fun _ => hholder
    simp [hp, CallPoint.AtTurn]
  | leave hp =>
    have hgone := Turn.not_mem_members_leave h.nodup c
    exact h.set hv _ _ (Turn.keepsOthers_leave _ c) (Turn.nodup_members_leave h.nodup c)
      (Turn.fair_leave h.fair c) (by simp [hgone, CallPoint.AtTurn]) (by simp [CallPoint.Inside])

theorem abandon (h : s.Orderly) (c : Caller) : (s.abandon c).Orderly := by
  rcases s.abandon_cases c with he | ⟨v, hv, -, he⟩
  · rwa [he]
  rw [he]
  have hgone := Turn.not_mem_members_leave h.nodup c
  exact h.set hv _ _ (Turn.keepsOthers_leave _ c) (Turn.nodup_members_leave h.nodup c)
    (Turn.fair_leave h.fair c) (by simp [Balancer.abandonRefresh, hgone, CallPoint.AtTurn])
    (by simp [CallPoint.Inside])

/-- A new call stands nowhere. -/
theorem arrive (h : s.Orderly) (w : Visit) (hw : w.point = .arrived) :
    Orderly { s with visits := s.visits ++ [w] } := by
  refine ⟨h.nodup, h.fair, fun d => ?_, fun d v hv hin => ?_⟩
  · rw [h.standing d]
    constructor
    · rintro ⟨v, hv, hat⟩
      refine ⟨v, ?_, hat⟩
      exact List.getElem?_append_left (List.getElem?_eq_some_iff.mp hv).1 ▸ hv
    · rintro ⟨v, hv, hat⟩
      rcases getElem?_visits_concat hv with hv | ⟨-, rfl⟩
      · exact ⟨v, hv, hat⟩
      · simp [hw, CallPoint.AtTurn] at hat
  · rcases getElem?_visits_concat hv with hv | ⟨-, rfl⟩
    · exact h.inside d v hv hin
    · simp [hw, CallPoint.Inside] at hin

theorem after (h : s.Orderly) (e : CrowdEvent) : (s.after e).Orderly := by
  cases e with
  | arrive control delay answer => exact h.arrive _ rfl
  | step c => exact h.step c
  | abandon c => exact h.abandon c
  | touch t =>
    have hturn := s.balancer.turn_touch s.now t
    exact ⟨by simpa [Crowd.after] using h.nodup, by simpa [Crowd.after] using h.fair,
      by simpa [Crowd.after] using h.standing, by simpa [Crowd.after] using h.inside⟩
  | advance d => exact ⟨h.nodup, h.fair, h.standing, h.inside⟩

end Orderly

end Crowd

/-! ## What is on record of a call -/

/-- What the record of queries and answers says of a call: before its query it has not asked, while
the query is under way it is the last that asked, and afterwards the call fails exactly if its query
did. -/
def Visit.Recorded (v : Visit) (c : Caller) (asked appliers : List Caller) : Prop :=
  match v.point with
  | .querying _ => ∃ front, asked = front ++ [c] ∧ List.Sublist appliers front
  | .leaving ok | .done ok => (ok = false ↔ c ∈ asked ∧ v.Fails) ∧ (c ∈ appliers → ok = true)
  | .abandoned => c ∉ appliers
  | _ => c ∉ asked

/-- The record of a call does not change with what others ask and apply, unless its query is under
way. -/
theorem Visit.Recorded.congr {v : Visit} {c : Caller}
    {asked asked' appliers appliers' : List Caller}
    (h : Visit.Recorded v c asked appliers) (hq : v.point.isQuerying = false)
    (hasked : c ∈ asked' ↔ c ∈ asked) (happliers : c ∈ appliers' ↔ c ∈ appliers) :
    Visit.Recorded v c asked' appliers' := by
  unfold Visit.Recorded at *
  split at h <;> rename_i hp <;> simp_all [CallPoint.isQuerying]

namespace Crowd

/-- Answers are applied in the order of their queries, a call asks once, and every call is recorded
as it stands. -/
structure Recorded (s : Crowd) : Prop where
  nodup : s.asked.Nodup
  sublist : s.appliers.Sublist s.asked
  lt_length : ∀ c ∈ s.asked, c < s.visits.length
  visit : ∀ (c : Caller) (v : Visit), s.visits[c]? = some v → v.Recorded c s.asked s.appliers

namespace Recorded

variable {s : Crowd} {c d : Caller} {v w : Visit}

/-- A call whose query is under way is the last that asked. -/
theorem last_asked (h : s.Recorded) (hv : s.visits[c]? = some v) {since : Instant}
    (hp : v.point = .querying since) :
    ∃ front, s.asked = front ++ [c] ∧ s.appliers.Sublist front ∧ c ∉ front := by
  have hr := h.visit c v hv
  rw [Visit.Recorded, hp] at hr
  obtain ⟨front, hasked, hsub⟩ := hr
  have hn := h.nodup
  rw [hasked] at hn
  refine ⟨front, hasked, hsub, fun hc => ?_⟩
  exact (List.nodup_append.mp hn).2.2 c hc c (List.mem_singleton_self c) rfl

/-- One call moves, and the record of every call is told anew. -/
theorem set (h : s.Recorded) (hv : s.visits[c]? = some v) (b : Balancer) {point : CallPoint}
    {asked : List Caller} {applied : List (Caller × Instant)} (hnodup : asked.Nodup)
    (hsub : (applied.map (·.1)).Sublist asked) (hmem : ∀ d ∈ asked, d = c ∨ d ∈ s.asked)
    (hself : Visit.Recorded { v with point := point } c asked (applied.map (·.1)))
    (hothers : ∀ (d : Caller) (w : Visit), d ≠ c → s.visits[d]? = some w →
      w.Recorded d asked (applied.map (·.1))) :
    Recorded { s with
      balancer := b
      visits := s.visits.set c { v with point := point }
      asked := asked
      applied := applied } := by
  have hlt : c < s.visits.length := (List.getElem?_eq_some_iff.mp hv).1
  refine ⟨hnodup, hsub, fun d hd => ?_, fun d w hw => ?_⟩
  · rw [List.length_set]
    rcases hmem d hd with rfl | hd
    · exact hlt
    · exact h.lt_length d hd
  · rcases getElem?_visits_set hv hw with ⟨rfl, rfl⟩ | ⟨hd, hw⟩
    · exact hself
    · exact hothers d w hd hw

/-- One call moves without a query or an answer. -/
theorem setPoint (h : s.Recorded) (hv : s.visits[c]? = some v) (b : Balancer) {point : CallPoint}
    (hasks : point.asks c = []) (happlies : v.point.applies c s.now point = [])
    (hself : Visit.Recorded { v with point := point } c s.asked s.appliers) :
    Recorded { s with
      balancer := b
      visits := s.visits.set c { v with point := point }
      asked := s.asked ++ point.asks c
      applied := s.applied ++ v.point.applies c s.now point } := by
  rw [hasks, happlies, List.append_nil, List.append_nil]
  exact h.set hv b h.nodup h.sublist (fun _ => .inr) hself fun d w _ => h.visit d w

/-- A call that acts as the holder asks, while nobody's query is under way. -/
theorem ask (h : s.Recorded) (hv : s.visits[c]? = some v) (hp : v.point = .holding)
    (hquiet : ∀ (d : Caller) (w : Visit), d ≠ c → s.visits[d]? = some w →
      w.point.isQuerying = false) (b : Balancer) :
    Recorded { s with
      balancer := b
      visits := s.visits.set c { v with point := .querying s.now }
      asked := s.asked ++ [c] } := by
  have hr := h.visit c v hv
  have hnot : c ∉ s.asked := by simpa [Visit.Recorded, hp] using hr
  have hnodup : (s.asked ++ [c]).Nodup := List.nodup_append.mpr
    ⟨h.nodup, List.nodup_singleton c, by
      rintro a ha b hb rfl
      exact hnot (List.mem_singleton.mp hb ▸ ha)⟩
  refine h.set hv b hnodup (h.sublist.trans (List.sublist_append_left _ _)) ?_
    ⟨s.asked, rfl, h.sublist⟩ ?_
  · intro d hd
    rcases List.mem_append.mp hd with hd | hd
    · exact .inr hd
    · exact .inl (List.mem_singleton.mp hd)
  · intro d w hd hw
    refine (h.visit d w hw).congr (hquiet d w hd hw) ?_ Iff.rfl
    simp [hd]

/-- The answer of the only query that is under way is applied. -/
theorem apply (h : s.Recorded) (hv : s.visits[c]? = some v) {since : Instant}
    (hp : v.point = .querying since) (hgood : ¬v.Fails)
    (hquiet : ∀ (d : Caller) (w : Visit), d ≠ c → s.visits[d]? = some w →
      w.point.isQuerying = false) (b : Balancer) :
    Recorded { s with
      balancer := b
      visits := s.visits.set c { v with point := .leaving true }
      applied := s.applied ++ [(c, s.now)] } := by
  obtain ⟨front, hasked, hsub, -⟩ := h.last_asked hv hp
  have hmore : (s.applied ++ [(c, s.now)]).map (·.1) = s.appliers ++ [c] := by
    rw [List.map_append]
    rfl
  refine h.set hv b h.nodup ?_ (fun _ => .inr) ?_ ?_
  · rw [hmore, hasked]
    exact hsub.append (List.Sublist.refl _)
  · exact ⟨⟨Bool.noConfusion, fun hf => absurd hf.2 hgood⟩, fun _ => rfl⟩
  · intro d w hd hw
    refine (h.visit d w hw).congr (hquiet d w hd hw) Iff.rfl ?_
    rw [hmore]
    simp [hd]

theorem step (h : s.Recorded) (ho : s.Orderly) (c : Caller) : (s.step c).Recorded := by
  rcases s.step_cases c with he | ⟨v, b, point, hv, ha, he⟩
  · rwa [he]
  rw [he]
  have hr := h.visit c v hv
  -- while this call acts as the holder, no query of another is under way
  have hquiet : v.point.Inside → ∀ (d : Caller) (w : Visit), d ≠ c → s.visits[d]? = some w →
      w.point.isQuerying = false := by
    intro hin d w hd hw
    cases hq : w.point with
    | querying since =>
      have hwin : w.point.Inside := by simp [hq, CallPoint.Inside]
      exact absurd (ho.eq_of_inside hw hwin hv hin) hd
    | _ => rfl
  cases ha with
  | due hp hd | barred hp ht | unserved hp hs | wait hp ht | granted hp ht =>
    refine h.setPoint hv _ rfl (by rw [hp]; rfl) ?_
    simpa [Visit.Recorded, hp] using hr
  | fresh hp hd | served hp hs | spare hp hd =>
    have hnot : c ∉ s.asked := by simpa [Visit.Recorded, hp] using hr
    refine h.setPoint hv _ rfl (by rw [hp]; rfl) ?_
    exact ⟨⟨Bool.noConfusion, fun hf => absurd hf.1 hnot⟩, fun _ => rfl⟩
  | take hp ht =>
    rcases hp with hp | hp
    · refine h.setPoint hv _ rfl (by rw [hp]; rfl) ?_
      simpa [Visit.Recorded, hp] using hr
    · refine h.setPoint hv _ rfl (by rw [hp]; rfl) ?_
      simpa [Visit.Recorded, hp] using hr
  | ask hp hd =>
    have hsame : s.applied ++ v.point.applies c s.now (.querying s.now) = s.applied := by
      rw [hp]
      exact List.append_nil _
    rw [hsame]
    exact h.ask hv hp (hquiet (by simp [hp, CallPoint.Inside])) _
  | fail hp hf =>
    obtain ⟨front, hasked, hsub, hnot⟩ := h.last_asked hv hp
    have hunapplied : c ∉ s.appliers := fun hc => hnot (hsub.subset hc)
    have hin : c ∈ s.asked := by simp [hasked]
    refine h.setPoint hv _ rfl (by rw [hp]; rfl) ?_
    exact ⟨⟨fun _ => ⟨hin, hf⟩, fun _ => rfl⟩, fun hc => absurd hc hunapplied⟩
  | apply hp ha =>
    have hsame : s.asked ++ (CallPoint.leaving true).asks c = s.asked := List.append_nil _
    have hmore : v.point.applies c s.now (.leaving true) = [(c, s.now)] := by
      rw [hp]
      rfl
    have hgood : ¬v.Fails := by
      rintro ⟨e, he⟩
      rw [ha] at he
      cases he
    rw [hsame, hmore]
    exact h.apply hv hp hgood (hquiet (by simp [hp, CallPoint.Inside])) _
  | leave hp =>
    refine h.setPoint hv _ rfl (by rw [hp]; rfl) ?_
    rw [Visit.Recorded, hp] at hr
    exact hr

theorem abandon (h : s.Recorded) (c : Caller) : (s.abandon c).Recorded := by
  rcases s.abandon_cases c with he | ⟨v, hv, hstops, he⟩
  · rwa [he]
  rw [he]
  refine h.set hv _ h.nodup h.sublist (fun _ => .inr) ?_ fun d w _ => h.visit d w
  change c ∉ s.appliers
  intro hc
  have hr := h.visit c v hv
  have hasked := h.sublist.subset hc
  cases hp : v.point with
  | querying since =>
    obtain ⟨front, -, hsub, hnot⟩ := h.last_asked hv hp
    exact hnot (hsub.subset hc)
  | arrived | queued =>
    rw [Visit.Recorded, hp] at hr
    exact hr hasked
  | due | barred | unserved | holding | leaving | done | abandoned =>
    simp [hp, CallPoint.stops] at hstops

/-- A new call has not asked. -/
theorem arrive (h : s.Recorded) (w : Visit) (hw : w.point = .arrived) :
    Recorded { s with visits := s.visits ++ [w] } := by
  refine ⟨h.nodup, h.sublist, fun d hd => ?_, fun d v hv => ?_⟩
  · exact Nat.lt_of_lt_of_le (h.lt_length d hd) (by simp)
  · rcases getElem?_visits_concat hv with hv | ⟨rfl, rfl⟩
    · exact h.visit d v hv
    · rw [Visit.Recorded, hw]
      exact fun hd => absurd (h.lt_length _ hd) (Nat.lt_irrefl _)

theorem after (h : s.Recorded) (ho : s.Orderly) (e : CrowdEvent) : (s.after e).Recorded := by
  cases e with
  | arrive control delay answer => exact h.arrive _ rfl
  | step c => exact h.step ho c
  | abandon c => exact h.abandon c
  | touch t => exact ⟨h.nodup, h.sublist, h.lt_length, h.visit⟩
  | advance d => exact ⟨h.nodup, h.sublist, h.lt_length, h.visit⟩

end Recorded

/-! ## Runs -/

theorem orderly_start (preference : Option Preference) (settings : BalancerSettings) :
    Orderly { balancer := { preference, settings } } :=
  ⟨List.nodup_nil, Turn.fair_empty, by simp [Turn.members], by simp⟩

theorem recorded_start (preference : Option Preference) (settings : BalancerSettings) :
    Recorded { balancer := { preference, settings } } :=
  ⟨List.nodup_nil, List.Sublist.refl _, by simp, by simp⟩

theorem orderly_recorded_runFrom (events : List CrowdEvent) :
    ∀ {s : Crowd}, s.Orderly → s.Recorded →
      (s.runFrom events).Orderly ∧ (s.runFrom events).Recorded := by
  induction events with
  | nil => exact fun ho hr => ⟨ho, hr⟩
  | cons e events ih => exact fun ho hr => ih (ho.after e) (hr.after ho e)

variable (preference : Option Preference) (settings : BalancerSettings) (events : List CrowdEvent)

theorem orderly_run : (run preference settings events).Orderly :=
  (orderly_recorded_runFrom events (orderly_start _ _) (recorded_start _ _)).1

theorem recorded_run : (run preference settings events).Recorded :=
  (orderly_recorded_runFrom events (orderly_start _ _) (recorded_start _ _)).2

end Crowd

end ConnectionRouter
