import ConnectionRouter.Proofs.Balancer.CrowdOrder
import ConnectionRouter.Proofs.Pool.Count
import Mathlib.Data.List.Induction

/-!
# A crowd with its ledger

What refreshes and everything beside them count in the ledger of metrics. An access counts at most
one outcome of a refresh (`CallPoint.outcome?`), a touch what its operation yields
(`Balancer.touchMetric`).

A call that gets the turn and finds that no refresh is due any more ends without being counted: it
is spared its query (`CallPoint.spares`).

* `Balancer.Touched`: a touch adjusts one count and tells the new one, or fails a host, or rests.
* `MeteredCrowd`: a crowd, its ledger, and who was spared.
* `MeteredCrowd.crowd_run`: the crowd does not depend on what is counted.
* `MeteredCrowd.step_cases`: what an access does to all three.
-/

namespace ConnectionRouter

/-- Who is spared a query when a call comes from one point to another. -/
def CallPoint.spares (c : Caller) : CallPoint → CallPoint → List Caller
  | holding, leaving _ => [c]
  | _, _ => []

/-! ## Touches -/

namespace Balancer

/-- Whose count a touch adjusts, and by how much. -/
def adjusts? (b : Balancer) : Touch → Option (HostKey × Int)
  | .reserve excluding pick => (b.reserve excluding pick).2.1.map fun (host, _) => (host, 1)
  | .adjust host delta => some (host, delta)
  | .release host => some (host, -1)
  | .forceRefresh | .markFailed _ => none

/-- What a touch does to the counts, and what it counts. -/
inductive Touched (b : Balancer) (now : Instant) (t : Touch) : Prop
  | rested (hadjusts : b.adjusts? t = none) (hfails : ∀ host, t ≠ .markFailed host)
      (hcounts : (b.touch now t).pool.counts = b.pool.counts)
      (hstashed : (b.touch now t).pool.stashed = b.pool.stashed)
      (hmetric : b.touchMetric now t = none)
  | failed {host : HostKey} (ht : t = .markFailed host)
      (hmetric : b.touchMetric now t = none ∨ b.touchMetric now t = some (.quarantined host))
  /-- The new count is told, if the host is tracked. -/
  | adjusted {host : HostKey} {delta : Int} (hadjusts : b.adjusts? t = some (host, delta))
      (hpool : (b.touch now t).pool = (b.pool.adjust host delta).1)
      (hmetric : b.touchMetric now t =
        ((b.pool.adjust host delta).2).map (.hostConnections host))

end Balancer

theorem Balancer.touched (b : Balancer) (now : Instant) (t : Touch) : b.Touched now t := by
  cases t with
  | forceRefresh => exact .rested rfl (fun _ => Touch.noConfusion) rfl rfl rfl
  | markFailed host =>
    refine .failed rfl ?_
    cases h : (b.pool.markFailed host now).2 <;> simp [touchMetric, markFailed, h]
  | adjust host delta => exact .adjusted rfl rfl rfl
  | release host => exact .adjusted rfl rfl rfl
  | reserve excluding pick =>
    rcases b.pool.reserve_cases excluding pick with he | ⟨host, addr, -, he⟩
    · refine .rested ?_ (fun _ => Touch.noConfusion) ?_ ?_ ?_ <;>
        simp [adjusts?, touch, touchMetric, reserve, he]
    · have hadjusts : b.adjusts? (.reserve excluding pick) = some (host, 1) := by
        simp [adjusts?, reserve, he]
      have hcount : (b.pool.adjust host 1).2 = (b.pool.adjust host 1).1.counts[host]? :=
        b.pool.adjust_snd_of_present (by simp)
      refine .adjusted hadjusts ?_ ?_
      · simp [touch, reserve, he]
      · simp [touchMetric, reserve, he, hcount, Pool.count?]

/-! ## The crowd and its ledger -/

/-- A crowd with what was counted. -/
structure MeteredCrowd where
  crowd : Crowd
  ledger : Ledger := {}
  /-- Who had the turn and found no refresh due any more, in order. -/
  spared : List Caller := []

namespace MeteredCrowd

/-- A call takes its next access, if it can. -/
def step (s : MeteredCrowd) (c : Caller) : MeteredCrowd :=
  match s.crowd.visits[c]? with
  | none => s
  | some v =>
    match v.access? c s.crowd.balancer s.crowd.now with
    | none => s
    | some (_, point) =>
      { crowd := s.crowd.step c
        ledger := s.ledger.note ((v.point.outcome? point).map .refresh)
        spared := s.spared ++ v.point.spares c point }

def after (s : MeteredCrowd) : CrowdEvent → MeteredCrowd
  | .step c => s.step c
  | .touch t =>
    { s with
      crowd := s.crowd.after (.touch t)
      ledger := s.ledger.note (s.crowd.balancer.touchMetric s.crowd.now t) }
  | .arrive control delay answer => { s with crowd := s.crowd.after (.arrive control delay answer) }
  | .abandon c => { s with crowd := s.crowd.after (.abandon c) }
  | .advance d => { s with crowd := s.crowd.after (.advance d) }

/-- A new balancer after a list of events. -/
def run (preference : Option Preference) (settings : BalancerSettings)
    (events : List CrowdEvent) : MeteredCrowd :=
  events.foldl after { crowd := { balancer := { preference, settings } } }

/-- An access leaves everything as it is, or is one of those of `Visit.Accessed`. -/
theorem step_cases (s : MeteredCrowd) (c : Caller) :
    s.step c = s ∧ s.crowd.step c = s.crowd ∨
      ∃ v b point, s.crowd.visits[c]? = some v ∧
        v.Accessed c s.crowd.balancer s.crowd.now b point ∧
        s.crowd.step c =
          { s.crowd with
            balancer := b
            visits := s.crowd.visits.set c { v with point := point }
            asked := s.crowd.asked ++ point.asks c
            applied := s.crowd.applied ++ v.point.applies c s.crowd.now point } ∧
        s.step c =
          { crowd := s.crowd.step c
            ledger := s.ledger.note ((v.point.outcome? point).map .refresh)
            spared := s.spared ++ v.point.spares c point } := by
  unfold step
  cases hv : s.crowd.visits[c]? with
  | none => exact .inl ⟨rfl, by simp only [Crowd.step, hv]⟩
  | some v =>
    cases ha : v.access? c s.crowd.balancer s.crowd.now with
    | none => exact .inl ⟨by simp only [ha], by simp only [Crowd.step, hv, ha]⟩
    | some next =>
      exact .inr ⟨v, next.1, next.2, rfl, Visit.accessed_of_access? ha,
        Crowd.step_of_access? hv ha, by simp only [ha]⟩

/-- What is counted changes nothing. -/
theorem crowd_after (s : MeteredCrowd) (e : CrowdEvent) : (s.after e).crowd = s.crowd.after e := by
  cases e with
  | step c =>
    rcases s.step_cases c with ⟨he, hcrowd⟩ | ⟨v, b, point, -, -, -, he⟩
    · exact (congrArg crowd he).trans hcrowd.symm
    · exact congrArg crowd he
  | arrive | abandon | touch | advance => rfl

variable (preference : Option Preference) (settings : BalancerSettings)

theorem run_concat (events : List CrowdEvent) (e : CrowdEvent) :
    run preference settings (events ++ [e]) = (run preference settings events).after e := by
  rw [run, List.foldl_append]
  rfl

theorem crowd_run (events : List CrowdEvent) :
    (run preference settings events).crowd = Crowd.run preference settings events := by
  induction events using List.reverseRecOn with
  | nil => rfl
  | append_singleton events e ih =>
    rw [run_concat, crowd_after, ih, Crowd.run_concat]

end MeteredCrowd

end ConnectionRouter
