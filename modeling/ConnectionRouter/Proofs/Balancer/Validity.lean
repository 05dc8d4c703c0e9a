import ConnectionRouter.Balancer.Refresh
import ConnectionRouter.Proofs.Pool.Count

/-!
# Balancers and their pools

What the operations of a balancer do to its pool. A refresh gives its pool a snapshot or leaves it
alone, whatever becomes of the turn (`startRefresh_eq`, `resumeRefresh_eq`, `finishRefresh_eq`), and
every operation keeps the pool valid for the balancer's settings (`Balancer.Valid`).
-/

namespace ConnectionRouter

namespace Balancer

/-! ## Refreshes -/

/-- A refresh starts by taking the turn, by joining its queue, or not at all. -/
theorem startRefresh_cases (b : Balancer) (caller : Caller) (now : Instant) :
    (∃ turn, b.needsRefresh now = true ∧ b.turn.take? caller = some turn ∧
      b.startRefresh caller now = ({ b with turn := turn }, .querying, none)) ∨
    (b.needsRefresh now = true ∧ b.turn.take? caller = none ∧ b.pool.hasSnapshot = false ∧
      b.startRefresh caller now = ({ b with turn := b.turn.wait caller }, .queued, none)) ∨
    ((b.needsRefresh now = true → b.turn.take? caller = none) ∧
      b.startRefresh caller now = (b, .done true, some (.refresh .skipped))) := by
  unfold startRefresh
  cases hd : b.needsRefresh now with
  | false => exact .inr (.inr ⟨Bool.noConfusion, by simp⟩)
  | true =>
    cases ht : b.turn.take? caller with
    | some turn => exact .inl ⟨turn, rfl, rfl, by simp⟩
    | none =>
      cases hs : b.pool.hasSnapshot with
      | true => exact .inr (.inr ⟨fun _ => rfl, by simp⟩)
      | false => exact .inr (.inl ⟨rfl, rfl, rfl, by simp⟩)

theorem startRefresh_eq (b : Balancer) (caller : Caller) (now : Instant) :
    ∃ turn, (b.startRefresh caller now).1 = { b with turn := turn } := by
  rcases b.startRefresh_cases caller now with ⟨turn, -, -, he⟩ | ⟨-, -, -, he⟩ | ⟨-, he⟩ <;> rw [he]
  · exact ⟨turn, rfl⟩
  · exact ⟨_, rfl⟩
  · exact ⟨b.turn, rfl⟩

theorem resumeRefresh_cases (b : Balancer) (caller : Caller) (now : Instant) :
    b.resumeRefresh caller now = (b, .querying) ∨
      b.resumeRefresh caller now = ({ b with turn := b.turn.leave caller }, .done true) := by
  unfold resumeRefresh
  split
  · exact .inl rfl
  · exact .inr rfl

theorem resumeRefresh_eq (b : Balancer) (caller : Caller) (now : Instant) :
    ∃ turn, (b.resumeRefresh caller now).1 = { b with turn := turn } := by
  rcases b.resumeRefresh_cases caller now with he | he <;> rw [he]
  · exact ⟨b.turn, rfl⟩
  · exact ⟨_, rfl⟩

/-- A query that was answered gives the pool a snapshot; a failed one leaves it alone. -/
theorem finishRefresh_eq (b : Balancer) (caller : Caller) (now : Instant) (control : String)
    (answer : Except RoutingError (List Row)) :
    ∃ turn, (b.finishRefresh caller now control answer).1 = { b with turn := turn } ∨
      ∃ s, (b.finishRefresh caller now control answer).1 =
        { b.applySnapshot s now with turn := turn } := by
  unfold finishRefresh
  split
  · exact ⟨_, .inl rfl⟩
  · exact ⟨_, .inr ⟨_, rfl⟩⟩

/-- A query that failed changes nothing but the turn. -/
theorem finishRefresh_error (b : Balancer) (caller : Caller) (now : Instant) (control : String)
    (e : RoutingError) : b.finishRefresh caller now control (.error e) =
      ({ b with turn := b.turn.leave caller }, false, some (.refresh .failed)) := by
  cases e <;> rfl

/-- The end of a refresh gives up the turn. -/
theorem turn_finishRefresh (b : Balancer) (caller : Caller) (now : Instant) (control : String)
    (answer : Except RoutingError (List Row)) :
    (b.finishRefresh caller now control answer).1.turn = b.turn.leave caller := by
  unfold finishRefresh
  split <;> rfl

/-! ## Validity -/

/-- The pool is valid for the settings. -/
def Valid (b : Balancer) : Prop := b.pool.Valid b.settings.defaultPort

namespace Valid

variable {b : Balancer}

theorem fresh (preference : Option Preference) (settings : BalancerSettings) :
    Valid { preference, settings } := Pool.Valid.empty

theorem reserve (h : b.Valid) (excluding : List HostKey) (pick : Nat) :
    (b.reserve excluding pick).1.Valid := Pool.Valid.reserve h excluding pick

theorem release (h : b.Valid) (host : HostKey) : (b.release host).1.Valid :=
  Pool.Valid.adjust h host (-1)

theorem markFailed (h : b.Valid) (host : HostKey) (now : Instant) :
    (b.markFailed host now).1.Valid := Pool.Valid.markFailed h host now

theorem forceRefresh (h : b.Valid) : b.forceRefresh.Valid := Pool.Valid.forceRefresh h

theorem applySnapshot (h : b.Valid) (s : Snapshot) (now : Instant) :
    (b.applySnapshot s now).Valid :=
  Pool.Valid.apply h s b.rules now

theorem withTurn (h : b.Valid) (turn : Turn) : Valid { b with turn := turn } := h

end Valid

end Balancer

end ConnectionRouter
