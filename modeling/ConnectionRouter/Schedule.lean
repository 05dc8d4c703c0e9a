import ConnectionRouter.Clock

/-!
# Running tasks side by side

Tasks share a state with a clock. In turn, each task goes on until it has to wait; when none can
go on, the clock moves to the next moment at which one can.

* `Tasks`: how tasks of one type take steps.
* `Tasks.drive`: one task for as long as it can go on.
* `Tasks.pass`: every task once, in order.
* `Tasks.run`: passes and moves of the clock until nothing is left to do.

Runs are bounded by a number of steps, which the caller derives from its tasks.
-/

namespace ConnectionRouter

/-- How tasks of type `τ` work on a shared state of type `σ`. -/
structure Tasks (σ τ : Type) where
  /-- The next step of a task, if it can go on now. -/
  step? : σ → τ → Option (σ × τ)
  /-- When a task that waits for the clock can go on. -/
  wake? : τ → Option Instant
  now : σ → Instant
  /-- The state with the clock moved to an instant. -/
  moveTo : σ → Instant → σ

namespace Tasks

variable {σ τ : Type}

/-- A task for as long as it can go on, at most `bound` steps. -/
def drive (m : Tasks σ τ) : (bound : Nat) → σ → τ → σ × τ
  | 0, s, t => (s, t)
  | bound + 1, s, t =>
    match m.step? s t with
    | none => (s, t)
    | some (s, t) => m.drive bound s t

/-- Every task once, in order. -/
def pass (m : Tasks σ τ) (bound : Nat) : σ → List τ → σ × List τ
  | s, [] => (s, [])
  | s, t :: rest =>
    let (s, t) := m.drive bound s t
    let (s, rest) := m.pass bound s rest
    (s, t :: rest)

/-- Whether some task can go on now. -/
def isReady (m : Tasks σ τ) (s : σ) (tasks : List τ) : Bool :=
  tasks.any fun t => (m.step? s t).isSome

/-- The next moment after now at which a task can go on. -/
def nextWake? (m : Tasks σ τ) (s : σ) (tasks : List τ) : Option Instant :=
  ((tasks.filterMap m.wake?).filter (m.now s < ·)).min?

/-- Passes until no task can go on, then the clock moves; at most `bound` of both. -/
def run (m : Tasks σ τ) (steps : Nat) : (bound : Nat) → σ → List τ → σ × List τ
  | 0, s, tasks => (s, tasks)
  | bound + 1, s, tasks =>
    if m.isReady s tasks then
      let (s, tasks) := m.pass steps s tasks
      m.run steps bound s tasks
    else
      match m.nextWake? s tasks with
      | none => (s, tasks)
      | some time => m.run steps bound (m.moveTo s time) tasks

end Tasks

end ConnectionRouter
