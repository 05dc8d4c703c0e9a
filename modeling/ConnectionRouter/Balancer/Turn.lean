/-!
# Taking turns

A turn that one caller at a time may hold. Callers that find it taken may wait; they get it in
the order in which they came.

* `Turn.take?`: the turn for a caller that finds it free.
* `Turn.wait`, `Turn.leave`: a caller joins the queue, or gives up the turn or its place.

A caller that leaves while it holds the turn hands it to the first in the queue at once
(`holder_leave`), so a free turn has no queue (`Turn.Fair`).
-/

namespace ConnectionRouter

/-- The number by which a caller is known. -/
abbrev Caller : Type := Nat

/-- Who holds the turn, and who waits for it. -/
structure Turn where
  holder : Option Caller := none
  waiting : List Caller := []
  deriving DecidableEq

namespace Turn

/-- The turn in the hands of `c`, if it was free. -/
def take? (t : Turn) (c : Caller) : Option Turn :=
  if t.holder.isNone then some { t with holder := some c } else none

/-- The turn with `c` at the end of its queue. -/
def wait (t : Turn) (c : Caller) : Turn := { t with waiting := t.waiting ++ [c] }

def isHeldBy (t : Turn) (c : Caller) : Bool := t.holder == some c

/-- The turn without `c`: if `c` holds it, the first in the queue is next; else `c` loses its
place in the queue. -/
def leave (t : Turn) (c : Caller) : Turn :=
  if t.isHeldBy c then ⟨t.waiting.head?, t.waiting.tail⟩
  else { t with waiting := t.waiting.filter (· != c) }

/-- Nobody waits for a free turn. -/
def Fair (t : Turn) : Prop := t.holder = none → t.waiting = []

theorem holder_leave {t : Turn} {c : Caller} (h : t.isHeldBy c = true) :
    (t.leave c).holder = t.waiting.head? := by
  simp [leave, h]

theorem fair_empty : Fair {} := fun _ => rfl

theorem fair_take {t t' : Turn} {c : Caller} (h : t.take? c = some t') : t'.Fair := by
  intro hn
  rw [take?] at h
  split at h
  · cases h
    simp at hn
  · simp at h

theorem fair_leave {t : Turn} (h : t.Fair) (c : Caller) : (t.leave c).Fair := by
  intro hn
  rw [leave] at hn ⊢
  split at hn <;> rename_i hc
  · rw [if_pos hc]
    cases hw : t.waiting with
    | nil => rfl
    | cons d r => simp [hw] at hn
  · rw [if_neg hc]
    simp [h hn]

end Turn

end ConnectionRouter
