import ConnectionRouter.Balancer.Alone
import ConnectionRouter.Proofs.Balancer.FirstRefresh

/-!
# Refreshes that start together

What becomes of calls of refresh that start at one moment, on a balancer nobody has refreshed yet
(`LoneBalancer.refreshAll`). The first call takes the turn and asks, the others queue up; at the
moment at which its answer comes the turn goes from one to the next, and none of them finds a
refresh due.

* `RefreshCall.New`, `RefreshCall.Waits`, `RefreshCall.Over`: where a call stands.
* `LoneBalancer.pass_new`, `LoneBalancer.pass_barred`, `LoneBalancer.pass_waiting`: what one pass
  over the other calls does.
* `LoneBalancer.refreshAll_first`: exactly one call asks, and all succeed.
* `Crowd.run_protocol`: the protocol of refreshes, whatever is interleaved with them.
-/

namespace ConnectionRouter

namespace Tasks

variable {σ τ : Type} {m : Tasks σ τ} {s s' : σ} {t t' : τ}

theorem drive_of_none (h : m.step? s t = none) (bound : Nat) : m.drive bound s t = (s, t) := by
  cases bound with
  | zero => rfl
  | succ bound => simp only [drive, h]

theorem drive_succ (h : m.step? s t = some (s', t')) (bound : Nat) :
    m.drive (bound + 1) s t = m.drive bound s' t' := by
  simp only [drive, h]

theorem isReady_eq_false {tasks : List τ} (h : ∀ t ∈ tasks, m.step? s t = none) :
    m.isReady s tasks = false := by
  refine List.any_eq_false.mpr fun t ht => ?_
  simp [h t ht]

theorem run_of_ready {tasks : List τ} (ht : t ∈ tasks) (h : m.step? s t = some (s', t'))
    (steps bound : Nat) :
    m.run steps (bound + 1) s tasks =
      m.run steps bound (m.pass steps s tasks).1 (m.pass steps s tasks).2 := by
  have hready : m.isReady s tasks = true := List.any_eq_true.mpr ⟨t, ht, by rw [h]; rfl⟩
  simp only [run, hready, if_true]

theorem run_of_wake {tasks : List τ} (h : ∀ t ∈ tasks, m.step? s t = none) {time : Instant}
    (hwake : m.nextWake? s tasks = some time) (steps bound : Nat) :
    m.run steps (bound + 1) s tasks = m.run steps bound (m.moveTo s time) tasks := by
  simp only [run, isReady_eq_false h, hwake, Bool.false_eq_true, if_false]

/-- A run ends where no task can go on now or later. -/
theorem run_of_idle {tasks : List τ} (hready : ∀ t ∈ tasks, m.step? s t = none)
    (hwake : ∀ t ∈ tasks, m.wake? t = none) (steps bound : Nat) :
    m.run steps bound s tasks = (s, tasks) := by
  cases bound with
  | zero => rfl
  | succ bound =>
    have hnever : tasks.filterMap m.wake? = [] := List.filterMap_eq_nil_iff.mpr hwake
    simp [run, isReady_eq_false hready, nextWake?, hnever]

theorem length_pass (bound : Nat) (tasks : List τ) :
    ∀ s, (m.pass bound s tasks).2.length = tasks.length := by
  induction tasks with
  | nil => exact fun _ => rfl
  | cons t tasks ih => exact fun s => congrArg Nat.succ (ih _)

theorem length_run (steps bound : Nat) :
    ∀ s tasks, (m.run steps bound s tasks).2.length = tasks.length := by
  induction bound with
  | zero => exact fun _ _ => rfl
  | succ bound ih =>
    intro s tasks
    rw [run]
    split
    · exact (ih _ _).trans (m.length_pass steps tasks s)
    · split
      · rfl
      · exact ih _ _

end Tasks

namespace RefreshCall

/-- The call has not begun. -/
structure New (c : RefreshCall) : Prop where
  stage : c.stage = none
  due : c.due = none
  ended : c.ended = none

/-- The call waits for the turn. -/
structure Waits (c : RefreshCall) : Prop where
  stage : c.stage = some .queued
  due : c.due = none
  ended : c.ended = none

/-- The call is over and did not fail; `asked` tells whether it ran a query. -/
structure Over (asked : Bool) (c : RefreshCall) : Prop where
  stage : c.stage = some (.done true)
  ended : c.ended.isSome = true
  due : c.due.isSome = asked

end RefreshCall

namespace LoneBalancer

variable {l : LoneBalancer} {c : RefreshCall} {cs : List RefreshCall}

/-! ## One call -/

/-- A call that is over takes no step and waits for nothing. -/
theorem idle_of_over {asked : Bool} (h : c.Over asked) (l : LoneBalancer) :
    calls.step? l c = none ∧ calls.wake? c = none := by
  have hnone : c.ended.isNone = false := by
    rw [← Option.not_isSome, h.ended]
    rfl
  refine ⟨?_, ?_⟩
  · simp only [calls, resume?, h.stage]
  · simp only [calls, hnone]
    rfl

/-- A new call that finds no refresh due is over at once. -/
theorem drive_new (hc : c.New) (hd : l.balancer.needsRefresh l.now = false) :
    (calls.drive 3 l c).1 = { l with ledger := (calls.drive 3 l c).1.ledger } ∧
      (calls.drive 3 l c).2.Over false := by
  have hstep : calls.step? l c =
      some (l.update l.balancer (some (.refresh .skipped)), l.enter c (.done true)) := by
    simp only [calls, resume?, hc.stage, Balancer.startRefresh, hd, Bool.false_eq_true, if_false]
  have hover : (l.enter c (.done true)).Over false := ⟨rfl, rfl, by rw [enter, hc.due]; rfl⟩
  rw [Tasks.drive_succ hstep, Tasks.drive_of_none (idle_of_over hover _).1]
  exact ⟨rfl, hover⟩

/-- A new call that finds the turn taken queues up, as there is no snapshot. -/
theorem drive_barred (hc : c.New) (hd : l.balancer.needsRefresh l.now = true)
    (hs : l.balancer.pool.hasSnapshot = false) {holder : Caller}
    (hh : l.balancer.turn.holder = some holder) (hne : holder ≠ c.caller) :
    calls.drive 3 l c =
        ({ l with balancer := { l.balancer with turn := l.balancer.turn.wait c.caller } },
          { c with stage := some .queued }) := by
  have htake : l.balancer.turn.take? c.caller = none := by simp [Turn.take?, hh]
  have hstep : calls.step? l c =
      some ({ l with balancer := { l.balancer with turn := l.balancer.turn.wait c.caller } },
        { c with stage := some .queued }) := by
    simp only [calls, resume?, hc.stage, Balancer.startRefresh, hd, if_true, htake, hs,
      Bool.false_eq_true, if_false]
    rfl
  have hheld : (l.balancer.turn.wait c.caller).isHeldBy c.caller = false := by
    simp [Turn.isHeldBy, Turn.wait, hh, hne]
  rw [Tasks.drive_succ hstep, Tasks.drive_of_none]
  simp only [calls, resume?, hheld, Bool.false_eq_true, if_false]

/-- A call that gets the turn when no refresh is due any more gives it up again. -/
theorem drive_waiting (hc : c.Waits) (hd : l.balancer.needsRefresh l.now = false)
    (hh : l.balancer.turn.holder = some c.caller) :
    (calls.drive 3 l c).1 =
        { l with balancer := { l.balancer with turn := l.balancer.turn.leave c.caller } } ∧
      (calls.drive 3 l c).2.Over false := by
  have hheld := Turn.isHeldBy_iff.mpr hh
  have hstep : calls.step? l c =
      some ({ l with balancer := { l.balancer with turn := l.balancer.turn.leave c.caller } },
        l.enter c (.done true)) := by
    simp only [calls, resume?, hc.stage, hheld, if_true, Balancer.resumeRefresh, hd,
      Bool.false_eq_true, if_false]
    rfl
  have hover : (l.enter c (.done true)).Over false := ⟨rfl, rfl, by rw [enter, hc.due]; rfl⟩
  rw [Tasks.drive_succ hstep, Tasks.drive_of_none (idle_of_over hover _).1]
  exact ⟨rfl, hover⟩

/-! ## One pass -/

/-- Where no refresh is due, new calls are over at once. -/
theorem pass_new (cs : List RefreshCall) :
    ∀ {l : LoneBalancer}, (∀ c ∈ cs, c.New) → l.balancer.needsRefresh l.now = false →
      ∀ c ∈ (calls.pass 3 l cs).2, c.Over false := by
  induction cs with
  | nil => exact fun _ _ c hc => absurd hc List.not_mem_nil
  | cons c cs ih =>
    intro l hnew hd d hmem
    obtain ⟨hl, hover⟩ := drive_new (hnew c List.mem_cons_self) hd
    simp only [Tasks.pass, List.mem_cons] at hmem
    rcases hmem with rfl | hmem
    · exact hover
    · refine ih (fun c hc => hnew c (List.mem_cons_of_mem _ hc)) ?_ d hmem
      rw [hl]
      exact hd

/-- Where the turn is taken and there is no snapshot, new calls queue up in order. -/
theorem pass_barred (cs : List RefreshCall) :
    ∀ {l : LoneBalancer} {holder : Caller}, (∀ c ∈ cs, c.New) →
      l.balancer.needsRefresh l.now = true → l.balancer.pool.hasSnapshot = false →
      l.balancer.turn.holder = some holder → (∀ c ∈ cs, holder ≠ c.caller) →
      calls.pass 3 l cs =
        ({ l with balancer := { l.balancer with turn := { l.balancer.turn with
            waiting := l.balancer.turn.waiting ++ cs.map (·.caller) } } },
          cs.map fun c => { c with stage := some .queued }) := by
  induction cs with
  | nil =>
    intro l holder _ _ _ _ _
    rw [List.map_nil, List.append_nil]
    rfl
  | cons c cs ih =>
    intro l holder hnew hd hs hh hne
    have hfirst := drive_barred (hnew c List.mem_cons_self) hd hs hh (hne c List.mem_cons_self)
    have hrest := ih (l := { l with
        balancer := { l.balancer with turn := l.balancer.turn.wait c.caller } })
      (fun c hc => hnew c (List.mem_cons_of_mem _ hc)) hd hs hh
      fun c hc => hne c (List.mem_cons_of_mem _ hc)
    simp only [Tasks.pass, hfirst, hrest]
    simp [Turn.wait]

/-- Where no refresh is due any more, the turn goes through the queue and is free in the end. -/
theorem pass_waiting (cs : List RefreshCall) :
    ∀ {l : LoneBalancer}, (∀ c ∈ cs, c.Waits) → l.balancer.needsRefresh l.now = false →
      l.balancer.turn = ⟨(cs.map (·.caller)).head?, (cs.map (·.caller)).tail⟩ →
      ∀ c ∈ (calls.pass 3 l cs).2, c.Over false := by
  induction cs with
  | nil => exact fun _ _ _ c hc => absurd hc List.not_mem_nil
  | cons c cs ih =>
    intro l hwaits hd hturn d hmem
    have hh : l.balancer.turn.holder = some c.caller := by rw [hturn]; rfl
    obtain ⟨hl, hover⟩ := drive_waiting (hwaits c List.mem_cons_self) hd hh
    simp only [Tasks.pass, List.mem_cons] at hmem
    rcases hmem with rfl | hmem
    · exact hover
    · refine ih (fun c hc => hwaits c (List.mem_cons_of_mem _ hc)) ?_ ?_ d hmem
      · rw [hl]
        exact hd
      · rw [hl, Turn.leave, if_pos (Turn.isHeldBy_iff.mpr hh), hturn]
        rfl

/-! ## The call that asks -/

/-- The call with its query under way, to be answered at `due`. -/
def asking (c : RefreshCall) (due : Instant) : RefreshCall :=
  { c with stage := some .querying, due := some due }

/-- The first call takes the turn and asks. -/
theorem step?_first (hc : c.New) (hd : l.balancer.needsRefresh l.now = true)
    (hturn : l.balancer.turn = {}) :
    calls.step? l c =
      some ({ l with balancer := { l.balancer with turn := ⟨some c.caller, []⟩ } },
        asking c (l.now + c.delay)) := by
  have htake : l.balancer.turn.take? c.caller = some ⟨some c.caller, []⟩ := by rw [hturn]; rfl
  simp only [calls, resume?, hc.stage, Balancer.startRefresh, hd, if_true, htake]
  rfl

/-- When its query is answered, the call is over and no refresh is due. -/
theorem drive_asking (due : Instant) (hdue : due ≤ l.now) (hgood : ∃ members,
      Member.ofAnswer c.answer = .ok members)
    (hinterval : 0 < l.balancer.settings.refreshInterval) (bound : Nat) :
    (∃ l', calls.step? l (asking c due) = some l') ∧
      (calls.drive (bound + 1) l (asking c due)).2.Over true ∧
      (calls.drive (bound + 1) l (asking c due)).1.balancer.turn = l.balancer.turn.leave c.caller ∧
      (calls.drive (bound + 1) l (asking c due)).1.balancer.needsRefresh
        (calls.drive (bound + 1) l (asking c due)).1.now = false := by
  obtain ⟨members, ha⟩ := hgood
  have hlate : ¬l.now < due := Nat.not_lt.mpr hdue
  have hstep : calls.step? l (asking c due) =
      some (l.update
          { l.balancer.applySnapshot ⟨members, c.control⟩ l.now with
            turn := l.balancer.turn.leave c.caller } (some (.refresh .ok)),
        l.enter (asking c due) (.done true)) := by
    simp only [calls, resume?, asking, hlate, if_false, Balancer.finishRefresh, ha]
  have hover : (l.enter (asking c due) (.done true)).Over true := ⟨rfl, rfl, rfl⟩
  refine ⟨⟨_, hstep⟩, ?_⟩
  rw [Tasks.drive_succ hstep, Tasks.drive_of_none (idle_of_over hover _).1]
  refine ⟨hover, rfl, ?_⟩
  simpa [Balancer.needsRefresh, update, Balancer.applySnapshot, Nat.pos_iff_ne_zero] using hinterval

/-- The crowd of calls that wait for the query of one. -/
def queuedUp (cs : List RefreshCall) : List RefreshCall :=
  cs.map fun c => { c with stage := some .queued }

theorem waits_of_mem_queuedUp (hnew : ∀ c ∈ cs, c.New) (hc : c ∈ queuedUp cs) :
    c.Waits ∧ c.caller ∈ cs.map (·.caller) := by
  obtain ⟨d, hd, rfl⟩ := List.mem_map.mp hc
  exact ⟨⟨rfl, (hnew d hd).due, (hnew d hd).ended⟩, List.mem_map.mpr ⟨d, hd, rfl⟩⟩

theorem callers_queuedUp (cs : List RefreshCall) :
    (queuedUp cs).map (·.caller) = cs.map (·.caller) := by
  simp [queuedUp, List.map_map, Function.comp_def]

/-- Where all calls are over, the run ends. -/
theorem run_of_over {first : RefreshCall} {rest : List RefreshCall} (hfirst : first.Over true)
    (hrest : ∀ c ∈ rest, c.Over false) (l : LoneBalancer) (bound : Nat) :
    calls.run 3 bound l (first :: rest) = (l, first :: rest) := by
  refine Tasks.run_of_idle (fun c hc => ?_) (fun c hc => ?_) 3 bound
  · rcases List.mem_cons.mp hc with rfl | hc
    · exact (idle_of_over hfirst l).1
    · exact (idle_of_over (hrest c hc) l).1
  · rcases List.mem_cons.mp hc with rfl | hc
    · exact (idle_of_over hfirst l).2
    · exact (idle_of_over (hrest c hc) l).2

/-- Until the answer comes nothing happens, and then the calls are over one after another. -/
theorem run_queuedUp {first : RefreshCall} (hfirst : first.New) (hrest : ∀ c ∈ cs, c.New)
    (hdistinct : ∀ c ∈ cs, first.caller ≠ c.caller)
    (hgood : ∃ members, Member.ofAnswer first.answer = .ok members) {due : Instant}
    (hdue : l.now < due) (hinterval : 0 < l.balancer.settings.refreshInterval)
    (hturn : l.balancer.turn = ⟨some first.caller, cs.map (·.caller)⟩) (bound : Nat) :
    ∃ asker others, (calls.run 3 (bound + 2) l (asking first due :: queuedUp cs)).2 =
      asker :: others ∧ asker.Over true ∧ ∀ c ∈ others, c.Over false := by
  have hwaits : ∀ c ∈ queuedUp cs, c.Waits := fun c hc => (waits_of_mem_queuedUp hrest hc).1
  have hidle : ∀ c ∈ asking first due :: queuedUp cs, calls.step? l c = none := by
    intro c hc
    rcases List.mem_cons.mp hc with rfl | hc
    · simp only [calls, resume?, asking, hdue, if_true]
    · obtain ⟨hw, hcaller⟩ := waits_of_mem_queuedUp hrest hc
      obtain ⟨d, hd, he⟩ := List.mem_map.mp hcaller
      have hheld : l.balancer.turn.isHeldBy c.caller = false := by
        simpa [Turn.isHeldBy, hturn, ← he] using hdistinct d hd
      simp only [calls, resume?, hw.stage, hheld, Bool.false_eq_true, if_false]
  have hwake : calls.nextWake? l (asking first due :: queuedUp cs) = some due := by
    have hnone : (queuedUp cs).filterMap calls.wake? = [] :=
      List.filterMap_eq_nil_iff.mpr fun c hc => by simp [calls, (hwaits c hc).due]
    have hsome : calls.wake? (asking first due) = some due := by
      simp [calls, asking, hfirst.ended]
    have hnow : calls.now l < due := hdue
    simp [Tasks.nextWake?, hsome, hnone, hnow]
  rw [Tasks.run_of_wake hidle hwake]
  obtain ⟨⟨l', hstep⟩, hover, hfree, hfresh⟩ := drive_asking (l := calls.moveTo l due) (c := first)
    due (Nat.le_refl _) hgood hinterval 2
  rw [Tasks.run_of_ready List.mem_cons_self hstep]
  have hleave : (calls.moveTo l due).balancer.turn.leave first.caller =
      ⟨((queuedUp cs).map (·.caller)).head?, ((queuedUp cs).map (·.caller)).tail⟩ := by
    have hheld : l.balancer.turn.isHeldBy first.caller = true := by rw [hturn]; simp [Turn.isHeldBy]
    change l.balancer.turn.leave first.caller = _
    rw [Turn.leave, if_pos hheld, hturn, callers_queuedUp]
  have hothers := pass_waiting (queuedUp cs) hwaits hfresh (hfree.trans hleave)
  simp only [Tasks.pass]
  rw [run_of_over hover hothers]
  exact ⟨_, _, rfl, hover, hothers⟩

/-- If the first call has its answer at once, the others find no refresh due. -/
theorem run_prompt {first : RefreshCall} {rest : List RefreshCall} (hfirst : first.New)
    (hrest : ∀ c ∈ rest, c.New) (hgood : ∃ members, Member.ofAnswer first.answer = .ok members)
    (hd : l.balancer.needsRefresh l.now = true) (hturn : l.balancer.turn = {})
    (hinterval : 0 < l.balancer.settings.refreshInterval) (hdelay : first.delay = 0)
    (bound : Nat) :
    ∃ asker others, (calls.run 3 (bound + 1) l (first :: rest)).2 = asker :: others ∧
      asker.Over true ∧ ∀ c ∈ others, c.Over false := by
  have hstep := step?_first hfirst hd hturn
  obtain ⟨-, hover, hfree, hfresh⟩ := drive_asking (l := { l with
      balancer := { l.balancer with turn := ⟨some first.caller, []⟩ } }) (c := first)
    (l.now + first.delay) (by simp [hdelay]) hgood hinterval 1
  rw [← Tasks.drive_succ hstep] at hover hfree hfresh
  have hothers := pass_new rest hrest hfresh
  rw [Tasks.run_of_ready List.mem_cons_self hstep]
  simp only [Tasks.pass]
  rw [run_of_over hover hothers]
  exact ⟨_, _, rfl, hover, hothers⟩

/-- If the query of the first call takes time, the others queue up, and the clock moves to the
answer. -/
theorem run_delayed {first : RefreshCall} {rest : List RefreshCall} (hfirst : first.New)
    (hrest : ∀ c ∈ rest, c.New) (hdistinct : ∀ c ∈ rest, first.caller ≠ c.caller)
    (hgood : ∃ members, Member.ofAnswer first.answer = .ok members)
    (hd : l.balancer.needsRefresh l.now = true) (hturn : l.balancer.turn = {})
    (hsnapshot : l.balancer.pool.hasSnapshot = false)
    (hinterval : 0 < l.balancer.settings.refreshInterval) (hdelay : 0 < first.delay)
    (bound : Nat) :
    ∃ asker others, (calls.run 3 (bound + 3) l (first :: rest)).2 = asker :: others ∧
      asker.Over true ∧ ∀ c ∈ others, c.Over false := by
  have hstep := step?_first hfirst hd hturn
  have hahead : l.now < l.now + first.delay := Nat.lt_add_of_pos_right hdelay
  have hasks : calls.drive 3 l first =
      ({ l with balancer := { l.balancer with turn := ⟨some first.caller, []⟩ } },
        asking first (l.now + first.delay)) := by
    rw [Tasks.drive_succ hstep, Tasks.drive_of_none]
    simp only [calls, resume?, asking, hahead, if_true]
  have hqueue := pass_barred rest (l := { l with
      balancer := { l.balancer with turn := ⟨some first.caller, []⟩ } }) hrest hd hsnapshot rfl
    hdistinct
  rw [Tasks.run_of_ready List.mem_cons_self hstep]
  simp only [Tasks.pass, hasks, hqueue]
  exact run_queuedUp (l := { l with
      balancer := { l.balancer with turn := ⟨some first.caller, [] ++ rest.map (·.caller)⟩ } })
    hfirst hrest hdistinct hgood hahead hinterval rfl bound

/-! ## All of them -/

/-- One call asks; all are over. -/
theorem one_asked {first : RefreshCall} {rest : List RefreshCall} (hfirst : first.Over true)
    (hrest : ∀ c ∈ rest, c.Over false) :
    (first :: rest).countP (·.queried) = 1 ∧ ∀ c ∈ first :: rest, c.ok = true := by
  have hnone : rest.countP (·.queried) = 0 := List.countP_eq_zero.mpr fun c hc => by
    simp [RefreshCall.queried, (hrest c hc).due]
  refine ⟨?_, fun c hc => ?_⟩
  · rw [List.countP_cons_of_pos (by simpa [RefreshCall.queried] using hfirst.due), hnone]
  · rcases List.mem_cons.mp hc with rfl | hc
    · simp [RefreshCall.ok, hfirst.stage]
    · simp [RefreshCall.ok, (hrest c hc).stage]

/-- **Calls that start together on a balancer without a snapshot share one query.** -/
theorem refreshAll_first {first : RefreshCall} {rest : List RefreshCall} (hfirst : first.New)
    (hrest : ∀ c ∈ rest, c.New) (hdistinct : ((first :: rest).map (·.caller)).Nodup)
    (hgood : ∃ members, Member.ofAnswer first.answer = .ok members)
    (hturn : l.balancer.turn = {}) (hsnapshot : l.balancer.pool.hasSnapshot = false)
    (hlast : l.balancer.pool.lastRefresh = none)
    (hinterval : 0 < l.balancer.settings.refreshInterval) :
    (l.refreshAll (first :: rest)).2.length = rest.length + 1 ∧
      (l.refreshAll (first :: rest)).2.countP (·.queried) = 1 ∧
      ∀ c ∈ (l.refreshAll (first :: rest)).2, c.ok = true := by
  refine ⟨Tasks.length_run 3 _ l (first :: rest), ?_⟩
  have hd : l.balancer.needsRefresh l.now = true := by rw [Balancer.needsRefresh, hlast]
  have hother : ∀ c ∈ rest, first.caller ≠ c.caller := by
    rw [List.map_cons, List.nodup_cons] at hdistinct
    exact fun c hc he => hdistinct.1 (he ▸ List.mem_map_of_mem hc)
  have hbound : 8 * (first :: rest).length = 8 * rest.length + 5 + 3 := by
    rw [List.length_cons]
    omega
  obtain ⟨asker, others, hrun, hover, hothers⟩ : ∃ asker others,
      (l.refreshAll (first :: rest)).2 = asker :: others ∧ asker.Over true ∧
        ∀ c ∈ others, c.Over false := by
    rw [refreshAll, hbound]
    rcases Nat.eq_zero_or_pos first.delay with hdelay | hdelay
    · exact run_prompt hfirst hrest hgood hd hturn hinterval hdelay (8 * rest.length + 5 + 2)
    · exact run_delayed hfirst hrest hother hgood hd hturn hsnapshot hinterval hdelay _
  rw [hrun]
  exact one_asked hover hothers

end LoneBalancer

namespace Crowd

/-- **Refreshes of one balancer follow their protocol, whatever is interleaved with them.** In a
calm run one query is asked while its answer is young, and calls that start together share one. -/
theorem run_protocol (preference : Option Preference) (settings : BalancerSettings) :
    (∀ events, (run preference settings events).FollowsProtocol) ∧
      (∀ events, (∀ e ∈ events, e.Calm) → (run preference settings events).Young →
        (run preference settings events).asked.length ≤ 1 ∧
          ∀ (c : Caller) (v : Visit) (ok : Bool),
            (run preference settings events).visits[c]? = some v → v.point = .done ok →
              ok = true ∧ (run preference settings events).asked.length = 1) ∧
      ∀ (now : Instant) (ledger : Ledger) (first : RefreshCall) (rest : List RefreshCall),
        (∀ c ∈ first :: rest, c.New) → ((first :: rest).map (·.caller)).Nodup →
        (∃ members, Member.ofAnswer first.answer = .ok members) → 0 < settings.refreshInterval →
          let after := LoneBalancer.refreshAll
            { balancer := { preference, settings }, now, ledger } (first :: rest)
          after.2.length = rest.length + 1 ∧ after.2.countP (·.queried) = 1 ∧
            ∀ c ∈ after.2, c.ok = true := by
  refine ⟨fun events => followsProtocol (orderly_run _ _ events) (recorded_run _ _ events),
    fun events hcalm hyoung => one_query_run preference settings hcalm hyoung,
    fun now ledger first rest hnew hdistinct hgood hinterval => ?_⟩
  have hrest : ∀ c ∈ rest, c.New := fun c hc => hnew c (List.mem_cons_of_mem _ hc)
  exact LoneBalancer.refreshAll_first (hnew first List.mem_cons_self) hrest hdistinct hgood rfl rfl
    rfl hinterval

/-- A call and its query, then a call that finds the turn taken, and the answer. -/
def firstTwo : List CrowdEvent :=
  [.arrive "a" 5 (.ok []), .step 0, .step 0, .step 0, .arrive "b" 0 (.ok []), .step 1, .step 1,
    .step 1, .step 1, .advance 5, .step 0, .step 0, .step 1, .step 1, .step 1]

/-- Three calls, and the query of each. -/
def firstThree : List RefreshCall :=
  [⟨0, "a", 7, .ok [], none, none, none⟩, ⟨1, "b", 3, .ok [], none, none, none⟩,
    ⟨2, "c", 0, .ok [], none, none, none⟩]

/-- Both calls of a run are done after the query of the first, and so are three calls that start
together. -/
theorem run_protocol_firstTwo :
    (run none {} firstTwo).visits.map (·.point) = [.done true, .done true] ∧
      (run none {} firstTwo).asked.length = 1 ∧
      (LoneBalancer.refreshAll { balancer := { preference := none, settings := {} } }
        firstThree).2.countP (·.queried) = 1 := by
  have hdone : (run none {} firstTwo).visits.map (·.point) = [.done true, .done true] := by
    decide +kernel
  have hcalm : ∀ e ∈ firstTwo, e.Calm := by
    have hgood : ∃ members, Member.ofAnswer (.ok []) = .ok members := ⟨_, rfl⟩
    simp [firstTwo, CrowdEvent.Calm, hgood]
  have hyoung : (run none {} firstTwo).Young := by
    have happlied : (run none {} firstTwo).applied = [(0, 5)] := by decide +kernel
    have hnow : (run none {} firstTwo).now = 5 := by decide +kernel
    intro a ha
    rw [happlied, List.mem_singleton] at ha
    subst ha
    rw [hnow]
    decide +kernel
  obtain ⟨-, hone, htogether⟩ := run_protocol none {}
  obtain ⟨v, hv, hp⟩ : ∃ v, (run none {} firstTwo).visits[0]? = some v ∧ v.point = .done true := by
    have hfirst : ((run none {} firstTwo).visits[0]?).map (·.point) = some (.done true) := by
      rw [← List.getElem?_map, hdone]
      rfl
    exact Option.map_eq_some_iff.mp hfirst
  have hnew : ∀ c ∈ firstThree, c.New := by
    simp only [firstThree, List.forall_mem_cons]
    exact ⟨⟨rfl, rfl, rfl⟩, ⟨rfl, rfl, rfl⟩, ⟨rfl, rfl, rfl⟩, List.forall_mem_nil _⟩
  have hthree := htogether 0 {} _ _ hnew (by decide) ⟨_, rfl⟩ (by decide)
  exact ⟨hdone, ((hone firstTwo hcalm hyoung).2 0 v true hv hp).2, hthree.2.1⟩

end Crowd

end ConnectionRouter
