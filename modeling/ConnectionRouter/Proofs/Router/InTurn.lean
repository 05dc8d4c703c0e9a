import ConnectionRouter.Config.Validation
import ConnectionRouter.Proofs.Router.Recovery
import ConnectionRouter.Proofs.Router.Steady
import ConnectionRouter.Proofs.Router.Waits

/-!
# Requests in turn

A router of a cluster that stays as it is serves any number of requests, one after another, while
the clock goes on as it likes. A request follows the stages that are allowed (`Site.Follows`) and
comes to its end within `Site.strides` steps; what it finds and what it leaves is the same but for
one more connection (`Service.Idle`, `Service.Busy`). From a new router on, all requests get a
connection to the best tier with a member that accepts, evenly spread over such members there, or
none gets one (`Service.run_places`).
-/

namespace ConnectionRouter

theorem World.router_enter (w : World) (r : Request) (stage : Stage) :
    (w.enter r stage).2.router = r.router := by
  unfold enter
  split <;> rfl

theorem World.router_carryOn (w : World) (r : Request) (part : Scene → Scene × Stage) :
    (w.carryOn r part).2.router = r.router := router_enter ..

namespace Site

variable {c : Site} {n : Nat} {w : World} {r : Request} {t : Stride} {past : List Stride}
  {s : Scene}

/-! ## A request at work -/

/-- A request has made its way as long as nothing has changed. -/
structure Follows (c : Site) (n : Nat) (w : World) (r : Request) (t : Stride)
    (past : List Stride) : Prop where
  network : c.network.Alike w.network
  scene : w.scene? r.router = some t.left
  stage_eq : r.stage = t.stage
  allows : c.Allows n r.caller t.left t.stage
  journey : AmongOthers r.caller (t :: past)
  listed : ∀ u ∈ t :: past, ∀ host ∈ u.left.balancer.pool.members, host ∈ c.members
  /-- A connect that is under way is over at once. -/
  due : ∀ addr purpose, r.stage = .opening addr purpose →
    ∃ time, r.due = some ⟨time, false⟩ ∧ time ≤ w.now

/-- More strides than a request makes. -/
def strides (c : Site) : Nat :=
  c.balancer.rankCount * (5 * c.members.size + c.seeds.length + 7) + c.seeds.length

/-- No request makes more strides than that. -/
theorem Follows.length_le (f : c.Follows n w r t past) : (t :: past).length ≤ c.strides := by
  have howns := f.allows.learns.owns
  have hstays := f.journey.plays.later.toStays
  have hranks : t.found.balancer.rankCount = c.balancer.rankCount := by
    rw [← hstays.rankCount_eq, Balancer.rankCount, howns.preference_eq]
    rfl
  have hseeds : t.found.router.seeds = c.seeds := hstays.seeds_eq.symm.trans howns.seeds_eq
  have hcard : c.members.keys.toFinset.card ≤ c.members.size := by
    rw [← Std.ExtTreeMap.length_keys]
    exact List.toFinset_card_le _
  have hlen := f.journey.length_add_waitsLeft_le (K := c.members.keys.toFinset)
    fun u hu host hm => List.mem_toFinset.mpr (Std.ExtTreeMap.mem_keys.mpr (f.listed u hu host hm))
  rw [hranks, hseeds] at hlen
  have hmono : c.balancer.rankCount *
      (5 * c.members.keys.toFinset.card + c.seeds.length + 7) ≤
        c.balancer.rankCount * (5 * c.members.size + c.seeds.length + 7) :=
    Nat.mul_le_mul_left _ (by omega)
  rw [strides]
  omega

/-- A stride has been made, and its stage is entered. -/
theorem follows_enter (hn : c.network.Alike w.network) (hs : w.scene? r.router = some s)
    (howns : c.Owns s) (h : c.Allows n r.caller t.left t.stage)
    (j : AmongOthers r.caller (t :: past))
    (hl : ∀ u ∈ past, ∀ host ∈ u.left.balancer.pool.members, host ∈ c.members) :
    c.Follows n ((w.setScene r.router t.left).enter r t.stage).1
      ((w.setScene r.router t.left).enter r t.stage).2 t past := by
  have howns' := h.learns.owns
  have hscene : (w.setScene r.router t.left).scene? r.router = some t.left :=
    World.scene?_setScene hs (howns'.id_eq.trans howns.id_eq.symm)
      (howns'.balancer_eq.trans (congrArg some howns'.id_eq.symm))
  have hlisted : ∀ u ∈ t :: past, ∀ host ∈ u.left.balancer.pool.members, host ∈ c.members :=
    List.forall_mem_cons.mpr ⟨fun _ hm => h.learns.mem_members hm, hl⟩
  unfold World.enter
  split
  · rename_i addr purpose hstage
    have hdelay : (w.network.attempt addr).2 = 0 := (hn.attempt_eq addr).trans (attempt_eq addr)
    refine ⟨hn.trans (.attempt w.network addr), hscene, rfl, h, j, hlisted,
      fun _ _ _ => ⟨w.now, ?_, Nat.le_refl _⟩⟩
    show some (Due.ofDelay w.now (w.network.attempt addr).2 _) = _
    rw [hdelay, Due.ofDelay_zero]
  · rename_i hopening
    exact ⟨hn, hscene, rfl, h, j, hlisted,
      fun addr purpose he => absurd he (hopening addr purpose)⟩

/-- A request begins. -/
theorem Rests.follows (h : c.Rests n s) (hn : c.network.Alike w.network)
    (hs : w.scene? r.router = some s) (pick : Nat) :
    ∃ t, c.Follows n (w.carryOn r (·.beginRound r.caller w.now 1 pick)).1
      (w.carryOn r (·.beginRound r.caller w.now 1 pick)).2 t [] := by
  let first : Stride := ⟨none, s, w.now, pick, (s.beginRound r.caller w.now 1 pick).1,
    (s.beginRound r.caller w.now 1 pick).2⟩
  have hallows : c.Allows n r.caller first.left first.stage := h.heads pick
  rw [World.carryOn_eq hs]
  exact ⟨first, follows_enter hn hs h.learns.owns hallows (.start ⟨rfl, h.learns.valid, rfl⟩)
    (by simp)⟩

/-- What a request waits for arrives. -/
theorem Follows.arrives (f : c.Follows n w r t past) (hr : r.result? = none) :
    ∃ network arrival, w.arrival? r = some (network, arrival) ∧ c.network.Alike network ∧
      c.Arrives t.left t.stage arrival ∧ t.stage.waitsFor arrival = true := by
  have hn := f.network
  have hs := f.scene
  have hdue := f.due
  have hstage := f.stage_eq
  have h := f.allows
  obtain ⟨name, caller, stage, due⟩ := r
  dsimp only at hs hstage hdue h
  subst hstage
  cases hst : t.stage with
  | awaitingControl round =>
    rw [hst] at h
    exact h.elim
  | awaitingTurn purpose =>
    rw [hst] at h
    exact h.elim
  | opening addr purpose =>
    obtain ⟨time, rfl, htime⟩ := hdue addr purpose hst
    refine ⟨(w.network.connect addr).1, .opened (Except.failure? (w.network.connect addr).2), ?_,
      hn.trans (.connect w.network addr), ?_, rfl⟩
    · simp only [World.arrival?, World.arrive, if_neg (Nat.not_lt.mpr htime),
        if_neg Bool.false_ne_true]
    · show addr.dial _ = _
      rw [← Network.connect_eq_dial, hn.connect_eq]
  | querying purpose =>
    rw [hst] at h
    obtain ⟨conn, hconn⟩ : ∃ conn, t.left.refreshConnection? purpose = some conn := by
      cases purpose with
      | cached round =>
        obtain ⟨⟨count, -, hknows⟩, -⟩ := h
        obtain ⟨addr, -, hcontrol⟩ := hknows.control
        exact ⟨_, hcontrol⟩
      | fresh round conn => exact ⟨conn, rfl⟩
      | check round held => exact ⟨held.conn, rfl⟩
    refine ⟨(w.network.query conn).1, .answered conn.addr.host (w.network.query conn).2, ?_,
      hn.trans (.query w.network conn), ⟨conn, hconn, rfl, hn.query_eq conn⟩, rfl⟩
    simp only [World.arrival?, hs, Option.bind_some, hconn, Option.map_some]
  | closing conn purpose =>
    exact ⟨_, _, rfl, hn.trans (.close w.network conn), trivial, rfl⟩
  | finished result =>
    simp [Request.result?, hst] at hr

/-- A request that waits for something works with the balancer. -/
theorem Allows.balanced {caller : Caller} {stage : Stage} (h : c.Allows n caller s stage)
    {arrival : Arrival} (hw : stage.waitsFor arrival = true) : stage.balanced = true := by
  cases stage with
  | opening addr purpose =>
    cases purpose with
    | seed later => exact h.elim
    | _ => rfl
  | finished result => cases hw
  | _ => rfl

/-- A request that is not over goes on. -/
theorem Follows.proceed (f : c.Follows n w r t past) (hr : r.result? = none) (pick : Nat) :
    ∃ w' r' t', w.proceed? r pick = some (w', r') ∧ r'.router = r.router ∧
      c.Follows n w' r' t' (t :: past) := by
  obtain ⟨network, arrival, harrival, hn, harrives, hwaits⟩ := f.arrives hr
  obtain ⟨left, stage, j⟩ := f.journey.exists_next hwaits (.refl t.left) w.now pick
  have hplays : t.left.proceed? r.caller w.now pick t.stage arrival = some (left, stage) := j.plays
  have hallows : c.Allows n r.caller left stage := f.allows.step harrives hplays
  have hbalanced : r.stage.balanced = true := f.stage_eq ▸ f.allows.balanced hwaits
  refine ⟨_, _, ⟨some (t.stage, arrival), t.left, w.now, pick, left, stage⟩, ?_,
    World.router_enter .., follows_enter (w := { w with network := network }) hn f.scene
      f.allows.learns.owns hallows j f.listed⟩
  rw [World.proceed?_eq f.scene hbalanced, harrival, f.stage_eq]
  simp only [Option.bind_some, hplays, Option.map_some]

/-- The next step, at whatever pace the clock goes. -/
theorem Follows.step (f : c.Follows n w r t past) (hr : r.result? = none) (pick : Nat) :
    ∃ w' r' t', w.resume? r pick = some (w', r') ∧ r'.router = r.router ∧
      c.Follows n w' r' t' (t :: past) := by
  have hlater : c.Follows n { w with now := w.now + w.tick } r t past :=
    ⟨f.network, f.scene, f.stage_eq, f.allows, f.journey, f.listed, fun addr purpose he => by
      obtain ⟨time, ht, htime⟩ := f.due addr purpose he
      exact ⟨time, ht, Nat.le_trans htime (Nat.le_add_right ..)⟩⟩
  exact hlater.proceed hr pick

/-- How many of so many requests get a connection: all of them, or none if no member accepts. -/
def served (c : Site) (k : Nat) : Nat := if c.front = ∅ then 0 else k

theorem served_zero (c : Site) : c.served 0 = 0 := by simp [served]

theorem served_eq_zero (h : c.front = ∅) (k : Nat) : c.served k = 0 := if_pos h

theorem served_eq (h : c.front ≠ ∅) (k : Nat) : c.served k = k := if_neg h

/-- A connection to a member of the best tier that accepts. -/
def Places (c : Site) (x : RoutedConnection) : Prop :=
  ∃ lease, x.lease = some lease ∧ lease.host ∈ c.front ∧ c.Reaches x.conn lease

end Site

namespace Service

variable {c : Site} {name : String} {n : Nat} {s : Service} {t : Stride} {past : List Stride}

/-! ## Moments of a run -/

/-- Something holds at every moment of a run from here. -/
def Throughout (P : Service → Prop) (s : Service) (events : List ServiceEvent) : Prop :=
  ∀ past, past <+: events → P (past.foldl after s)

theorem throughout_nil {P : Service → Prop} (h : P s) : Throughout P s [] := by
  intro past hpast
  rw [List.prefix_nil.mp hpast]
  exact h

theorem throughout_cons {P : Service → Prop} {e : ServiceEvent} {events : List ServiceEvent}
    (h : P s) (hrest : Throughout P (s.after e) events) : Throughout P s (e :: events) := by
  intro past hpast
  rcases List.prefix_cons_iff.mp hpast with rfl | ⟨rest, rfl, hprefix⟩
  · exact h
  · exact hrest rest hprefix

theorem throughout_append {P : Service → Prop} {events later : List ServiceEvent}
    (h : Throughout P s events) (hlater : Throughout P (events.foldl after s) later) :
    Throughout P s (events ++ later) := by
  induction events generalizing s with
  | nil => exact hlater
  | cons e events ih =>
    refine throughout_cons (h [] List.nil_prefix) (ih (fun past hpast => ?_) hlater)
    exact h (e :: past) (List.cons_prefix_cons.mpr ⟨rfl, hpast⟩)

/-! ## Requests in turn -/

/-- A request of many: how far the clock moves before it begins, and how its ties are broken. -/
structure Errand where
  pause : Duration
  pick : Nat
  picks : List Nat

/-- The clock moves, a request takes all its steps, and its result is handed out. -/
def Errand.events (name : String) (e : Errand) : List ServiceEvent :=
  .advance e.pause :: (askEvents name e.pick e.picks ++ [.deliver 0])

/-- No member that accepts is in quarantine. -/
def Calm (s : Service) (c : Site) (name : String) : Prop :=
  ∀ scene, s.world.scene? name = some scene → ∀ k, c.Good k →
    scene.balancer.pool.isQuarantined k = false

/-- So many connections have been handed out, all of them placed. -/
structure Placed (s : Service) (c : Site) (n : Nat) : Prop where
  length_eq : s.handedOut.length = n
  places : ∀ x ∈ s.handedOut, c.Places x

/-- Nothing is under way. -/
structure Idle (s : Service) (c : Site) (name : String) (n : Nat) : Prop extends s.Placed c n where
  requests : s.requests = []
  network : c.network.Alike s.world.network
  scene : ∃ scene, s.world.scene? name = some scene ∧ c.Rests n scene

/-- One request is under way. -/
structure Busy (s : Service) (c : Site) (name : String) (n : Nat) (r : Request) (t : Stride)
    (past : List Stride) : Prop extends s.Placed c n where
  requests : s.requests = [r]
  router_eq : r.router = name
  follows : c.Follows n s.world r t past

theorem calm_of_learns {scene : Scene} (hs : s.world.scene? name = some scene)
    (h : c.Learns scene) : s.Calm c name := by
  intro scene' hs' k hk
  rw [hs] at hs'
  cases hs'
  exact h.free hk

theorem calm_of_scene?_eq_none (h : s.world.scene? name = none) : s.Calm c name := by
  intro scene hs
  rw [h] at hs
  cases hs

theorem Idle.calm (h : s.Idle c name n) : s.Calm c name := by
  obtain ⟨scene, hs, hrests⟩ := h.scene
  exact calm_of_learns hs hrests.learns

theorem Busy.calm {r : Request} (h : s.Busy c name n r t past) : s.Calm c name :=
  calm_of_learns (h.router_eq ▸ h.follows.scene) h.follows.allows.learns

/-- The clock moves. -/
theorem Idle.advance (h : s.Idle c name n) (duration : Duration) :
    (s.after (.advance duration)).Idle c name n :=
  ⟨⟨h.length_eq, h.places⟩, h.requests, h.network, h.scene⟩

/-- A request begins. -/
theorem Idle.request (h : s.Idle c name n) (pick : Nat) :
    ∃ r t, (s.after (.request name pick)).Busy c name n r t [] := by
  obtain ⟨scene, hs, hrests⟩ := h.scene
  obtain ⟨t, hfollows⟩ := hrests.follows (r := ⟨name, s.callers, _, none⟩) h.network hs pick
  rw [after_request hs, h.requests]
  exact ⟨_, t, ⟨h.length_eq, h.places⟩, rfl, World.router_carryOn .., hfollows⟩

/-- The request takes a step. -/
theorem Busy.resume {r : Request} (h : s.Busy c name n r t past) (hr : r.result? = none)
    (pick : Nat) :
    ∃ r' t', (s.after (.resume 0 pick)).Busy c name n r' t' (t :: past) := by
  obtain ⟨w', r', t', hstep, hrouter, hfollows⟩ := h.follows.step hr pick
  have hafter : s.after (.resume 0 pick) = { s with world := w', requests := [r'] } := by
    simp [after, step?, h.requests, hstep]
  rw [hafter]
  exact ⟨r', t', ⟨h.length_eq, h.places⟩, rfl, hrouter.trans h.router_eq, hfollows⟩

/-- A request that is over stays as it is. -/
theorem Busy.throughout_resume {r : Request} (h : s.Busy c name n r t past)
    {result : Except RoutingError RoutedConnection} (hr : r.result? = some result)
    (picks : List Nat) : Throughout (·.Calm c name) s (picks.map (.resume 0)) := by
  induction picks with
  | nil => exact throughout_nil h.calm
  | cons pick picks ih =>
    refine throughout_cons h.calm ?_
    rwa [after_resume_of_result h.requests hr]

/-- A request that takes as many steps as it can make comes to its end. -/
theorem Busy.resumes (picks : List Nat) :
    ∀ {s : Service} {r : Request} {t : Stride} {past : List Stride}, s.Busy c name n r t past →
      c.strides ≤ (t :: past).length + picks.length →
      Throughout (·.Calm c name) s (picks.map (.resume 0)) ∧
        ∃ r t past, ((picks.map (.resume 0)).foldl after s).Busy c name n r t past ∧
          r.result?.isSome = true := by
  induction picks with
  | nil =>
    intro s r t past h hle
    refine ⟨throughout_nil h.calm, r, t, past, h, ?_⟩
    cases hr : r.result? with
    | some result => rfl
    | none =>
      obtain ⟨r', t', h'⟩ := h.resume hr 0
      have hlen := h'.follows.length_le
      rw [List.length_cons] at hlen
      exact absurd (Nat.le_trans hlen hle) (Nat.not_succ_le_self _)
  | cons pick picks ih =>
    intro s r t past h hle
    cases hr : r.result? with
    | some result =>
      refine ⟨h.throughout_resume hr _, r, t, past, ?_, by rw [hr]; rfl⟩
      rwa [foldl_resume_of_result h.requests hr]
    | none =>
      obtain ⟨r', t', h'⟩ := h.resume hr pick
      have hleft : c.strides ≤ (t' :: t :: past).length + picks.length := by
        simp only [List.length_cons] at hle ⊢
        omega
      obtain ⟨hcalm, hend⟩ := ih h' hleft
      exact ⟨throughout_cons h.calm hcalm, hend⟩

/-- The result is handed out: a connection to the front, or an error if there is nobody. -/
theorem Busy.deliver {r : Request} (h : s.Busy c name n r t past) (hr : r.result?.isSome = true) :
    (c.front ≠ ∅ ∧ (s.after (.deliver 0)).Idle c name (n + 1)) ∨
      (c.front = ∅ ∧ (s.after (.deliver 0)).Idle c name n) := by
  obtain ⟨result, hresult⟩ := Option.isSome_iff_exists.mp hr
  have hafter : s.after (.deliver 0) =
      { s with requests := [], handedOut := result.toOption.toList ++ s.handedOut } := by
    simp [after, step?, h.requests, hresult]
  have hallows := h.follows.allows
  have hscene : s.world.scene? name = some t.left := h.router_eq ▸ h.follows.scene
  have hstage : t.stage = .finished result := by
    rw [← h.follows.stage_eq]
    unfold Request.result? at hresult
    split at hresult
    · rename_i hs
      rw [hs, Option.some.inj hresult]
    · cases hresult
  rw [hstage] at hallows
  rw [hafter]
  cases result with
  | error e =>
    obtain ⟨hrests, hfront⟩ := hallows
    exact .inr ⟨hfront, ⟨h.length_eq, h.places⟩, rfl, h.follows.network, t.left, hscene, hrests⟩
  | ok x =>
    obtain ⟨conn, lease⟩ := x
    cases lease with
    | none => exact hallows.elim
    | some lease =>
      obtain ⟨turns, hleads, hreach⟩ := hallows
      have hfront : lease.host ∈ c.front := by
        obtain ⟨count, -, hfront, -⟩ := hleads
        exact hfront
      refine .inl ⟨Finset.ne_empty_of_mem hfront, ⟨?_, ?_⟩, rfl, h.follows.network, t.left, hscene,
        hleads.rests turns⟩
      · show s.handedOut.length + 1 = n + 1
        rw [h.length_eq]
      · exact List.forall_mem_cons.mpr ⟨⟨lease, rfl, hfront, hreach⟩, h.places⟩

/-- A request from its start until its result is handed out. -/
theorem Idle.errand {k : Nat} (h : s.Idle c name (c.served k)) (e : Errand)
    (hle : c.strides ≤ e.picks.length) :
    Throughout (·.Calm c name) s (e.events name) ∧
      ((e.events name).foldl after s).Idle c name (c.served (k + 1)) := by
  have hadvance := h.advance e.pause
  obtain ⟨r, t, hrequest⟩ := hadvance.request e.pick
  obtain ⟨hcalm, r', t', past, hend, hr⟩ := hrequest.resumes e.picks (by omega)
  have hidle : ((((e.picks.map (.resume 0)).foldl after
      ((s.after (.advance e.pause)).after (.request name e.pick))).after (.deliver 0))).Idle c name
        (c.served (k + 1)) := by
    rcases hend.deliver hr with ⟨hfront, hidle⟩ | ⟨hfront, hidle⟩
    · rwa [Site.served_eq hfront] at hidle ⊢
    · rwa [Site.served_eq_zero hfront] at hidle ⊢
  refine ⟨throughout_cons h.calm (throughout_append (throughout_cons hadvance.calm hcalm)
    (throughout_cons hend.calm (throughout_nil hidle.calm))), ?_⟩
  rwa [Errand.events, askEvents, List.cons_append, List.foldl_cons, List.foldl_cons,
    List.foldl_append, List.foldl_cons, List.foldl_nil]

/-- Requests one after another. -/
theorem Idle.errands (errands : List Errand) :
    ∀ {s : Service} {k : Nat}, s.Idle c name (c.served k) →
      (∀ e ∈ errands, c.strides ≤ e.picks.length) →
      Throughout (·.Calm c name) s (errands.flatMap (·.events name)) ∧
        ((errands.flatMap (·.events name)).foldl after s).Idle c name
          (c.served (k + errands.length)) := by
  induction errands with
  | nil => exact fun h _ => ⟨throughout_nil h.calm, h⟩
  | cons e errands ih =>
    intro s k h hle
    obtain ⟨hfirst, hrest⟩ := List.forall_mem_cons.mp hle
    obtain ⟨hcalm, hidle⟩ := h.errand e hfirst
    obtain ⟨hcalm', hidle'⟩ := ih hidle hrest
    rw [List.flatMap_cons, List.foldl_append, List.length_cons, Nat.add_comm errands.length,
      ← Nat.add_assoc]
    exact ⟨throughout_append hcalm hcalm', hidle'⟩

end Service

/-! ## A new router -/

/-- What a router of a configuration finds in a cluster of nodes, over a registry of its own. -/
def Site.ofConfig (nodes : List Node) (config : Config) : Site where
  nodes := nodes
  id := 0
  seeds := config.cluster.seeds.filterMap fun seed =>
    (HostAddr.parse seed config.cluster.defaultPort).toOption
  preference := config.loadBalance.topologyKeys.bind fun keys => (Preference.parse keys).toOption
  settings := .ofConfig config.loadBalance config.cluster.defaultPort

theorem List.mapM_eq_filterMap {α β : Type} {f : α → Except RoutingError β} {l : List α}
    (h : ∀ a ∈ l, ∃ b, f a = .ok b) : l.mapM f = .ok (l.filterMap fun a => (f a).toOption) := by
  induction l with
  | nil => rfl
  | cons a l ih =>
    obtain ⟨⟨b, hb⟩, hl⟩ := List.forall_mem_cons.mp h
    rw [List.mapM_cons, hb, ih hl]
    simp [hb, Except.toOption]
    rfl

/-- The seeds and the preference of a valid configuration are read. -/
theorem Config.parses_of_valid {config : Config} (valid : config.faults = []) :
    config.cluster.seeds ≠ [] ∧
      (∀ seed ∈ config.cluster.seeds,
        ∃ addr, HostAddr.parse seed config.cluster.defaultPort = .ok addr) ∧
      ∀ keys ∈ config.loadBalance.topologyKeys,
        ∃ preference, Preference.parse keys = .ok preference := by
  simp only [faults, List.append_eq_nil_iff, List.flatMap_eq_nil_iff] at valid
  obtain ⟨⟨⟨⟨hseeds, hparse⟩, -⟩, -⟩, hkeys⟩ := valid
  refine ⟨fun he => ?_, fun seed hs => ?_, fun keys hk => ?_⟩
  · rw [if_pos he] at hseeds
    exact List.cons_ne_nil _ _ hseeds
  · cases hp : HostAddr.parse seed config.cluster.defaultPort with
    | ok addr => exact ⟨addr, rfl⟩
    | error e =>
      have hnil := hparse seed hs
      rw [hp] at hnil
      exact absurd hnil (List.cons_ne_nil _ _)
  · cases hp : Preference.parse keys with
    | ok preference => exact ⟨preference, rfl⟩
    | error e =>
      have hnil := hkeys keys (Option.mem_toList.mpr hk)
      rw [hp] at hnil
      exact absurd hnil (List.cons_ne_nil _ _)

/-- A valid configuration makes a router. -/
theorem Router.create_of_valid {config : Config} (nodes : List Node) (valid : config.faults = [])
    (enabled : config.loadBalance.enabled = true) :
    ∃ signature, Router.create config {} =
      .ok ({ seeds := (Site.ofConfig nodes config).seeds
             connectSecs := config.timeouts.connectSecs
             balancer := some 0 },
        ⟨[(signature, (Site.ofConfig nodes config).balancer)]⟩) := by
  obtain ⟨hseeds, hparse, hkeys⟩ := Config.parses_of_valid valid
  have hread : config.cluster.seeds.mapM (HostAddr.parse · config.cluster.defaultPort) =
      .ok (Site.ofConfig nodes config).seeds := List.mapM_eq_filterMap hparse
  have hne : (Site.ofConfig nodes config).seeds ≠ [] := by
    obtain ⟨seed, rest, hcons⟩ := List.exists_cons_of_ne_nil hseeds
    obtain ⟨addr, ha⟩ := hparse seed (by simp [hcons])
    simp [Site.ofConfig, hcons, ha, Except.toOption]
  have hpreference : config.loadBalance.topologyKeys.mapM Preference.parse =
      .ok (Site.ofConfig nodes config).preference := by
    cases hk : config.loadBalance.topologyKeys with
    | none => simp [Site.ofConfig, hk]; rfl
    | some keys =>
      obtain ⟨preference, hp⟩ := hkeys keys hk
      simp [Site.ofConfig, hk, hp, Except.toOption, Functor.map, Except.map]
  have hentry (signature : Signature) : ({} : Registry).get? signature = none := rfl
  refine ⟨.ofSeeds (Site.ofConfig nodes config).seeds config.loadBalance.topologyKeys, ?_⟩
  simp [Router.create, Registry.getOrCreate, hread, hpreference, hne, enabled, hentry, bind,
    Except.bind, pure, Except.pure, Registry.size, Site.balancer]
  rfl

/-- A configuration makes a router under a new name. -/
theorem Service.after_create {s : Service} {name : String} (hnew : s.world.routers[name]? = none)
    {config : Config} {r : Router} {registry : Registry}
    (h : Router.create config s.world.registry = .ok (r, registry)) :
    s.after (.create name config) =
      { s with world := { s.world with
          routers := s.world.routers.insert name r
          registry := registry } } := by
  simp [after, step?, hnew, h, Except.toOption, World.install_eq hnew]

/-- A router that was just made has nothing under way. -/
theorem Service.idle_create {config : Config} (nodes : List Node) (tick : Duration) (name : String)
    (valid : config.faults = []) (enabled : config.loadBalance.enabled = true) :
    ((start nodes tick).after (.create name config)).Idle (Site.ofConfig nodes config) name 0 := by
  obtain ⟨signature, hcreate⟩ := Router.create_of_valid nodes valid enabled
  let r : Router :=
    { seeds := (Site.ofConfig nodes config).seeds
      connectSecs := config.timeouts.connectSecs
      balancer := some 0 }
  let scene : Scene := ⟨r, 0, (Site.ofConfig nodes config).balancer, {}⟩
  have hfresh : (Site.ofConfig nodes config).Fresh scene := ⟨⟨rfl, rfl, rfl, rfl, rfl⟩, rfl, rfl⟩
  rw [after_create (by simp [start]) hcreate]
  refine ⟨⟨rfl, by simp [start]⟩, rfl, .refl _, scene, ?_, ⟨rfl, rfl⟩, .inl ⟨rfl, hfresh⟩⟩
  simp [World.scene?, Registry.balancer?]
  rfl

namespace Service

/-- A router is made, and requests to it come one after another. -/
def inTurnEvents (name : String) (config : Config) (errands : List Errand) : List ServiceEvent :=
  .create name config :: errands.flatMap (·.events name)

/-- **Balanced placement.** In a cluster that stays as it is, a router of its own registry serves
requests in turn, each with the steps that it needs. If no member that it comes to know accepts
connections, no request gets one. Else all of them get a connection to the best tier with a member
that accepts, spread evenly over such members there: the counts of these differ by at most one and
add up to all connections, as far as 64-bit numbers count. No member that accepts is in quarantine
at any moment. -/
theorem run_places (nodes : List Node) (tick : Duration) (name : String) (config : Config)
    (valid : config.faults = []) (enabled : config.loadBalance.enabled = true)
    (errands : List Errand)
    (hsteps : ∀ e ∈ errands, (Site.ofConfig nodes config).strides ≤ e.picks.length) :
    let c := Site.ofConfig nodes config
    let events := inTurnEvents name config errands
    let s := run nodes tick events
    s.requests = [] ∧ (c.front = ∅ → s.handedOut = []) ∧
      (c.front ≠ ∅ → s.handedOut.length = errands.length ∧ (∀ x ∈ s.handedOut, c.Places x) ∧
        ∃ scene, s.world.scene? name = some scene ∧
          Spread c.front errands.length scene.balancer.pool.countOf) ∧
      Throughout (·.Calm c name) (start nodes tick) events := by
  intro c events s
  have hcreate : ((start nodes tick).after (.create name config)).Idle c name (c.served 0) :=
    (Site.served_zero c).symm ▸ idle_create nodes tick name valid enabled
  obtain ⟨hcalm, hidle⟩ := hcreate.errands errands hsteps
  rw [Nat.zero_add] at hidle
  refine ⟨hidle.requests, fun hfront => ?_, fun hfront => ?_, throughout_cons ?_ hcalm⟩
  · exact List.length_eq_zero_iff.mp (hidle.length_eq.trans (Site.served_eq_zero hfront _))
  · rw [c.served_eq hfront] at hidle
    obtain ⟨scene, hs, hrests⟩ := hidle.scene
    exact ⟨hidle.length_eq, hidle.places, scene, hs, hrests.spread⟩
  · exact calm_of_scene?_eq_none (by simp [start, World.scene?])

/-- The node of the first tier is down, and so is the first seed; two nodes are up in the second
tier, one is up behind all tiers, and one of the first tier is not listed. -/
def preferredDown : List Node :=
  [{ host := "a", cloud := "c", region := "r", zone := "z", up := false },
    { host := "b", cloud := "c", region := "r", zone := "y" },
    { host := "d", cloud := "c", region := "r", zone := "x" },
    { host := "e", cloud := "c", region := "q", zone := "z" },
    { host := "f", cloud := "c", region := "r", zone := "z", listed := false }]

/-- A router that prefers the zone of the node that is down. -/
def zoneFirst : Config where
  cluster := { seeds := ["a", "b"] }
  loadBalance := { topologyKeys := some "c.r.z:1,c.r.*:2" }

/-- A minute before each request, so that the node that is down is tried again and again. -/
theorem run_places_preferredDown :
    zoneFirst.faults = [] ∧ zoneFirst.loadBalance.enabled = true ∧
      let errands : List Errand := List.replicate 3 ⟨.ofSeconds 60, 0, List.replicate 89 0⟩
      let s := run preferredDown 0 (inTurnEvents "r" zoneFirst errands)
      (∀ e ∈ errands, (Site.ofConfig preferredDown zoneFirst).strides ≤ e.picks.length) ∧
        s.handedOut.length = 3 ∧
        ∃ scene, s.world.scene? "r" = some scene ∧
          Spread {"b", "d"} 3 scene.balancer.pool.countOf := by
  have valid : zoneFirst.faults = [] := by decide +kernel
  have hfront : (Site.ofConfig preferredDown zoneFirst).front = {"b", "d"} := by decide +kernel
  have hsteps : ∀ e ∈ List.replicate 3 (⟨.ofSeconds 60, 0, List.replicate 89 0⟩ : Errand),
      (Site.ofConfig preferredDown zoneFirst).strides ≤ e.picks.length := by
    intro e he
    rw [List.eq_of_mem_replicate he]
    decide +kernel
  obtain ⟨-, -, hplaced, -⟩ :=
    run_places preferredDown 0 "r" zoneFirst valid rfl (List.replicate 3 _) hsteps
  obtain ⟨hlength, -, hspread⟩ := hplaced (by rw [hfront]; exact Finset.insert_ne_empty _ _)
  rw [hfront] at hspread
  exact ⟨valid, rfl, hsteps, hlength, hspread⟩

end Service

end ConnectionRouter
