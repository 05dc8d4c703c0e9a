import ConnectionRouter.Proofs.Router.Service

/-!
# Who stands at the turns of balancers

A balancer's turn is held by the request whose query is under way, and waited for by requests that
have to query. Requests of several routers meet at the turn of a balancer that they share.

* `Stage.atTurn`: whether a request stands at its balancer's turn.
* `Scene.Steps`: what a part of a request does to that turn, one lemma for each part.
* `World.Steps`: the same for a whole step.
* `Service.turnsKnown_run`: in every run those who stand at the turn of a balancer are requests of
  its routers, each once, so that the turn of a balancer without such a request is free
  (`Service.turn_eq_of_idle`).
-/

namespace ConnectionRouter

/-- Whether a request stands at its balancer's turn. -/
def Stage.atTurn : Stage → Bool
  | awaitingTurn _ | querying _ => true
  | _ => false

/-! ## Parts of a request -/

namespace Scene

/-- What a caller does to the balancer's turn of a scene on its way to a stage. -/
structure Steps (caller : Caller) (s : Scene) (r : Scene × Stage) : Prop where
  id_eq : r.1.id = s.id
  others : s.balancer.turn.KeepsOthers caller r.1.balancer.turn
  nodup : r.1.balancer.turn.members.Nodup
  own : caller ∈ r.1.balancer.turn.members → r.2.atTurn = true

/-- A part that leaves the balancer's turn alone. -/
structure SameTurn (s : Scene) (r : Scene) : Prop where
  id_eq : r.id = s.id
  turn_eq : r.balancer.turn = s.balancer.turn

variable {caller : Caller} {s s' : Scene} {r : Scene × Stage}

theorem SameTurn.trans {s'' : Scene} (h : SameTurn s s') (h' : SameTurn s' s'') :
    SameTurn s s'' := ⟨h'.id_eq.trans h.id_eq, h'.turn_eq.trans h.turn_eq⟩

/-- A caller that does not stand at the turn and leaves it alone. -/
theorem Steps.of_sameTurn (h : SameTurn s r.1) (hn : s.balancer.turn.members.Nodup)
    (hc : caller ∉ s.balancer.turn.members) : Steps caller s r where
  id_eq := h.id_eq
  others := by
    rw [h.turn_eq]
    exact .refl caller _
  nodup := by rwa [h.turn_eq]
  own hm := by
    rw [h.turn_eq] at hm
    exact absurd hm hc

theorem sameTurn_failHost (s : Scene) (lease : Lease) (now : Instant) :
    SameTurn s (s.failHost lease now) := ⟨rfl, rfl⟩

theorem sameTurn_reserveNext (s : Scene) (round : Nat) (refused : List HostKey) (pick : Nat) :
    SameTurn s (s.reserveNext round refused pick).1 := by
  unfold reserveNext
  split
  · exact ⟨rfl, rfl⟩
  · rename_i b host addr metric hr
    have hb : b = (s.balancer.reserve refused pick).1 := by rw [hr]
    exact ⟨rfl, by rw [hb]; rfl⟩

theorem sameTurn_tryControl (s : Scene) (caller : Caller) (round total : Nat)
    (addrs : List HostAddr) : SameTurn s (s.tryControl caller round total addrs).1 := by
  cases addrs <;> exact ⟨rfl, rfl⟩

theorem sameTurn_keep (s : Scene) (round : Nat) (held : Held) :
    SameTurn s (s.keep round held).1 := by
  unfold keep
  dsimp only
  split <;> exact ⟨rfl, rfl⟩

theorem sameTurn_refreshed (s : Scene) (caller : Caller) (pick : Nat) (ok : Bool)
    (purpose : RefreshPurpose) : SameTurn s (s.refreshed caller pick ok purpose).1 := by
  cases purpose with
  | cached round =>
    cases ok with
    | true =>
      have h : SameTurn s (s.leaveControl caller) := ⟨rfl, rfl⟩
      exact h.trans (sameTurn_reserveNext _ round [] pick)
    | false =>
      rw [refreshed, if_neg Bool.false_ne_true]
      cases s.router.control with
      | some conn => exact ⟨rfl, rfl⟩
      | none => exact sameTurn_tryControl s caller round _ _
  | fresh round conn =>
    cases ok with
    | true =>
      have h : SameTurn s
          ({ s with router := { s.router with control := some conn } }.leaveControl caller) :=
        ⟨rfl, rfl⟩
      exact h.trans (sameTurn_reserveNext _ round [] pick)
    | false => exact ⟨rfl, rfl⟩
  | check round held =>
    rw [refreshed]
    split
    · exact ⟨rfl, rfl⟩
    · exact sameTurn_keep s round held

theorem startRefresh_steps (hn : s.balancer.turn.members.Nodup)
    (hc : caller ∉ s.balancer.turn.members) (now : Instant) (pick : Nat)
    (purpose : RefreshPurpose) : Steps caller s (s.startRefresh caller now pick purpose) := by
  unfold startRefresh
  rcases s.balancer.startRefresh_cases caller now with
    ⟨turn, -, ht, he⟩ | ⟨-, ht, -, he⟩ | ⟨-, he⟩ <;> rw [he]
  · exact ⟨rfl, Turn.keepsOthers_take ht, Turn.nodup_members_take hn hc ht, fun _ => rfl⟩
  · exact ⟨rfl, Turn.keepsOthers_wait _ caller, Turn.nodup_members_wait hn hc, fun _ => rfl⟩
  · have h := sameTurn_refreshed { s with ledger := s.ledger.note (some (.refresh .skipped)) }
      caller pick true purpose
    exact .of_sameTurn ⟨h.id_eq, h.turn_eq⟩ hn hc

/-- A caller that leaves the turn and then leaves it alone. -/
theorem Steps.of_leave (h : SameTurn s' r.1) (hid : s'.id = s.id)
    (hturn : s'.balancer.turn = s.balancer.turn.leave caller)
    (hn : s.balancer.turn.members.Nodup) : Steps caller s r where
  id_eq := h.id_eq.trans hid
  others := by
    rw [h.turn_eq, hturn]
    exact Turn.keepsOthers_leave _ caller
  nodup := by
    rw [h.turn_eq, hturn]
    exact Turn.nodup_members_leave hn caller
  own hm := by
    rw [h.turn_eq, hturn] at hm
    exact absurd hm (Turn.not_mem_members_leave hn caller)

theorem turnGranted_steps (hn : s.balancer.turn.members.Nodup) (now : Instant) (pick : Nat)
    (purpose : RefreshPurpose) : Steps caller s (s.turnGranted caller now pick purpose) := by
  unfold turnGranted
  rcases s.balancer.resumeRefresh_cases caller now with he | he <;> rw [he]
  · exact ⟨rfl, .refl caller _, hn, fun _ => rfl⟩
  · have h := sameTurn_refreshed
      { s with balancer := { s.balancer with turn := s.balancer.turn.leave caller } } caller pick
      true purpose
    exact .of_leave h rfl rfl hn

theorem answered_steps (hn : s.balancer.turn.members.Nodup) (now : Instant) (pick : Nat)
    (purpose : RefreshPurpose) (control : String) (answer : Except RoutingError (List Row)) :
    Steps caller s (s.answered caller now pick purpose control answer) := by
  have hturn := s.balancer.turn_finishRefresh caller now control answer
  unfold answered
  rcases hf : s.balancer.finishRefresh caller now control answer with ⟨b, ok, metric⟩
  rw [hf] at hturn
  have h := sameTurn_refreshed { s with balancer := b, ledger := s.ledger.note metric } caller pick
    ok purpose
  exact .of_leave h rfl hturn hn

theorem controlGranted_steps (hn : s.balancer.turn.members.Nodup)
    (hc : caller ∉ s.balancer.turn.members) (now : Instant) (round pick : Nat) :
    Steps caller s (s.controlGranted caller now round pick) := by
  unfold controlGranted
  cases s.router.control with
  | some conn => exact startRefresh_steps hn hc now pick (.cached round)
  | none => exact .of_sameTurn (sameTurn_tryControl s caller round _ _) hn hc

theorem beginRound_steps (hn : s.balancer.turn.members.Nodup)
    (hc : caller ∉ s.balancer.turn.members) (now : Instant) (round pick : Nat) :
    Steps caller s (s.beginRound caller now round pick) := by
  unfold beginRound
  split
  · cases ht : s.router.turn.take? caller with
    | some turn =>
      have h := controlGranted_steps (s := { s with router := { s.router with turn := turn } })
        hn hc now round pick
      exact ⟨h.id_eq, h.others, h.nodup, h.own⟩
    | none =>
      dsimp only
      split
      · exact .of_sameTurn (sameTurn_reserveNext s round [] pick) hn hc
      · exact .of_sameTurn ⟨rfl, rfl⟩ hn hc
  · exact .of_sameTurn (sameTurn_reserveNext s round [] pick) hn hc

theorem opened_steps (hn : s.balancer.turn.members.Nodup) (hc : caller ∉ s.balancer.turn.members)
    (now : Instant) (pick : Nat) (purpose : OpenPurpose)
    (result : Except RoutingError Connection) :
    Steps caller s (s.opened caller now pick purpose result) := by
  cases purpose with
  | control round later total =>
    cases result with
    | ok conn => exact startRefresh_steps hn hc now pick (.fresh round conn)
    | error e => exact .of_sameTurn (sameTurn_tryControl s caller round total later) hn hc
  | data round lease refused =>
    cases result with
    | ok conn => exact startRefresh_steps hn hc now pick (.check round ⟨lease, conn, refused⟩)
    | error e =>
      have h := (sameTurn_failHost (s.count (.connectAttempt .failed)) lease now).trans
        (sameTurn_reserveNext _ round (lease.host :: refused) pick)
      exact .of_sameTurn ⟨h.id_eq, h.turn_eq⟩ hn hc
  | seed later => exact .of_sameTurn ⟨rfl, rfl⟩ hn hc

theorem closed_steps (hn : s.balancer.turn.members.Nodup) (hc : caller ∉ s.balancer.turn.members)
    (now : Instant) (pick : Nat) (purpose : ClosePurpose) :
    Steps caller s (s.closed caller now pick purpose) := by
  cases purpose with
  | stale round => exact .of_sameTurn (sameTurn_tryControl s caller round _ _) hn hc
  | rejected round lease refused =>
    exact .of_sameTurn ((sameTurn_failHost s lease now).trans
      (sameTurn_reserveNext _ round (lease.host :: refused) pick)) hn hc
  | preempted round lease =>
    have h := beginRound_steps (s := s.release lease) hn hc now (round + 1) pick
    exact ⟨h.id_eq, h.others, h.nodup, h.own⟩

/-- A request that is given up leaves the turn. -/
theorem abandon_steps (hn : s.balancer.turn.members.Nodup) {stage : Stage}
    (hc : caller ∈ s.balancer.turn.members → stage.atTurn = true) :
    Steps caller s
      ((s.abandon caller stage).1, .finished (.error (.clusterUnavailable .noSeeds))) := by
  have haway : stage.atTurn = false → caller ∉ s.balancer.turn.members := by
    intro h hm
    rw [hc hm] at h
    cases h
  cases stage with
  | awaitingTurn purpose | querying purpose =>
    have hleave : ∀ r : Scene, SameTurn { s with balancer := s.balancer.abandonRefresh caller } r →
        Steps caller s (r, .finished (.error (.clusterUnavailable .noSeeds))) :=
      fun r h => .of_leave h rfl rfl hn
    cases purpose <;> exact hleave _ ⟨rfl, rfl⟩
  | awaitingControl round => exact .of_sameTurn ⟨rfl, rfl⟩ hn (haway rfl)
  | opening addr purpose => cases purpose <;> exact .of_sameTurn ⟨rfl, rfl⟩ hn (haway rfl)
  | closing conn purpose => cases purpose <;> exact .of_sameTurn ⟨rfl, rfl⟩ hn (haway rfl)
  | finished result => exact .of_sameTurn ⟨rfl, rfl⟩ hn (haway rfl)

end Scene

/-! ## Steps of a request -/

namespace World

/-- Nobody stands twice at the turn of a balancer. -/
def NobodyQueriesTwice (w : World) : Prop :=
  ∀ (id : BalancerId) (b : Balancer), w.registry.balancer? id = some b → b.turn.members.Nodup

/-- A caller stands at the turn of its router's balancer only if it is said to. -/
def QueriesOnlyIf (w : World) (name : String) (caller : Caller) (said : Bool) : Prop :=
  ∀ (id : BalancerId) (b : Balancer), w.balancerOf? name = some id →
    w.registry.balancer? id = some b → caller ∈ b.turn.members → said = true

/-- What a caller of a router does to the turns of the balancers. -/
structure Steps (name : String) (caller : Caller) (w w' : World) (said : Bool) : Prop where
  others : ∀ id, w.balancerOf? name ≠ some id → w'.registry.balancer? id = w.registry.balancer? id
  own : ∀ (id : BalancerId) (b' : Balancer), w.balancerOf? name = some id →
    w'.registry.balancer? id = some b' → ∃ b, w.registry.balancer? id = some b ∧
      b.turn.KeepsOthers caller b'.turn ∧ b'.turn.members.Nodup ∧
      (caller ∈ b'.turn.members → said = true)

variable {name : String} {caller : Caller} {w w' : World} {r : Request} {said : Bool}

/-- A caller that does not stand at the turn and leaves the balancers alone. -/
theorem Steps.of_registry (hg : w'.registry = w.registry) (hn : w.NobodyQueriesTwice)
    (hc : w.QueriesOnlyIf name caller false) (said : Bool) : Steps name caller w w' said where
  others id _ := by rw [hg]
  own id b hid hb := by
    rw [hg] at hb
    exact ⟨b, hb, .refl .., hn id b hb, fun hm => Bool.noConfusion (hc id b hid hb hm)⟩

theorem enter_eq (w : World) (r : Request) (stage : Stage) :
    (w.enter r stage).1.registry = w.registry ∧ (w.enter r stage).2.stage = stage := by
  unfold enter
  split <;> exact ⟨rfl, rfl⟩

theorem balancerOf?_of_scene {s : Scene} (hs : w.scene? name = some s) :
    w.balancerOf? name = some s.id := by
  obtain ⟨hr, hid, -⟩ := scene?_eq_some hs
  rw [balancerOf?, hr]
  exact hid

/-- A router with a balancer that there is has a scene. -/
theorem scene?_ne_none {id : BalancerId} {b : Balancer} (hid : w.balancerOf? name = some id)
    (hb : w.registry.balancer? id = some b) : w.scene? name ≠ none := by
  have hs : (w.scene? name).isSome = true := isSome_scene?_iff.mpr ⟨id, hid, by rw [hb]; rfl⟩
  intro hn
  simp [hn] at hs

/-- A part of a request, seen from the world. -/
theorem Steps.setScene {s : Scene} {p : Scene × Stage} (hs : w.scene? name = some s)
    (h : Scene.Steps caller s p) (hg : w'.registry = (w.setScene name p.1).registry) :
    Steps name caller w w' p.2.atTurn := by
  obtain ⟨-, -, hb⟩ := scene?_eq_some hs
  have hbal := balancerOf?_of_scene hs
  have hput : ∀ id, w'.registry.balancer? id = if s.id = id then
      (w.registry.balancer? id).map fun _ => p.1.balancer else w.registry.balancer? id := by
    intro id
    rw [hg, World.setScene, ← h.id_eq]
    exact Registry.balancer?_put ..
  refine ⟨fun id hne => ?_, fun id b' he hb' => ?_⟩
  · rw [hput, if_neg]
    rintro rfl
    exact hne hbal
  · obtain rfl : s.id = id := Option.some.inj (hbal.symm.trans he)
    rw [hput, if_pos rfl, hb] at hb'
    cases hb'
    exact ⟨s.balancer, hb, h.others, h.nodup, h.own⟩

theorem carryOn_steps (w : World) (r : Request) {s : Scene} (part : Scene → Scene × Stage)
    (hs : w.scene? r.router = some s) (h : Scene.Steps r.caller s (part s)) :
    Steps r.router r.caller w (w.carryOn r part).1 (w.carryOn r part).2.stage.atTurn := by
  rw [carryOn_eq hs]
  obtain ⟨hg, hstage⟩ := (w.setScene r.router (part s).1).enter_eq r (part s).2
  rw [hstage]
  exact .setScene hs h hg

/-- Without a scene there is nothing to play. -/
theorem carryOn_of_none (r : Request) (part : Scene → Scene × Stage)
    (hs : w.scene? r.router = none) (hn : w.NobodyQueriesTwice) :
    Steps r.router r.caller w (w.carryOn r part).1 (w.carryOn r part).2.stage.atTurn := by
  refine .of_registry ?_ hn (fun id b hid hb _ => absurd hs (scene?_ne_none hid hb)) _
  rw [carryOn, (enter_eq ..).1]
  simp only [play, hs]

/-- What the world knows of a caller's standing is seen in the scene. -/
theorem nodup_of_scene {s : Scene} (hs : w.scene? name = some s) (hn : w.NobodyQueriesTwice) :
    s.balancer.turn.members.Nodup := hn s.id _ (scene?_eq_some hs).2.2

theorem not_mem_of_scene {s : Scene} (hs : w.scene? name = some s)
    (hc : w.QueriesOnlyIf name caller false) : caller ∉ s.balancer.turn.members := by
  exact fun hm => Bool.noConfusion
    (hc s.id _ (balancerOf?_of_scene hs) (scene?_eq_some hs).2.2 hm)

theorem begin_steps (hn : w.NobodyQueriesTwice) (hc : w.QueriesOnlyIf name caller false)
    (pick : Nat) : Steps name caller w (w.begin name caller pick).1
      (w.begin name caller pick).2.stage.atTurn := by
  unfold begin
  cases hr : w.routers[name]? with
  | none => exact .of_registry rfl hn hc _
  | some found =>
    dsimp only
    split
    · cases hs : w.scene? name with
      | none => exact carryOn_of_none ⟨name, caller, _, none⟩ _ hs hn
      | some s =>
        exact carryOn_steps w ⟨name, caller, _, none⟩ (·.beginRound caller w.now 1 pick) hs
          (Scene.beginRound_steps (nodup_of_scene hs hn) (not_mem_of_scene hs hc) ..)
    · refine .of_registry ?_ hn hc _
      exact (enter_eq ..).1

theorem Steps.of_network (n : Network) (now : Instant)
    (h : Steps name caller { w with network := n, now := now } w' said) :
    Steps name caller w w' said := ⟨h.others, h.own⟩

/-- A step of a request, seen from the turns of balancers. -/
theorem proceed?_steps (hn : w.NobodyQueriesTwice)
    (hc : w.QueriesOnlyIf r.router r.caller r.stage.atTurn) {pick : Nat} {p : World × Request}
    (hp : w.proceed? r pick = some p) :
    Steps r.router r.caller w p.1 p.2.stage.atTurn := by
  -- a part that is played in a world with another network
  have hplay : ∀ (n : Network) (part : Scene → Scene × Stage),
      (∀ s, w.scene? r.router = some s → Scene.Steps r.caller s (part s)) →
      Steps r.router r.caller w (({ w with network := n } : World).carryOn r part).1
        (({ w with network := n } : World).carryOn r part).2.stage.atTurn := by
    intro n part hpart
    refine .of_network n w.now ?_
    cases hs : w.scene? r.router with
    | none => exact carryOn_of_none r part hs hn
    | some s => exact carryOn_steps _ r part hs (hpart s hs)
  obtain ⟨name, caller, stage, due⟩ := r
  unfold proceed? at hp
  cases stage with
  | awaitingControl round =>
    dsimp only at hp
    split at hp
    · cases hp
      exact hplay w.network _ fun s hs => Scene.controlGranted_steps (nodup_of_scene hs hn)
        (not_mem_of_scene hs hc) ..
    · cases hp
  | awaitingTurn purpose =>
    dsimp only at hp
    split at hp
    · cases hp
      exact hplay w.network _ fun s hs => Scene.turnGranted_steps (nodup_of_scene hs hn) ..
    · cases hp
  | opening addr purpose =>
    cases due with
    | none => cases hp
    | some due =>
      dsimp only at hp
      split at hp
      · cases hp
      · obtain ⟨n, hw⟩ := w.arrive_eq ⟨name, caller, .opening addr purpose, some due⟩ addr due
        rcases ha : w.arrive ⟨name, caller, .opening addr purpose, some due⟩ addr due with
          ⟨w', result⟩
        rw [ha] at hp hw
        dsimp only at hw
        subst hw
        cases purpose with
        | seed later =>
          cases hp
          refine .of_registry ?_ hn hc _
          exact (enter_eq ..).1
        | _ =>
          cases hp
          exact hplay n _ fun s hs => Scene.opened_steps (nodup_of_scene hs hn)
            (not_mem_of_scene hs hc) ..
  | querying purpose =>
    dsimp only at hp
    cases hconn : (w.scene? name).bind (·.refreshConnection? purpose) with
    | none => simp [hconn] at hp
    | some conn =>
      simp only [hconn, Option.some.injEq] at hp
      rw [← hp]
      exact hplay (w.network.query conn).1 _ fun s hs =>
        Scene.answered_steps (nodup_of_scene hs hn) ..
  | closing conn purpose =>
    cases hp
    exact hplay (w.network.close conn).1 _ fun s hs => Scene.closed_steps (nodup_of_scene hs hn)
      (not_mem_of_scene hs hc) ..
  | finished result => cases hp

theorem resume?_steps (hn : w.NobodyQueriesTwice)
    (hc : w.QueriesOnlyIf r.router r.caller r.stage.atTurn) {pick : Nat} {p : World × Request}
    (hp : w.resume? r pick = some p) : Steps r.router r.caller w p.1 p.2.stage.atTurn :=
  .of_network w.network (w.now + w.tick)
    (proceed?_steps (w := { w with now := w.now + w.tick }) hn hc hp)

theorem abandon_steps (hn : w.NobodyQueriesTwice)
    (hc : w.QueriesOnlyIf r.router r.caller r.stage.atTurn) :
    Steps r.router r.caller w (w.abandon r) false := by
  unfold abandon
  cases hs : w.scene? r.router with
  | none =>
    exact .of_registry rfl hn (fun id b hid hb _ => absurd hs (scene?_ne_none hid hb)) false
  | some s =>
    exact .setScene hs (Scene.abandon_steps (nodup_of_scene hs hn)
      (hc s.id _ (balancerOf?_of_scene hs) (scene?_eq_some hs).2.2)) rfl

end World

/-! ## Every run -/

/-- A change of a balancer that leaves its turn alone. -/
theorem World.turn_withBalancer {w : World} {id j : BalancerId}
    {f : Balancer → Balancer × Option Metric} (hf : ∀ b, (f b).1.turn = b.turn) {b' : Balancer}
    (hb : (w.withBalancer id f).registry.balancer? j = some b') :
    ∃ b, w.registry.balancer? j = some b ∧ b'.turn = b.turn := by
  unfold withBalancer at hb
  cases hid : w.registry.balancer? id with
  | none =>
    simp only [hid] at hb
    exact ⟨b', hb, rfl⟩
  | some b =>
    simp only [hid, Registry.balancer?_put] at hb
    split at hb
    · rename_i he
      rw [← he, hid] at hb
      cases hb
      exact ⟨b, he ▸ hid, hf b⟩
    · exact ⟨b', hb, rfl⟩

theorem World.registry_takeControl (w : World) (d : Shutdown) :
    (w.takeControl d).1.registry = w.registry := by
  unfold takeControl
  split <;> rfl

/-- A shutdown leaves the balancers alone. -/
theorem World.registry_beginShutdown (w : World) (name : String) (caller : Caller) :
    (w.beginShutdown name caller).1.registry = w.registry := by
  unfold beginShutdown
  split
  · exact registry_takeControl ..
  · rfl

theorem World.registry_resumeShutdown? {w : World} {d : Shutdown} {p : World × Shutdown}
    (h : w.resumeShutdown? d = some p) : p.1.registry = w.registry := by
  unfold resumeShutdown? at h
  split at h
  · cases h
  · split at h
    · cases h
      exact registry_takeControl ..
    · cases h
  · cases h
    rfl

theorem World.registry_abandonShutdown (w : World) (d : Shutdown) :
    (w.abandonShutdown d).registry = w.registry := by
  unfold abandonShutdown
  dsimp only
  split <;> rfl

/-- No change from outside touches the turn of a balancer. -/
theorem World.turn_change {w : World} (c : Change) {id : BalancerId} {b' : Balancer}
    (hb : (w.change c).registry.balancer? id = some b') :
    ∃ b, w.registry.balancer? id = some b ∧ b'.turn = b.turn := by
  have hbalancer : ∀ (router : String) (f : Balancer → Balancer × Option Metric),
      (∀ b, (f b).1.turn = b.turn) →
      (w.withBalancerOf router f).registry.balancer? id = some b' →
        ∃ b, w.registry.balancer? id = some b ∧ b'.turn = b.turn := by
    intro router f hf hb
    unfold withBalancerOf at hb
    cases hid : w.balancerOf? router with
    | none =>
      rw [hid] at hb
      exact ⟨b', hb, rfl⟩
    | some j =>
      rw [hid] at hb
      exact turn_withBalancer hf hb
  cases c with
  | markFailed router host => exact hbalancer router _ (fun _ => rfl) hb
  | forceRefresh router => exact hbalancer router _ (fun _ => rfl) hb
  | adjust router host delta => exact hbalancer router _ (fun _ => rfl) hb
  | _ => exact ⟨b', hb, rfl⟩

namespace Service

/-- Those who stand at the turn of a balancer are requests of its routers, each once. -/
structure TurnsKnown (s : Service) : Prop where
  nodup : s.world.NobodyQueriesTwice
  known : ∀ (id : BalancerId) (b : Balancer), s.world.registry.balancer? id = some b →
    ∀ c ∈ b.turn.members, ∃ r ∈ s.requests, r.caller = c ∧
      s.world.balancerOf? r.router = some id ∧ r.stage.atTurn = true

namespace TurnsKnown

variable {s s' : Service} {name : String} {caller : Caller} {said : Bool}

/-- A caller of a router takes a step, and the other requests stay. -/
theorem of_steps (k : s.TurnsKnown) (s' : Service)
    (h : World.Steps name caller s.world s'.world said)
    (hbal : ∀ k, s'.world.balancerOf? k = s.world.balancerOf? k)
    (hself : ∀ r ∈ s.requests, r.caller = caller → r.router = name)
    (hothers : ∀ r ∈ s.requests, r.caller ≠ caller → r ∈ s'.requests)
    (hsaid : said = true → ∃ r ∈ s'.requests, r.router = name ∧ r.caller = caller ∧
      r.stage.atTurn = true) : s'.TurnsKnown where
  nodup id b' hb' := by
    by_cases hid : s.world.balancerOf? name = some id
    · obtain ⟨b, -, -, hn, -⟩ := h.own id b' hid hb'
      exact hn
    · rw [h.others id hid] at hb'
      exact k.nodup id b' hb'
  known id b' hb' c hm := by
    by_cases hid : s.world.balancerOf? name = some id
    · obtain ⟨b, hb, hkeep, -, hown⟩ := h.own id b' hid hb'
      by_cases hc : c = caller
      · subst hc
        obtain ⟨r, hr, hname, hcaller, hturn⟩ := hsaid (hown hm)
        exact ⟨r, hr, hcaller, by rw [hname, hbal, hid], hturn⟩
      · obtain ⟨r, hr, rfl, hrid, hturn⟩ := k.known id b hb c ((hkeep.mem_iff c hc).mp hm)
        exact ⟨r, hothers r hr hc, rfl, (hbal _).trans hrid, hturn⟩
    · rw [h.others id hid] at hb'
      obtain ⟨r, hr, rfl, hrid, hturn⟩ := k.known id b' hb' c hm
      refine ⟨r, hothers r hr fun hc => hid ?_, rfl, (hbal _).trans hrid, hturn⟩
      rw [← hself r hr hc, hrid]

/-- The turns of the balancers stay as they are, and so do the requests that stand there. -/
theorem of_turns (k : s.TurnsKnown) (s' : Service)
    (hturn : ∀ (id : BalancerId) (b' : Balancer), s'.world.registry.balancer? id = some b' →
      b'.turn = {} ∨ ∃ b, s.world.registry.balancer? id = some b ∧ b'.turn = b.turn)
    (hreq : ∀ r ∈ s.requests, r.stage.atTurn = true → r ∈ s'.requests ∧
      s'.world.balancerOf? r.router = s.world.balancerOf? r.router) : s'.TurnsKnown where
  nodup id b' hb' := by
    rcases hturn id b' hb' with ht | ⟨b, hb, ht⟩
    · simp [ht, Turn.members]
    · rw [ht]
      exact k.nodup id b hb
  known id b' hb' c hm := by
    rcases hturn id b' hb' with ht | ⟨b, hb, ht⟩
    · simp [ht, Turn.members] at hm
    · rw [ht] at hm
      obtain ⟨r, hr, rfl, hid, hat⟩ := k.known id b hb c hm
      obtain ⟨hr', hbal⟩ := hreq r hr hat
      exact ⟨r, hr', rfl, hbal.trans hid, hat⟩

end TurnsKnown

/-- Requests are known by their callers. -/
theorem Valid.eq_of_caller_eq {s : Service} (v : s.Valid) {r r' : Request} (hr : r ∈ s.requests)
    (hr' : r' ∈ s.requests) (h : r.caller = r'.caller) : r = r' := by
  have hn := v.sound.callers
  rw [parties, List.map_append, List.map_map] at hn
  exact List.inj_on_of_nodup_map (List.nodup_append.mp hn).1 hr hr' h

/-- A request is to a router that is there. -/
theorem Valid.router_ne_of_new {s : Service} (v : s.Valid) {r : Request} (hr : r ∈ s.requests)
    {name : String} (hnew : s.world.routers[name]? = none) : name ≠ r.router := by
  rintro rfl
  obtain ⟨found, hfound, -⟩ := (v.sound.fits _ (Valid.party_mem_parties hr)).stands
  exact Option.some_ne_none found (hfound.symm.trans hnew)

/-- A request stands at a turn of its router's balancer only if its stage says so. -/
theorem TurnsKnown.queriesOnlyIf {s : Service} (k : s.TurnsKnown) (v : s.Valid) {r : Request}
    (hr : r ∈ s.requests) : s.world.QueriesOnlyIf r.router r.caller r.stage.atTurn := by
  intro id b _ hb hm
  obtain ⟨r', hr', hc, -, hat⟩ := k.known id b hb r.caller hm
  rwa [v.eq_of_caller_eq hr' hr hc] at hat

/-- A caller that is not known to the service stands at no turn. -/
theorem TurnsKnown.queriesOnlyIf_new {s : Service} (k : s.TurnsKnown) (v : s.Valid)
    (name : String) : s.world.QueriesOnlyIf name s.callers false := by
  intro id b _ hb hm
  obtain ⟨r, hr, hc, -, -⟩ := k.known id b hb s.callers hm
  exact absurd hc (Nat.ne_of_lt (v.caller_lt hr))

theorem TurnsKnown.start (nodes : List Node) (tick : Duration) : (start nodes tick).TurnsKnown where
  nodup id b hb := by simp [Service.start, Registry.balancer?] at hb
  known id b hb := by simp [Service.start, Registry.balancer?] at hb

theorem mem_eraseIdx_of_ne {α : Type} {l : List α} {i : Nat} {a b : α} (h : l[i]? = some a)
    (hb : b ∈ l) (hne : b ≠ a) : b ∈ l.eraseIdx i :=
  (List.mem_cons.mp ((perm_eraseIdx h).mem_iff.mp hb)).resolve_left hne

/-! ## What each event does to the turns -/

namespace TurnsKnown

variable {s : Service}

/-- What leaves the registry alone leaves the turns alone. -/
theorem of_registry (k : s.TurnsKnown) (s' : Service)
    (hreg : s'.world.registry = s.world.registry)
    (hbal : ∀ name, s'.world.balancerOf? name = s.world.balancerOf? name)
    (hreq : ∀ r ∈ s.requests, r.stage.atTurn = true → r ∈ s'.requests) : s'.TurnsKnown := by
  refine k.of_turns s' (fun id b' hb => .inr ⟨b', ?_, rfl⟩) fun r hr hat => ⟨hreq r hr hat, hbal _⟩
  rwa [hreg] at hb

theorem create (k : s.TurnsKnown) (v : s.Valid) {name : String}
    (hnew : s.world.routers[name]? = none) {config : Config} {r : Router} {registry : Registry}
    (hcreate : Router.create config s.world.registry = .ok (r, registry)) :
    TurnsKnown { s with world := s.world.install name r registry } := by
  obtain ⟨-, -, hext⟩ := Router.create_eq_ok hcreate
  have hinstall := World.install_eq hnew r registry
  refine k.of_turns _ (fun id b' hb => ?_) fun r' hr' _ => ⟨hr', ?_⟩
  · simp only [hinstall] at hb
    rcases hext.balancer? hb with hold | ⟨-, preference, settings, rfl⟩
    · exact .inr ⟨b', hold, rfl⟩
    · exact .inl rfl
  · simp only [hinstall, World.balancerOf?, Std.ExtTreeMap.getElem?_insert]
    rw [if_neg (by simpa using v.router_ne_of_new hr' hnew)]

theorem request (k : s.TurnsKnown) (v : s.Valid) {name : String} {r : Router}
    (hr : s.world.routers[name]? = some r) (pick : Nat) :
    TurnsKnown { s with
      world := (s.world.begin name s.callers pick).1
      requests := (s.world.begin name s.callers pick).2 :: s.requests
      callers := s.callers + 1 } := by
  have hserves := World.begin_serves v.sound.nobodyTwice name s.callers pick
    ⟨r, hr, v.stands_new hr⟩
  refine k.of_steps _ (World.begin_steps k.nodup (k.queriesOnlyIf_new v name) pick)
    hserves.trade.balancerOf?_eq (fun r' hr' hc => ?_)
    (fun r' hr' _ => List.mem_cons_of_mem _ hr')
    fun hat => ⟨_, List.mem_cons_self, hserves.router_eq, hserves.caller_eq, hat⟩
  exact absurd hc (Nat.ne_of_lt (v.caller_lt hr'))

theorem resume (k : s.TurnsKnown) (v : s.Valid) {i pick : Nat} {r r' : Request} {w : World}
    (hr : s.requests[i]? = some r) (hw : s.world.resume? r pick = some (w, r')) :
    TurnsKnown { s with world := w, requests := s.requests.set i r' } := by
  have hmem := List.mem_of_getElem? hr
  have hserves := World.resume?_serves v.sound.nobodyTwice (v.fits_request hr) hw
  refine k.of_steps _ (World.resume?_steps k.nodup (k.queriesOnlyIf v hmem) hw)
    hserves.trade.balancerOf?_eq (fun r₀ hr₀ hc => by rw [v.eq_of_caller_eq hr₀ hmem hc])
    (fun r₀ hr₀ hc => ?_) fun hat => ⟨r', ?_, hserves.router_eq, hserves.caller_eq, hat⟩
  · refine (perm_set hr r').mem_iff.mpr (List.mem_cons_of_mem _ (mem_eraseIdx_of_ne hr hr₀ ?_))
    rintro rfl
    exact hc rfl
  · exact (perm_set hr r').mem_iff.mpr List.mem_cons_self

/-- A request that is over stands at no turn. -/
theorem deliver (k : s.TurnsKnown) {i : Nat} {r : Request} (hr : s.requests[i]? = some r)
    {result : Except RoutingError RoutedConnection} (hresult : r.result? = some result) :
    TurnsKnown { s with
      requests := s.requests.eraseIdx i
      handedOut := result.toOption.toList ++ s.handedOut } := by
  refine k.of_registry _ rfl (fun _ => rfl) fun r₀ hr₀ hat => mem_eraseIdx_of_ne hr hr₀ ?_
  rintro rfl
  unfold Request.result? at hresult
  split at hresult
  · rename_i hs
    rw [hs] at hat
    cases hat
  · cases hresult

theorem abandon (k : s.TurnsKnown) (v : s.Valid) {i : Nat} {r : Request}
    (hr : s.requests[i]? = some r) (hresult : r.result? = none) :
    TurnsKnown { s with world := s.world.abandon r, requests := s.requests.eraseIdx i } := by
  have hmem := List.mem_of_getElem? hr
  have hserves := World.abandon_serves v.sound.nobodyTwice (v.fits_request hr) hresult
  refine k.of_steps _ (World.abandon_steps k.nodup (k.queriesOnlyIf v hmem))
    hserves.trade.balancerOf?_eq (fun r₀ hr₀ hc => by rw [v.eq_of_caller_eq hr₀ hmem hc])
    (fun r₀ hr₀ hc => mem_eraseIdx_of_ne hr hr₀ ?_) Bool.noConfusion
  rintro rfl
  exact hc rfl

theorem giveBack (k : s.TurnsKnown) (lease : Lease) (i : Nat) :
    TurnsKnown { s with
      world := s.world.release lease
      returning := s.returning.eraseIdx i } := by
  refine k.of_turns _ (fun id b' hb => .inr (World.turn_withBalancer (fun _ => rfl) hb))
    fun r hr _ => ⟨hr, ?_⟩
  simp only [World.release, World.withBalancer]
  split <;> rfl

theorem change (k : s.TurnsKnown) {c : Change} (hc : c.isAdjust = false) :
    TurnsKnown { s with world := s.world.change c } := by
  obtain ⟨hr, -⟩ := World.change_trade "" s.callers s.world hc
  exact k.of_turns _ (fun id b' hb => .inr (World.turn_change c hb)) fun r hr' _ =>
    ⟨hr', by simp only [World.balancerOf?, hr]⟩

end TurnsKnown

/-- Whatever happens, those who stand at the turns of balancers are known. -/
theorem TurnsKnown.step {s s' : Service} (k : s.TurnsKnown) (v : s.Valid) {e : ServiceEvent}
    (h : s.step? e = some s') : s'.TurnsKnown := by
  have hn := v.sound.nobodyTwice
  cases e <;> simp only [step?, Option.bind_eq_bind, Option.bind_eq_some_iff, Option.pure_def,
    Option.some.injEq, Option.guard_eq_some', exists_const] at h
  case create name config =>
    obtain ⟨hnew, ⟨r, registry⟩, hc, rfl⟩ := h
    exact k.create v (by simpa using hnew) (eq_ok_of_toOption hc)
  case request name pick =>
    obtain ⟨r, hr, rfl⟩ := h
    exact k.request v hr pick
  case resume i pick =>
    obtain ⟨r, hr, ⟨w, r'⟩, hw, rfl⟩ := h
    exact k.resume v hr hw
  case deliver i =>
    obtain ⟨r, hr, result, hresult, rfl⟩ := h
    exact k.deliver hr hresult
  case abandon i =>
    obtain ⟨r, hr, hresult, rfl⟩ := h
    exact k.abandon v hr (by simpa using hresult)
  case shutdown name =>
    obtain ⟨r, hr, rfl⟩ := h
    have hserves := World.beginShutdown_serves hn s.callers hr (v.stands_new hr)
    exact k.of_registry _ (World.registry_beginShutdown ..) hserves.trade.balancerOf?_eq
      fun r hr _ => hr
  case resumeShutdown i =>
    obtain ⟨d, hd, ⟨w, d'⟩, hw, rfl⟩ := h
    have hserves := World.resumeShutdown?_serves hn (v.fits_shutdown hd) hw
    exact k.of_registry _ (World.registry_resumeShutdown? hw) hserves.trade.balancerOf?_eq
      fun r hr _ => hr
  case endShutdown i =>
    obtain ⟨d, hd, hstage, rfl⟩ := h
    exact k.of_registry _ rfl (fun _ => rfl) fun r hr _ => hr
  case abandonShutdown i =>
    obtain ⟨d, hd, -, rfl⟩ := h
    have hserves := World.abandonShutdown_serves hn (v.fits_shutdown hd)
    exact k.of_registry _ (World.registry_abandonShutdown ..) hserves.trade.balancerOf?_eq
      fun r hr _ => hr
  case giveBack i =>
    obtain ⟨l, hl, rfl⟩ := h
    exact k.giveBack l i
  case change c hc =>
    subst h
    exact k.change hc
  case advance duration =>
    subst h
    exact k.of_registry _ rfl (fun _ => rfl) fun r hr _ => hr
  -- callers give up connections
  case close i | closed i | abandonClose i | drop i =>
    obtain ⟨c, hc, rfl⟩ := h
    exact k.of_registry _ rfl (fun _ => rfl) fun r hr _ => hr

/-- In every run those who stand at the turns of balancers are known. -/
theorem turnsKnown_run (nodes : List Node) (tick : Duration) (events : List ServiceEvent) :
    (run nodes tick events).TurnsKnown := by
  have hrun : (run nodes tick events).Valid ∧ (run nodes tick events).TurnsKnown :=
    run_induction (motive := fun s => s.Valid ∧ s.TurnsKnown)
      ⟨.start nodes tick, .start nodes tick⟩ (fun ⟨v, k⟩ h => ⟨v.step h, k.step v h⟩) events
  exact hrun.2

/-- The turn of a balancer is free when no request of its routers stands there. -/
theorem TurnsKnown.turn_eq {s : Service} (k : s.TurnsKnown) {id : BalancerId} {b : Balancer}
    (hb : s.world.registry.balancer? id = some b)
    (h : ∀ r ∈ s.requests, s.world.balancerOf? r.router = some id → r.stage.atTurn = false) :
    b.turn = {} := by
  refine Turn.eq_of_members_eq_nil (List.eq_nil_iff_forall_not_mem.mpr fun c hm => ?_)
  obtain ⟨r, hr, -, hid, hat⟩ := k.known id b hb c hm
  rw [h r hr hid] at hat
  cases hat

end Service

end ConnectionRouter
