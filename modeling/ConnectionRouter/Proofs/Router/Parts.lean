import ConnectionRouter.Proofs.Router.Hands

/-!
# The parts of a request as trades

Every part of a request, from one wait to the next, is a trade between the hands that the request
comes with and those of the stage it leads to, and at that stage the request stands at the control
connection as the stage says (`Scene.Leads`). A request that is given up trades everything for the
connection that it drops (`Scene.abandon_trade`).
-/

namespace ConnectionRouter

namespace Scene

/-- A part leads from hands to a stage with its hands. -/
structure Leads (caller : Caller) (s : Scene) (h : Hand) (r : Scene × Stage) : Prop where
  trade : Trade caller s h r.1 r.2.hand
  stands : r.1.router.Stands caller r.2.use

variable {caller : Caller} {s s' : Scene} {h h' : Hand}

theorem Trade.leads {r : Scene × Stage} (t : Trade caller s h s' h') (l : Leads caller s' h' r) :
    Leads caller s h r := ⟨t.trans l.trade, l.stands⟩

/-- A stage without hands at which the caller is away. -/
theorem Leads.of_idle {stage : Stage} (t : Trade caller s h s' {}) (hh : stage.hand = {})
    (hu : stage.use = .away) (hs : s'.router.Stands caller .away) :
    Leads caller s h (s', stage) where
  trade := by
    show Trade caller s h s' stage.hand
    rw [hh]
    exact t
  stands := by
    show s'.router.Stands caller stage.use
    rw [hu]
    exact hs

/-! ## Without balancing -/

theorem hand_trySeeds (e : RoutingError) (seeds : List HostAddr) :
    (trySeeds e seeds).hand = {} := by
  cases seeds <;> rfl

theorem use_trySeeds (e : RoutingError) (seeds : List HostAddr) :
    (trySeeds e seeds).use = .away := by
  cases seeds <;> rfl

theorem hand_seedOpened (later : List HostAddr) (result : Except RoutingError Connection) :
    (seedOpened later result).hand = ⟨result.toOption, none⟩ := by
  cases result with
  | ok conn => rfl
  | error e => exact hand_trySeeds e later

theorem use_seedOpened (later : List HostAddr) (result : Except RoutingError Connection) :
    (seedOpened later result).use = .away := by
  cases result with
  | ok conn => rfl
  | error e => exact use_trySeeds e later

theorem fallBack_leads (s : Scene) (hs : s.router.Stands caller .away) :
    Leads caller s {} s.fallBack :=
  .of_idle (.of_keeps caller s (.refl _) _ {}) (hand_trySeeds ..) (use_trySeeds ..) hs

/-! ## Reserving and opening -/

theorem reserveNext_leads (s : Scene) (hs : s.router.Stands caller .away) (round : Nat)
    (refused : List HostKey) (pick : Nat) :
    Leads caller s {} (s.reserveNext round refused pick) := by
  unfold reserveNext
  split
  · exact .of_idle (.refl ..) rfl rfl hs
  · rename_i b host addr metric hr
    have ht := Trade.reserve caller s (by rw [hr]) (s.ledger.note metric)
    rw [hr] at ht
    exact ⟨ht, hs⟩

theorem tryControl_leads (s : Scene) (hn : s.router.turn.members.Nodup)
    (hs : s.router.Stands caller .replacing) (round total : Nat) (addrs : List HostAddr) :
    Leads caller s {} (s.tryControl caller round total addrs) := by
  cases addrs with
  | nil => exact .of_idle (.leaveControl ..) rfl rfl (Router.stands_leave hn caller)
  | cons addr later => exact ⟨.refl .., hs⟩

theorem bootstrap_leads (s : Scene) (hn : s.router.turn.members.Nodup)
    (hs : s.router.Stands caller .replacing) (round : Nat) :
    Leads caller s {} (s.bootstrap caller round) := tryControl_leads s hn hs ..

/-! ## Refreshes -/

theorem keep_leads (hs : s.router.Stands caller .away) (round : Nat) (held : Held) :
    Leads caller s ⟨some held.conn, some held.lease⟩ (s.keep round held) := by
  unfold keep
  have ht := Trade.count caller s (.connectAttempt .ok) ⟨some held.conn, some held.lease⟩
  dsimp only
  split
  · exact ⟨ht.trans (.count ..), hs⟩
  · exact ⟨ht, hs⟩

/-- The caller is away once it has left the control connection. -/
theorem stands_leaveControl (caller : Caller) (s : Scene) (hn : s.router.turn.members.Nodup) :
    (s.leaveControl caller).router.Stands caller .away := Router.stands_leave hn caller

theorem refreshed_leads (s : Scene) (hn : s.router.turn.members.Nodup) (purpose : RefreshPurpose)
    (hs : s.router.Stands caller purpose.use) (pick : Nat) (ok : Bool) :
    Leads caller s purpose.hand (s.refreshed caller pick ok purpose) := by
  cases purpose with
  | cached round =>
    cases ok with
    | true =>
      exact (Trade.leaveControl caller s {}).leads
        (reserveNext_leads (s.leaveControl caller) (stands_leaveControl caller s hn) ..)
    | false =>
      rw [refreshed, if_neg (by simp)]
      cases hc : s.router.control with
      | some conn => exact ⟨.of_router s (.takeControl hc) none, hs, rfl⟩
      | none => exact bootstrap_leads s hn ⟨hs, hc⟩ round
  | fresh round conn =>
    have ht := (Trade.of_router s (.putControl hs conn) none).trans (.leaveControl ..)
    have hs' := stands_leaveControl caller
      { s with router := { s.router with control := some conn } } hn
    cases ok with
    | true => exact ht.leads (reserveNext_leads _ hs' ..)
    | false => exact ht.leads (fallBack_leads _ hs')
  | check round held =>
    rw [refreshed]
    split
    · exact ⟨.count .., hs⟩
    · exact keep_leads hs round held

theorem startRefresh_leads (s : Scene) (hn : s.router.turn.members.Nodup) (purpose : RefreshPurpose)
    (hs : s.router.Stands caller purpose.use) (now : Instant) (pick : Nat) :
    Leads caller s purpose.hand (s.startRefresh caller now pick purpose) := by
  have hk := Balancer.Keeps.startRefresh s.balancer caller now
  unfold startRefresh
  rcases hb : s.balancer.startRefresh caller now with ⟨b, stage, metric⟩
  rw [hb] at hk
  have ht := Trade.of_keeps caller s hk (s.ledger.note metric) purpose.hand
  cases stage with
  | queued => exact ⟨ht, hs⟩
  | querying => exact ⟨ht, hs⟩
  | done ok =>
    exact ht.leads (refreshed_leads { s with balancer := b, ledger := s.ledger.note metric }
      hn purpose hs pick ok)

theorem turnGranted_leads (s : Scene) (hn : s.router.turn.members.Nodup) (purpose : RefreshPurpose)
    (hs : s.router.Stands caller purpose.use) (now : Instant) (pick : Nat) :
    Leads caller s purpose.hand (s.turnGranted caller now pick purpose) := by
  have hk := Balancer.Keeps.resumeRefresh s.balancer caller now
  unfold turnGranted
  rcases hb : s.balancer.resumeRefresh caller now with ⟨b, stage⟩
  rw [hb] at hk
  have ht := Trade.of_keeps caller s hk s.ledger purpose.hand
  cases stage with
  | queued => exact ⟨ht, hs⟩
  | querying => exact ⟨ht, hs⟩
  | done ok =>
    exact ht.leads (refreshed_leads { s with balancer := b } hn purpose hs pick ok)

theorem answered_leads (s : Scene) (hn : s.router.turn.members.Nodup) (purpose : RefreshPurpose)
    (hs : s.router.Stands caller purpose.use) (now : Instant) (pick : Nat) (control : String)
    (answer : Except RoutingError (List Row)) :
    Leads caller s purpose.hand (s.answered caller now pick purpose control answer) := by
  have hk := Balancer.Keeps.finishRefresh s.balancer caller now control answer
  unfold answered
  rcases hb : s.balancer.finishRefresh caller now control answer with ⟨b, ok, metric⟩
  rw [hb] at hk
  have ht := Trade.of_keeps caller s hk (s.ledger.note metric) purpose.hand
  exact ht.leads (refreshed_leads { s with balancer := b, ledger := s.ledger.note metric }
    hn purpose hs pick ok)

theorem controlGranted_leads (s : Scene) (hn : s.router.turn.members.Nodup)
    (hs : s.router.Stands caller .inUse) (now : Instant) (round pick : Nat) :
    Leads caller s {} (s.controlGranted caller now round pick) := by
  unfold controlGranted
  cases hc : s.router.control with
  | some conn => exact startRefresh_leads s hn (.cached round) hs now pick
  | none => exact bootstrap_leads s hn ⟨hs, hc⟩ round

theorem beginRound_leads (s : Scene) (hn : s.router.turn.members.Nodup)
    (hs : s.router.Stands caller .away) (now : Instant) (round pick : Nat) :
    Leads caller s {} (s.beginRound caller now round pick) := by
  unfold beginRound
  split
  · cases ht : s.router.turn.take? caller with
    | some turn =>
      have htrade := Trade.of_router s (.take ht hs none) none
      refine htrade.leads (controlGranted_leads _ (htrade.router.nodup hn) ?_ now round pick)
      rw [(Turn.take?_eq_some ht).2]
      rfl
    | none =>
      dsimp only
      split
      · exact reserveNext_leads s hs ..
      · refine ⟨.of_router s (.wait hs none) none, ?_⟩
        show caller ∈ (s.router.turn.wait caller).members
        simp [Turn.members, Turn.wait]
  · exact reserveNext_leads s hs ..

/-! ## Openings and closes -/

/-- What the request holds when an opening is over. -/
def handOpened (purpose : OpenPurpose) (result : Except RoutingError Connection) : Hand :=
  ⟨result.toOption, purpose.lease?⟩

theorem opened_leads (s : Scene) (hn : s.router.turn.members.Nodup) (purpose : OpenPurpose)
    (hs : s.router.Stands caller purpose.use) (now : Instant) (pick : Nat)
    (result : Except RoutingError Connection) :
    Leads caller s (handOpened purpose result) (s.opened caller now pick purpose result) := by
  cases purpose with
  | control round later total =>
    cases result with
    | ok conn => exact startRefresh_leads s hn (.fresh round conn) hs now pick
    | error e => exact tryControl_leads s hn hs round total later
  | data round lease refused =>
    cases result with
    | ok conn =>
      exact startRefresh_leads s hn (.check round ⟨lease, conn, refused⟩) hs now pick
    | error e =>
      have ht := (Trade.count caller s (.connectAttempt .failed) ⟨none, some lease⟩).trans
        (.failHost caller _ lease now none)
      exact ht.leads
        (reserveNext_leads ((s.count (.connectAttempt .failed)).failHost lease now) hs ..)
  | seed later =>
    refine ⟨?_, ?_⟩
    · show Trade caller s _ s (seedOpened later result).hand
      rw [hand_seedOpened]
      exact .refl ..
    · show s.router.Stands caller (seedOpened later result).use
      rw [use_seedOpened]
      exact hs

theorem closed_leads (s : Scene) (hn : s.router.turn.members.Nodup) (purpose : ClosePurpose)
    (hs : s.router.Stands caller purpose.use) (now : Instant) (pick : Nat) :
    Leads caller s ⟨none, purpose.lease?⟩ (s.closed caller now pick purpose) := by
  cases purpose with
  | stale round => exact bootstrap_leads s hn hs round
  | rejected round lease refused =>
    exact (Trade.failHost caller s lease now none).leads
      (reserveNext_leads (s.failHost lease now) hs ..)
  | preempted round lease =>
    exact (Trade.release caller s lease none).leads (beginRound_leads (s.release lease) hn hs ..)

/-- A refresh that is given up. -/
theorem abandonRefresh_trade (hn : s.router.turn.members.Nodup) (purpose : RefreshPurpose)
    (hs : s.router.Stands caller purpose.use) :
    ∃ conn : Option Connection, (s.abandon caller (.querying purpose)).2 = conn.toList ∧
      Trade caller s purpose.hand (s.abandon caller (.querying purpose)).1 ⟨conn, none⟩ ∧
      (s.abandon caller (.querying purpose)).1.router.Stands caller .away := by
  have ht := Trade.of_keeps caller s (.abandonRefresh s.balancer caller) s.ledger purpose.hand
  cases purpose with
  | cached round =>
    exact ⟨none, rfl, ht.trans (.leaveControl caller _ _), stands_leaveControl caller s hn⟩
  | fresh round conn =>
    exact ⟨some conn, rfl, ht.trans (.leaveControl caller _ _), stands_leaveControl caller s hn⟩
  | check round held =>
    exact ⟨some held.conn, rfl, ht.trans (.release caller _ held.lease _), hs⟩

/-- A request that is given up before it has a result leaves the control connection and trades
what it holds for the connection that it drops. -/
theorem abandon_trade (hn : s.router.turn.members.Nodup) {stage : Stage}
    (hs : s.router.Stands caller stage.use) (hb : ∀ result, stage ≠ .finished result) :
    ∃ conn : Option Connection, (s.abandon caller stage).2 = conn.toList ∧
      Trade caller s stage.hand (s.abandon caller stage).1 ⟨conn, none⟩ ∧
      (s.abandon caller stage).1.router.Stands caller .away := by
  cases stage with
  | awaitingControl round =>
    exact ⟨none, rfl, .leaveControl caller s _, stands_leaveControl caller s hn⟩
  | awaitingTurn purpose => exact abandonRefresh_trade hn purpose hs
  | querying purpose => exact abandonRefresh_trade hn purpose hs
  | opening addr purpose =>
    cases purpose with
    | control round later total =>
      exact ⟨none, rfl, .leaveControl caller s _, stands_leaveControl caller s hn⟩
    | data round lease refused => exact ⟨none, rfl, .release caller s lease none, hs⟩
    | seed later => exact ⟨none, rfl, .refl caller s _, hs⟩
  | closing conn purpose =>
    cases purpose with
    | stale round =>
      exact ⟨some conn, rfl, .leaveControl caller s _, stands_leaveControl caller s hn⟩
    | rejected round lease refused =>
      exact ⟨some conn, rfl, .release caller s lease (some conn), hs⟩
    | preempted round lease =>
      exact ⟨some conn, rfl, .release caller s lease (some conn), hs⟩
  | finished result => exact absurd rfl (hb result)

end Scene

end ConnectionRouter
