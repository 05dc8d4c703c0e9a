import ConnectionRouter.Proofs.Router.Waits

/-!
# One request among others

What a request does to the hosts and what it hands out, whatever others do meanwhile. It puts a
host in quarantine only after it has dialed the host itself (`Journey.mem_dials_of_fails`). The
lease that it hands out is of the host of the connection (`Journey.keyed`). Together with the bounds
on its rounds and waits this is `Journey.bounded_sound`.
-/

namespace ConnectionRouter

open Journey

/-! ## Whom a request puts in quarantine -/

theorem Scene.isQuarantined_release {s : Scene} {lease : Lease} {k : HostKey} :
    (s.release lease).balancer.pool.isQuarantined k = s.balancer.pool.isQuarantined k :=
  Pool.isQuarantined_adjust ..

theorem Scene.isQuarantined_failHost {s : Scene} {lease : Lease} {now : Instant} {k : HostKey} :
    (s.failHost lease now).balancer.pool.isQuarantined k =
      (lease.host == k || s.balancer.pool.isQuarantined k) := by
  show ((s.release lease).balancer.pool.markFailed lease.host now).1.isQuarantined k = _
  rw [Pool.isQuarantined_markFailed, isQuarantined_release]

/-- A request fails a host, or puts nobody in quarantine. -/
theorem Scene.fails_of_hear {s : Scene} {caller : Caller} {now : Instant} {w : Wait} {k : HostKey}
    (hq : s.balancer.pool.isQuarantined k = false)
    (h : (s.hear caller now w).balancer.pool.isQuarantined k = true) : w.Fails k := by
  have hfail : ∀ {m : Scene} {lease : Lease}, m.balancer.pool = s.balancer.pool →
      (m.failHost lease now).balancer.pool.isQuarantined k = true → lease.host = k := by
    intro m lease hp hf
    rw [isQuarantined_failHost, hp, hq] at hf
    simpa using hf
  unfold hear at h
  split at h
  · exact hfail rfl h ▸ .refused ..
  · exact hfail rfl h ▸ .rejected ..
  · rw [isQuarantined_release, hq] at h
    cases h
  · rename_i purpose control answer
    obtain ⟨turn, he | ⟨snapshot, he⟩⟩ := s.balancer.finishRefresh_eq caller now control answer
    · simp only [he, hq] at h
      cases h
    · simp only [he] at h
      have hn := Pool.isQuarantined_apply_of_false hq snapshot s.balancer.rules now
      exact absurd h (by simp [Balancer.applySnapshot, hn])
  · rw [hq] at h
    cases h

theorem Stride.fails_of_quarantines {caller : Caller} {t : Stride} (hp : t.Plays caller)
    {host : HostKey} (h : t.Quarantines host) : t.wait.Fails host := by
  suffices hq : (t.found.hear caller t.now t.wait).balancer.pool.isQuarantined host = true from
    Scene.fails_of_hear h.1 hq
  rw [← h.2]
  obtain ⟨-, he | ⟨addr, lease, -, hr⟩⟩ := hp.sequel.moves
  · rw [he]
  · rw [hr.pool_eq, Pool.isQuarantined_adjust]

namespace Journey

variable {caller : Caller} {t : Stride} {past : List Stride}

/-- A request puts in quarantine only hosts that it has dialed itself. -/
theorem mem_dials_of_fails (h : AmongOthers caller (t :: past)) {host : HostKey}
    (hf : t.wait.Fails host) : ∃ round, host ∈ dials past round := by
  cases h with
  | start h =>
    rw [h.wait_eq] at hf
    cases hf
  | @next _ last past j h =>
    obtain ⟨arrival, hw⟩ := h.wait_eq
    have hpoised := fun hb => j.keeps.poised hb arrival
    rw [hw] at hf
    generalize hst : last.stage = stage at hf hpoised
    cases hf with
    | refused addr round lease refused e =>
      exact ⟨round, (hpoised rfl).dials_eq ▸ List.mem_cons_self⟩
    | rejected conn round lease refused =>
      exact ⟨round, (hpoised rfl).dials_eq ▸ List.mem_cons_self⟩

end Journey

/-! ## What a request hands out -/

/-- A host that a request holds is the host of the address it has dialed. -/
def Stage.Keyed (defaultPort : UInt16) : Stage → Prop
  | opening addr (.data _ lease _) => lease.host = addr.key defaultPort
  | awaitingTurn (.check _ held) | querying (.check _ held) =>
    held.lease.host = held.conn.addr.key defaultPort
  | _ => True

theorem Stage.keyed_of_not_balanced {defaultPort : UInt16} {stage : Stage}
    (h : stage.balanced = false) : stage.Keyed defaultPort := by
  unfold Stage.Keyed
  split
  · cases h
  · cases h
  · cases h
  · trivial

namespace Wait

variable {w : Wait} {defaultPort : UInt16}

theorem Refreshed.keyed {round : Nat} {held : Held} {ok : Bool}
    (h : w.Refreshed (.check round held) ok)
    (hw : ∀ stage arrival, w = some (stage, arrival) → stage.Keyed defaultPort) :
    held.lease.host = held.conn.addr.key defaultPort := by
  cases h with
  | skipped h =>
    cases h with
    | check addr => exact hw (.opening addr _) _ rfl
  | spared => exact hw (.awaitingTurn _) _ rfl
  | answered => exact hw (.querying _) _ rfl

theorem Asks.keyed {purpose : RefreshPurpose} (h : w.Asks purpose)
    (hw : ∀ stage arrival, w = some (stage, arrival) → stage.Keyed defaultPort) :
    (Stage.querying purpose).Keyed defaultPort := by
  cases h with
  | check addr => exact hw (.opening addr _) _ rfl
  | _ => trivial

end Wait

namespace Sequel

open Scene

variable {w : Wait} {s : Scene} {defaultPort : UInt16}

/-- Every stride leads to a host that is known by the address dialed. -/
theorem keyed {r : Scene × Stage} (ho : Sequel w s r)
    (hv : s.balancer.pool.Valid defaultPort)
    (hw : ∀ stage arrival, w = some (stage, arrival) → stage.Keyed defaultPort) :
    r.2.Keyed defaultPort := by
  cases ho with
  | reserves _ alike _ chosen =>
    obtain ⟨-, -, pm, hpm, rfl⟩ := Pool.of_mem_select (alike.pool_eq ▸ chosen)
    exact (hv.keyed _ pm hpm).symm
  | @awaitsTurn _ purpose asks =>
    have hk := asks.keyed hw
    cases purpose <;> exact hk
  | queries asks => exact asks.keyed hw
  | @resumes _ purpose wait =>
    have hk := hw _ _ wait
    cases purpose <;> exact hk
  | fallsBack => exact Stage.keyed_of_not_balanced (World.balanced_trySeeds ..)
  | triesSeed => exact Stage.keyed_of_not_balanced (World.balanced_seedOpened ..)
  | _ => trivial

/-- A balanced connection is handed out after its check. -/
theorem of_handedOut {m : Scene} {conn : Connection} {lease : Lease}
    (h : Sequel w s (m, .finished (.ok ⟨conn, some lease⟩))) :
    ∃ round held ok, w.Refreshed (.check round held) ok ∧ held.conn = conn ∧ held.lease = lease ∧
      (ok = true → m.balancer.pool.isSelectable lease.host = true) ∧
      (round < m.balancer.rankCount → m.balancer.hasMorePreferred lease.host = false) ∧
      s.Stays m := by
  generalize hr : (m, Stage.finished (.ok ⟨conn, some lease⟩)) = r at h
  cases h with
  | @handsOut m round held ok ended alike selectable best =>
    cases hr
    exact ⟨round, held, ok, ended, rfl, rfl, selectable, best, alike.toStays⟩
  | @fallsBack m =>
    have hs := (Prod.mk.inj hr).2
    generalize m.router.seeds = seeds at hs
    cases seeds <;> cases hs
  | @triesSeed addr later failure =>
    cases failure with
    | none => cases hr
    | some e =>
      have hs := (Prod.mk.inj hr).2
      cases later <;> cases hs
  | _ => cases hr

/-- A connection is closed again because the check found its host to be no candidate. -/
theorem of_rejected {m : Scene} {conn : Connection} {round : Nat} {lease : Lease}
    {refused : List HostKey}
    (h : Sequel w s (m, .closing conn (.rejected round lease refused))) :
    m.balancer.pool.isSelectable lease.host = false := by
  generalize hr : (m, Stage.closing conn (.rejected round lease refused)) = r at h
  cases h with
  | rejects _ _ selectable =>
    cases hr
    exact selectable
  | fallsBack => exact absurd rfl (not_balanced_of_trySeeds (Prod.mk.inj hr).2)
  | triesSeed => exact absurd rfl (not_balanced_of_seedOpened (Prod.mk.inj hr).2)
  | _ => cases hr

end Sequel

namespace Journey

variable {caller : Caller} {t : Stride} {past : List Stride}

theorem keyed (h : AmongOthers caller (t :: past)) :
    t.stage.Keyed t.left.balancer.settings.defaultPort := by
  have hport : ∀ {t : Stride}, t.Plays caller →
      t.left.balancer.settings.defaultPort = t.found.balancer.settings.defaultPort :=
    fun hp => congrArg BalancerSettings.defaultPort hp.later.settings_eq
  have hvalid : ∀ {t : Stride}, t.found.balancer.Valid →
      (t.found.hear caller t.now t.wait).balancer.pool.Valid
        t.found.balancer.settings.defaultPort := by
    intro t hv
    have hl := Scene.Later.hear t.found caller t.now t.wait
    have hv' := hl.valid hv
    rwa [Balancer.Valid, hl.settings_eq] at hv'
  induction h using along with
  | start t h =>
    rw [hport h.plays]
    refine h.plays.sequel.keyed (hvalid h.valid) fun stage arrival hw => ?_
    rw [h.wait_eq] at hw
    cases hw
  | next t last past j h ih =>
    rw [hport h.plays]
    obtain ⟨arrival, hw⟩ := h.wait_eq
    refine h.plays.sequel.keyed (hvalid (h.later.valid j.valid_left)) fun stage arrival' hw' => ?_
    rw [hw] at hw'
    cases hw'
    rwa [h.later.settings_eq]

theorem keyed_wait (h : AmongOthers caller (t :: past)) {stage : Stage} {arrival : Arrival}
    (hw : t.wait = some (stage, arrival)) :
    stage.Keyed t.found.balancer.settings.defaultPort := by
  cases h with
  | start h =>
    rw [h.wait_eq] at hw
    cases hw
  | next j h =>
    obtain ⟨arrival', hw'⟩ := h.wait_eq
    rw [hw] at hw'
    cases hw'
    rw [h.later.settings_eq]
    exact j.keyed

end Journey

/-! ## The bounds -/

/-- The tiers that a preference declares; none without a preference. -/
def Balancer.tierCount (b : Balancer) : Nat := (b.preference.map Preference.tierCount).getD 0

theorem Balancer.rankCount_eq_tierCount (b : Balancer) : b.rankCount = b.tierCount + 1 := by
  unfold rankCount tierCount
  cases b.preference <;> rfl

namespace Journey

variable {caller : Caller} {t : Stride} {past : List Stride}

/-- What a request hands out. -/
theorem sound_of_finished (h : AmongOthers caller (t :: past)) {conn : Connection} {lease : Lease}
    (hs : t.stage = .finished (.ok ⟨conn, some lease⟩)) :
    lease.host = conn.addr.key t.found.balancer.settings.defaultPort ∧
      (t.left.balancer.pool.isSelectable lease.host = true ∨
        ∃ round held control e, held.lease = lease ∧
          t.wait = some (.querying (.check round held), .answered control (.error e))) ∧
      (t.left.balancer.hasMorePreferred lease.host = false ∨
        preemptions (t :: past) = t.found.balancer.tierCount) := by
  have ho := h.plays.sequel
  rw [hs] at ho
  obtain ⟨round, held, ok, ended, rfl, rfl, selectable, best, stays⟩ := ho.of_handedOut
  refine ⟨ended.keyed fun stage arrival hw => h.keyed_wait hw, ?_, ?_⟩
  · cases ok with
    | true => exact .inl (selectable rfl)
    | false =>
      obtain ⟨control, e, hw⟩ := ended.eq_of_false
      exact .inr ⟨round, held, control, e, rfl, hw⟩
  · by_cases hlt : round < t.left.balancer.rankCount
    · exact .inl (best hlt)
    · -- the round is the last one, and every round before it has ended with a preemption
      have hp := h.poised fun _ _ => ended.balanced
      have hlast : preemptions past + 1 = round := hp.preemptions_eq.trans ended.round_eq
      have hle := hp.round_le
      rw [ended.round_eq, Balancer.rankCount_eq_tierCount, RefreshPurpose.round] at hle
      rw [h.plays.later.rankCount_eq, Balancer.rankCount_eq_tierCount] at hlt
      rw [preemptions_cons_of_not (t.preempts_of_not_balanced (by rw [hs]; rfl))]
      exact .inr (by omega)

/-- **One request among others.** Whatever ends its waits and whatever others do meanwhile, with a
preference of `b.tierCount` tiers:

* a request begins one round more than there are tiers at most, gives up no more connections than
  there are tiers, and dials no host twice in a round;
* if all hosts that are ever listed are among finitely many, it dials no more of them in a round,
  and makes no more strides than the bound; until it is over, it goes on whenever its wait is over;
* it puts a host in quarantine only after it has dialed the host itself, because the connect failed
  or because the check rejected the host, which was no candidate any more;
* a balanced connection that it hands out is leased under the key of its address; the host was a
  candidate unless the query of the check failed; and no more preferred host was available then
  unless every preemption was spent. -/
theorem bounded_sound (h : AmongOthers caller (t :: past)) :
    let b := t.found.balancer
    rounds (t :: past) ≤ b.tierCount + 1 ∧ preemptions (t :: past) ≤ b.tierCount ∧
    (∀ round, (dials (t :: past) round).Nodup) ∧
    (∀ K : Finset HostKey,
      (∀ u ∈ t :: past, ∀ host ∈ u.left.balancer.pool.members, host ∈ K) →
        (∀ round, (dials (t :: past) round).length ≤ K.card) ∧
        (t :: past).length ≤ (b.tierCount + 1) * (5 * K.card + t.found.router.seeds.length + 7) +
          t.found.router.seeds.length) ∧
    ((∃ result, t.stage = .finished result) ∨
      (∃ arrival, t.stage.waitsFor arrival = true) ∧
        ∀ arrival, t.stage.waitsFor arrival = true → ∀ found, t.left.Later found →
          ∀ now pick, ∃ left stage, AmongOthers caller
            (⟨some (t.stage, arrival), found, now, pick, left, stage⟩ :: t :: past)) ∧
    (∀ host, t.Quarantines host → t.wait.Fails host ∧ ∃ round, host ∈ dials past round) ∧
    (∀ conn round lease refused, t.stage = .closing conn (.rejected round lease refused) →
      t.left.balancer.pool.isSelectable lease.host = false) ∧
    ∀ conn lease, t.stage = .finished (.ok ⟨conn, some lease⟩) →
      lease.host = conn.addr.key b.settings.defaultPort ∧
        (t.left.balancer.pool.isSelectable lease.host = true ∨
          ∃ round held control e, held.lease = lease ∧
            t.wait = some (.querying (.check round held), .answered control (.error e))) ∧
        (t.left.balancer.hasMorePreferred lease.host = false ∨
          preemptions (t :: past) = b.tierCount) := by
  intro b
  have hpre : preemptions (t :: past) ≤ b.tierCount := by
    have hlt := h.keeps.preemptions_lt
    rw [Balancer.rankCount_eq_tierCount] at hlt
    exact Nat.le_of_lt_succ hlt
  have hpast : preemptions past ≤ preemptions (t :: past) :=
    (List.sublist_cons_self ..).countP_le
  refine ⟨Nat.le_trans h.rounds_le (by omega), hpre, h.keeps.nodup,
    fun K hK => ⟨h.length_dials_le hK, ?_⟩, ?_, fun host hq => ?_,
    fun conn round lease refused hs => ?_, fun conn lease => h.sound_of_finished⟩
  · have hlen := h.length_add_waitsLeft_le hK
    rw [Balancer.rankCount_eq_tierCount] at hlen
    exact Nat.le_trans (Nat.le_add_right ..) hlen
  · exact t.stage.finished_or_waits.imp_right fun hwaits =>
      ⟨hwaits, fun _ ha _ hl now pick => h.exists_next ha hl now pick⟩
  · have hf := Stride.fails_of_quarantines h.plays hq
    exact ⟨hf, h.mem_dials_of_fails hf⟩
  · have ho := h.plays.sequel
    rw [hs] at ho
    exact ho.of_rejected

/-- The request of a router that prefers `b` to `a` and refreshes every time. The member `b` is
listed only after the request has connected to `a`, and refuses. -/
def preemptedInVain : List Stride :=
  let a : Node := { host := "a", cloud := "c", region := "r", zone := "far" }
  let b : Node := { host := "b", cloud := "c", region := "r", zone := "near" }
  let preference : Preference :=
    .ofEntries "c.r.near:1,c.r.far:2" [⟨⟨"c", "r", "near"⟩, 1⟩, ⟨⟨"c", "r", "far"⟩, 2⟩]
  undisturbedFrom
    { router := { seeds := [⟨"a", standardPort⟩], connectSecs := 5, balancer := some 0 }
      id := 0
      balancer := { preference := some preference, settings := { refreshInterval := 0 } }
      ledger := {} } 0 0
    [.opened none, .answered "a" (.ok [a.row]), .opened none,
      .answered "a" (.ok [a.row, b.row]), .closed, .answered "a" (.ok [a.row, b.row]),
      .opened (some (.nodeUnreachable "b" .refused)), .opened none,
      .answered "a" (.ok [a.row, b.row])]

theorem bounded_sound_preemptedInVain : ∃ t past, preemptedInVain = t :: past ∧
    t.stage = .finished (.ok ⟨{ addr := ⟨"a", standardPort⟩ }, some ⟨0, "a"⟩⟩) ∧
    rounds (t :: past) = 2 ∧ dials (t :: past) 2 = ["a", "b"] ∧
    (dials (t :: past) 2).Nodup ∧ preemptions (t :: past) ≤ 2 ∧
    t.left.balancer.hasMorePreferred "a" = false := by
  have hj : AmongOthers 0 preemptedInVain := amongOthers_undisturbedFrom (.fresh _ _) 0 0 _
  have hstage : preemptedInVain.head?.map (·.stage) =
      some (.finished (.ok ⟨{ addr := ⟨"a", standardPort⟩ }, some ⟨0, "a"⟩⟩)) := by decide +kernel
  have htiers : preemptedInVain.head?.map (·.found.balancer.tierCount) = some 2 := by
    decide +kernel
  have hdials : rounds preemptedInVain = 2 ∧ dials preemptedInVain 2 = ["a", "b"] ∧
      preemptions preemptedInVain = 1 := by decide +kernel
  generalize preemptedInVain = j at hj hstage htiers hdials ⊢
  obtain - | ⟨t, past⟩ := j
  · cases hstage
  simp only [List.head?_cons, Option.map_some, Option.some.injEq] at hstage htiers
  obtain ⟨-, hpre, hnodup, -, -, -, -, hsound⟩ := bounded_sound hj
  obtain ⟨-, -, hmore⟩ := hsound _ _ hstage
  rw [htiers] at hpre hmore
  refine ⟨t, past, rfl, hstage, hdials.1, hdials.2.1, hnodup 2, hpre, hmore.resolve_right ?_⟩
  rw [hdials.2.2]
  decide

end Journey

end ConnectionRouter
