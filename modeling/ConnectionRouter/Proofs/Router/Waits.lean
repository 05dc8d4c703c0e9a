import ConnectionRouter.Proofs.Router.Course
import ConnectionRouter.Proofs.Router.Rounds
import Mathlib.Data.Finset.Card

/-!
# The waits of a request

A request comes to its end whatever others do, if only finitely many hosts are ever listed: a round
dials each of them once, and asks each of them and of the seeds once for the topology.
`Stage.waitsLeft` bounds the waits that are left at a stage, and falls at every stride
(`Sequel.waitsLeft_lt`), so that no journey is longer than what there was at the start
(`Journey.length_add_waitsLeft_le`).
-/

namespace ConnectionRouter

open Journey

namespace Stage

/-- The waits of the rounds after `round`, and of the seeds after them. -/
def roundsLeft (ranks seeds hosts round : Nat) : Nat :=
  (ranks - round) * (5 * hosts + seeds + 7) + seeds

/-- A bound on the waits that are left at a stage while at most so many hosts are listed. -/
def waitsLeft (ranks seeds hosts : Nat) (stage : Stage) : Nat :=
  let left := roundsLeft ranks seeds hosts stage.round + 4 * (hosts - stage.dialed.length)
  match stage with
  | awaitingControl _ => left + hosts + seeds + 6
  | awaitingTurn (.cached _) => left + hosts + seeds + 5
  | querying (.cached _) => left + hosts + seeds + 4
  | closing _ (.stale _) => left + hosts + seeds + 3
  | opening _ (.control _ later _) => left + later.length + 3
  | awaitingTurn (.fresh ..) => left + 2
  | querying (.fresh ..) => left + 1
  | opening _ (.data ..) => left + 4
  | awaitingTurn (.check ..) => left + 3
  | querying (.check ..) => left + 2
  | closing _ (.rejected ..) => left + 1
  | closing _ (.preempted round _) => roundsLeft ranks seeds hosts round + 1
  | opening _ (.seed later) => later.length + 1
  | finished _ => 0

end Stage

namespace Wait

/-- A bound on the waits that were left before the last one was over. -/
def waitsLeft (ranks seeds hosts : Nat) : Wait → Nat
  | none => ranks * (5 * hosts + seeds + 7) + seeds
  | some (stage, _) => stage.waitsLeft ranks seeds hosts

/-- The waits that are left at least once a host is reserved. -/
def reserveLeft (ranks seeds hosts : Nat) (w : Wait) : Nat :=
  Stage.roundsLeft ranks seeds hosts w.round + 4 * (hosts - w.refused.length)

variable {w : Wait} {purpose : RefreshPurpose} {ok : Bool} {ranks : Nat} (seeds hosts : Nat)

theorem roundsLeft_of_le {round : Nat} (h : round + 1 ≤ ranks) :
    Stage.roundsLeft ranks seeds hosts round =
      Stage.roundsLeft ranks seeds hosts (round + 1) + (5 * hosts + seeds + 7) := by
  obtain ⟨k, hk⟩ : ∃ k, ranks - round = k + 1 := ⟨ranks - round - 1, by omega⟩
  have hk' : ranks - (round + 1) = k := by omega
  rw [Stage.roundsLeft, Stage.roundsLeft, hk, hk', Nat.succ_mul]
  omega

theorem Begins.waitsLeft_ge (h : w.Begins) (hle : w.round ≤ ranks) :
    w.reserveLeft ranks seeds hosts + hosts + seeds + 7 ≤ w.waitsLeft ranks seeds hosts := by
  cases h with
  | call =>
    have hleft : waitsLeft ranks seeds hosts none = _ := roundsLeft_of_le seeds hosts hle
    rw [hleft, Nat.zero_add]
    simp only [reserveLeft, round, refused, List.length_nil]
    omega
  | preempted conn r lease =>
    have hleft : Stage.roundsLeft ranks seeds hosts r = _ := roundsLeft_of_le seeds hosts hle
    simp only [reserveLeft, waitsLeft, Stage.waitsLeft, round, refused, Stage.dialed,
      List.length_nil, hleft]
    omega

theorem Early.waitsLeft_ge (h : w.Early) (hle : w.round ≤ ranks) :
    w.reserveLeft ranks seeds hosts + hosts + seeds + 3 ≤ w.waitsLeft ranks seeds hosts := by
  cases h with
  | begins h =>
    have hleft := h.waitsLeft_ge seeds hosts hle
    omega
  | granted round => exact Nat.add_le_add_left (by decide) _
  | unanswered round => exact Nat.add_le_add_left (by decide) _
  | stale conn round => exact Nat.le_refl _

theorem waitsLeft_querying (ranks : Nat) (purpose : RefreshPurpose) :
    (Stage.querying purpose).waitsLeft ranks seeds hosts + 1 =
      (Stage.awaitingTurn purpose).waitsLeft ranks seeds hosts := by
  cases purpose <;> rfl

/-- A refresh that starts leaves the waits for the turn and for the query. -/
theorem Asks.waitsLeft_lt (h : w.Asks purpose) (hle : w.round ≤ ranks) :
    (Stage.awaitingTurn purpose).waitsLeft ranks seeds hosts < w.waitsLeft ranks seeds hosts := by
  cases h with
  | begins h =>
    have hleft := h.waitsLeft_ge seeds hosts hle
    rw [reserveLeft, h.refused_eq] at hleft
    refine Nat.lt_of_lt_of_le ?_ hleft
    simp only [Stage.waitsLeft, Stage.round, RefreshPurpose.round, Stage.dialed,
      RefreshPurpose.dialed]
    omega
  | granted round => exact Nat.lt_succ_self _
  | fresh addr round later total =>
    simp only [waitsLeft, Stage.waitsLeft, Stage.round, RefreshPurpose.round, Stage.dialed,
      RefreshPurpose.dialed]
    omega
  | check addr round lease refused => exact Nat.lt_succ_self _

/-- A refresh that is over leaves what its query left. -/
theorem Refreshed.waitsLeft_ge (h : w.Refreshed purpose ok) (hle : w.round ≤ ranks) :
    (Stage.querying purpose).waitsLeft ranks seeds hosts ≤ w.waitsLeft ranks seeds hosts := by
  have hq := waitsLeft_querying seeds hosts ranks purpose
  cases h with
  | skipped h =>
    have hlt := h.waitsLeft_lt seeds hosts hle
    omega
  | spared => exact Nat.le_trans (Nat.le_succ _) (Nat.le_of_eq hq)
  | answered => exact Nat.le_refl _

/-- While a request looks for a balanced connection, a reservation leaves fewer waits. -/
theorem reserveLeft_lt (hle : w.round ≤ ranks)
    (hb : ∀ stage arrival, w = some (stage, arrival) → stage.balanced = true) :
    w.reserveLeft ranks seeds hosts < w.waitsLeft ranks seeds hosts := by
  match w with
  | none =>
    have hleft := Begins.call.waitsLeft_ge seeds hosts hle
    omega
  | some (.awaitingControl _, _) =>
    simp only [reserveLeft, waitsLeft, Stage.waitsLeft, round, refused, Stage.round, Stage.dialed]
    omega
  | some (.awaitingTurn purpose, _) =>
    cases purpose <;> simp only [reserveLeft, waitsLeft, Stage.waitsLeft, round, refused] <;> omega
  | some (.querying purpose, _) =>
    cases purpose <;> simp only [reserveLeft, waitsLeft, Stage.waitsLeft, round, refused] <;> omega
  | some (.opening _ purpose, _) =>
    cases purpose with
    | seed later => cases hb _ _ rfl
    | _ =>
      simp only [reserveLeft, waitsLeft, Stage.waitsLeft, round, refused]
      omega
  | some (.closing conn purpose, arrival) =>
    cases purpose with
    | preempted round lease =>
      have hleft := (Begins.preempted conn round lease).waitsLeft_ge seeds hosts hle
      refine Nat.lt_of_lt_of_le ?_ hleft
      show reserveLeft ranks seeds hosts
        (some (.closing conn (.preempted round lease), .closed)) < _
      omega
    | _ =>
      simp only [reserveLeft, waitsLeft, Stage.waitsLeft, round, refused]
      omega
  | some (.finished _, _) => cases hb _ _ rfl

end Wait

theorem Stage.waitsLeft_trySeeds (e : RoutingError) (addrs : List HostAddr)
    (ranks seeds hosts : Nat) : (trySeeds e addrs).waitsLeft ranks seeds hosts ≤ addrs.length := by
  cases addrs <;> exact Nat.le_refl _

theorem Stage.waitsLeft_seedOpened (later : List HostAddr) (result : Except RoutingError Connection)
    (ranks seeds hosts : Nat) :
    (seedOpened later result).waitsLeft ranks seeds hosts ≤ later.length := by
  cases result with
  | ok conn => exact Nat.zero_le _
  | error e => exact waitsLeft_trySeeds e later ranks seeds hosts

/-- A list without repetition fits into what all its elements are in. -/
theorem length_le_card {α : Type} [DecidableEq α] {l : List α} {K : Finset α} (hn : l.Nodup)
    (h : ∀ a ∈ l, a ∈ K) : l.length ≤ K.card := by
  rw [← List.toFinset_card_of_nodup hn]
  exact Finset.card_le_card fun a ha => h a (List.mem_toFinset.mp ha)

/-- The members are at most as many as the hosts that are ever listed. -/
theorem size_members_le {p : Pool} {K : Finset HostKey} (h : ∀ host ∈ p.members, host ∈ K) :
    p.members.size ≤ K.card := by
  rw [← Std.ExtTreeMap.length_keys]
  exact length_le_card Std.ExtTreeMap.nodup_keys fun host hh =>
    h host (Std.ExtTreeMap.mem_keys.mp hh)

/-- **Every stride leaves fewer waits**, as long as the hosts that are listed, and those that the
round has dialed, are among finitely many. -/
theorem Sequel.waitsLeft_lt {ranks : Nat} {w : Wait} {s : Scene} {r : Scene × Stage}
    {K : Finset HostKey} (ho : Sequel w s r)
    (hb : ∀ stage arrival, w = some (stage, arrival) → stage.balanced = true)
    (hround : w.round ≤ ranks) (hnodup : w.refused.Nodup)
    (hrefused : ∀ host ∈ w.refused, host ∈ K)
    (hleft : ∀ host ∈ r.1.balancer.pool.members, host ∈ K) :
    r.2.waitsLeft ranks s.router.seeds.length K.card <
      w.waitsLeft ranks s.router.seeds.length K.card := by
  have hreserve := Wait.reserveLeft_lt s.router.seeds.length K.card hround hb
  cases ho with
  | awaitsControl begins =>
    refine Nat.lt_of_lt_of_le ?_ (begins.waitsLeft_ge _ _ hround)
    rw [Wait.reserveLeft, begins.refused_eq]
    exact Nat.lt_succ_self _
  | awaitsTurn asks => exact asks.waitsLeft_lt _ _ hround
  | queries asks =>
    have hlt := asks.waitsLeft_lt s.router.seeds.length K.card hround
    rw [← Wait.waitsLeft_querying] at hlt
    exact Nat.lt_of_succ_lt hlt
  | resumes wait =>
    subst wait
    exact Nat.lt_of_succ_le (Nat.le_of_eq (Wait.waitsLeft_querying _ _ _ _))
  | stale wait =>
    subst wait
    exact Nat.lt_succ_self _
  | @bootstraps m addr later early alike candidates =>
    have hlen := m.balancer.length_bootstrapCandidates_le m.router.seeds
    have hsize : m.balancer.pool.members.size ≤ K.card := size_members_le hleft
    have hearly := early.waitsLeft_ge s.router.seeds.length K.card hround
    rw [candidates, alike.seeds_eq, List.length_cons] at hlen
    rw [Wait.reserveLeft, early.refused_eq] at hearly
    refine Nat.lt_of_lt_of_le ?_ hearly
    simp only [Stage.waitsLeft, Stage.round, Stage.dialed, List.length_nil]
    omega
  | triesNext wait =>
    subst wait
    exact Nat.lt_succ_self _
  | nobodyToAsk => exact Nat.lt_of_le_of_lt (Nat.zero_le _) hreserve
  | nobodyAnswers => exact Nat.lt_of_le_of_lt (Nat.zero_le _) hreserve
  | noCandidate => exact Nat.lt_of_le_of_lt (Nat.zero_le _) hreserve
  | handsOut => exact Nat.lt_of_le_of_lt (Nat.zero_le _) hreserve
  | @reserves m m' host addr looks alike snapshot chosen stays router_eq pool_eq =>
    -- the host has not been dialed in this round, so that fewer are left
    obtain ⟨hx, -, pm, hpm, -⟩ := Pool.of_mem_select chosen
    have hmem : host ∈ m'.balancer.pool.members := by
      rw [pool_eq, Pool.members_adjust]
      exact Table.mem_iff_exists.mpr ⟨pm, hpm⟩
    have hlen : w.refused.length + 1 ≤ K.card :=
      length_le_card (List.nodup_cons.mpr ⟨hx, hnodup⟩) (by simpa using ⟨hleft host hmem, hrefused⟩)
    refine Nat.lt_of_le_of_lt (Nat.le_of_eq ?_) hreserve
    simp only [Stage.waitsLeft, Stage.round, Stage.dialed, Wait.reserveLeft, List.length_cons]
    omega
  | rejects ended =>
    refine Nat.lt_of_lt_of_le ?_ (ended.waitsLeft_ge _ _ hround)
    exact Nat.lt_succ_self _
  | preempts ended =>
    refine Nat.lt_of_lt_of_le ?_ (ended.waitsLeft_ge _ _ hround)
    simp only [Stage.waitsLeft, Stage.round, RefreshPurpose.round]
    omega
  | @fallsBack m round conn control e wait alike =>
    have hseeds := Stage.waitsLeft_trySeeds (.clusterUnavailable .noSeeds) m.router.seeds ranks
      s.router.seeds.length K.card
    rw [Wait.reserveLeft, Stage.roundsLeft] at hreserve
    refine Nat.lt_of_le_of_lt hseeds ?_
    rw [alike.seeds_eq]
    omega
  | triesSeed wait => cases hb _ _ wait

namespace Journey

variable {caller : Caller} {t : Stride} {past : List Stride}

theorem forall_plays (h : AmongOthers caller (t :: past)) : ∀ u ∈ t :: past, u.Plays caller := by
  induction h using along with
  | start t h => simpa using h.plays
  | next t last past j h ih => exact List.forall_mem_cons.mpr ⟨h.plays, ih⟩

/-- The hosts that a request dials are listed then. -/
theorem mem_members_of_dials (h : AmongOthers caller (t :: past)) {round : Nat} {host : HostKey}
    (hd : host ∈ dials (t :: past) round) :
    ∃ u ∈ t :: past, host ∈ u.left.balancer.pool.members := by
  obtain ⟨u, hu, hdial⟩ := List.mem_filterMap.mp hd
  refine ⟨u, hu, ?_⟩
  unfold Stride.dials? at hdial
  split at hdial
  · rename_i addr r lease refused hs
    split at hdial
    · cases hdial
      have ho := (h.forall_plays u hu).sequel
      rw [hs] at ho
      exact ho.of_data.2.2.mem_members
    · cases hdial
  · cases hdial

/-- A round dials no more hosts than are ever listed. -/
theorem length_dials_le (h : AmongOthers caller (t :: past)) {K : Finset HostKey}
    (hK : ∀ u ∈ t :: past, ∀ host ∈ u.left.balancer.pool.members, host ∈ K) (round : Nat) :
    (dials (t :: past) round).length ≤ K.card := by
  refine length_le_card (h.keeps.nodup round) fun host hd => ?_
  obtain ⟨u, hu, hm⟩ := h.mem_members_of_dials hd
  exact hK u hu host hm

/-- Strides made and waits left add up to no more than there was at the start. -/
theorem length_add_waitsLeft_le (h : AmongOthers caller (t :: past)) {K : Finset HostKey}
    (hK : ∀ u ∈ t :: past, ∀ host ∈ u.left.balancer.pool.members, host ∈ K) :
    (t :: past).length +
        t.stage.waitsLeft t.found.balancer.rankCount t.found.router.seeds.length K.card ≤
      t.found.balancer.rankCount * (5 * K.card + t.found.router.seeds.length + 7) +
        t.found.router.seeds.length := by
  induction h using along with
  | start t h =>
    have ho := h.plays.sequel
    rw [h.wait_eq] at ho
    have hlt := ho.waitsLeft_lt (K := K) (fun _ _ hw => by cases hw) t.found.balancer.rankCount_pos
      List.nodup_nil (fun _ hr => by cases hr) (hK t (List.mem_singleton.mpr rfl))
    rw [List.length_singleton, Nat.add_comm]
    exact hlt
  | next t last past j h ih =>
    have hlast := (j.plays.later.trans h.later).toStays
    have ih := ih fun u hu => hK u (List.mem_cons_of_mem _ hu)
    rw [← hlast.rankCount_eq, ← hlast.seeds_eq] at ih
    suffices t.stage.waitsLeft t.found.balancer.rankCount t.found.router.seeds.length K.card <
        last.stage.waitsLeft t.found.balancer.rankCount t.found.router.seeds.length K.card by
      rw [List.length_cons]
      omega
    obtain ⟨arrival, hw⟩ := h.wait_eq
    have ho := h.plays.sequel
    rw [hw] at ho
    cases hb : last.stage.balanced with
    | true =>
      have hk := (j.next h).poised (fun _ _ hw' => by rw [hw] at hw'; cases hw'; exact hb)
      rw [hw] at hk
      have hseeds := (Scene.Later.hear t.found caller t.now (some (last.stage, arrival))).seeds_eq
      rw [← hseeds]
      refine ho.waitsLeft_lt (fun _ _ hw => by cases hw; exact hb) hk.round_le ?_
        (fun host hr => ?_) (hK t List.mem_cons_self)
      · exact hk.dials_eq ▸ hk.nodup _
      · obtain ⟨u, hu, hm⟩ := j.mem_members_of_dials (hk.dials_eq ▸ hr)
        exact hK u (List.mem_cons_of_mem _ hu) host hm
    | false =>
      obtain ⟨addr, later, failure, he, hr⟩ := ho.seed_of_not_balanced hb
      have hstage : t.stage = seedOpened later (addr.dial failure) := congrArg Prod.snd hr
      rw [(Prod.mk.inj he).1, hstage]
      exact Nat.lt_succ_of_le (Stage.waitsLeft_seedOpened ..)

end Journey

end ConnectionRouter
