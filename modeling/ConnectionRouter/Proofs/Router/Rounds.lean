import ConnectionRouter.Proofs.Router.Journey
import ConnectionRouter.Proofs.Router.Requests

/-!
# The rounds of a request

A request has as many rounds as there can be priorities, each after the first for the sake of a more
preferred host, and dials no host twice in a round.

`Poised` says how a request stands in its round when a wait is over. Every stride passes it on
(`Poised.stride`), so it holds along every journey (`Journey.keeps`).
-/

namespace ConnectionRouter

namespace Stride

/-- A round begins with the stride. -/
def beginsRound (t : Stride) : Bool :=
  match t.wait with
  | none | some (.closing _ (.preempted ..), _) => true
  | _ => false

/-- The stride gives a connection up for a better placed host. -/
def preempts (t : Stride) : Bool :=
  match t.stage with
  | .closing _ (.preempted ..) => true
  | _ => false

/-- The host that the stride dials in a round. -/
def dials? (round : Nat) (t : Stride) : Option HostKey :=
  match t.stage with
  | .opening _ (.data r lease _) => if r = round then some lease.host else none
  | _ => none

/-- The stride puts a host in quarantine. -/
def Quarantines (t : Stride) (host : HostKey) : Prop :=
  t.found.balancer.pool.isQuarantined host = false ∧
    t.left.balancer.pool.isQuarantined host = true

theorem preempts_of_not_balanced (t : Stride) (h : t.stage.balanced = false) :
    t.preempts = false := by
  unfold preempts
  split
  · rename_i hs
    rw [hs] at h
    cases h
  · rfl

theorem dials?_of_not_balanced (t : Stride) (h : t.stage.balanced = false) (round : Nat) :
    t.dials? round = none := by
  unfold dials?
  split
  · rename_i hs
    rw [hs] at h
    cases h
  · rfl

end Stride

theorem Balancer.rankCount_pos (b : Balancer) : 0 < b.rankCount := by
  unfold rankCount
  split
  · exact Nat.one_pos
  · exact Nat.succ_pos _

namespace Journey

/-- The rounds that have begun. -/
def rounds (j : List Stride) : Nat := j.countP Stride.beginsRound

/-- The connections given up for a better placed host. -/
def preemptions (j : List Stride) : Nat := j.countP Stride.preempts

/-- The hosts dialed in a round, latest first. -/
def dials (j : List Stride) (round : Nat) : List HostKey := j.filterMap (Stride.dials? round)

variable {t : Stride} {past : List Stride}

theorem preemptions_cons_of_not (h : t.preempts = false) :
    preemptions (t :: past) = preemptions past := List.countP_cons_of_neg (by simp [h])

theorem preemptions_cons (h : t.preempts = true) :
    preemptions (t :: past) = preemptions past + 1 := List.countP_cons_of_pos h

theorem dials_cons_of_none {round : Nat} (h : t.dials? round = none) :
    dials (t :: past) round = dials past round := List.filterMap_cons_none h

theorem dials_cons {round : Nat} {host : HostKey} (h : t.dials? round = some host) :
    dials (t :: past) round = host :: dials past round := List.filterMap_cons_some h

end Journey

open Journey

/-! ## Rounds and dials -/

namespace Wait

variable {w : Wait} {purpose : RefreshPurpose} {ok : Bool}

theorem Early.refused_eq (h : w.Early) : w.refused = [] := by
  cases h with
  | begins h => exact h.refused_eq
  | _ => rfl

/-- A refresh knows the hosts that its round has dialed. -/
theorem Asks.dialed_eq (h : w.Asks purpose) : purpose.dialed = w.refused := by
  cases h with
  | begins h => exact h.refused_eq.symm
  | _ => rfl

theorem Refreshed.dialed_eq (h : w.Refreshed purpose ok) : purpose.dialed = w.refused := by
  cases h with
  | skipped h => exact h.dialed_eq
  | _ => rfl

end Wait

/-- How a request stands in its round when a wait is over. -/
structure Poised (ranks : Nat) (w : Wait) (past : List Stride) : Prop where
  /-- Every round after the first follows a preemption. -/
  preemptions_eq : preemptions past + 1 = w.round
  round_le : w.round ≤ ranks
  dials_eq : dials past w.round = w.refused
  dials_later : ∀ round, w.round < round → dials past round = []
  nodup : ∀ round, (dials past round).Nodup

/-- How a request stands after a stride: poised while it looks for a balanced connection. -/
structure Keeps (ranks : Nat) (stage : Stage) (j : List Stride) : Prop where
  poised : stage.balanced = true → ∀ arrival, Poised ranks (some (stage, arrival)) j
  preemptions_lt : preemptions j < ranks
  nodup : ∀ round, (dials j round).Nodup

namespace Poised

variable {ranks : Nat} {w : Wait} {past : List Stride} {t : Stride} {s : Scene}

theorem start (ranks : Nat) (h : 0 < ranks) : Poised ranks none [] :=
  ⟨rfl, h, rfl, fun _ _ => rfl, fun _ => List.nodup_nil⟩

/-- A stride that neither dials nor gives up leads to where it came from. -/
theorem pass (p : Poised ranks w past) (hp : t.preempts = false)
    (hd : ∀ round, t.dials? round = none) {stage : Stage}
    (h : stage.balanced = true → ∀ arrival, Wait.round (some (stage, arrival)) = w.round ∧
      Wait.refused (some (stage, arrival)) = w.refused) :
    Keeps ranks stage (t :: past) := by
  have hpre : preemptions (t :: past) + 1 = w.round := by
    rw [preemptions_cons_of_not hp, p.preemptions_eq]
  have hdials : ∀ round, dials (t :: past) round = dials past round :=
    fun round => dials_cons_of_none (hd round)
  refine ⟨fun hb arrival => ?_, ?_, fun round => hdials round ▸ p.nodup round⟩
  · obtain ⟨hround, hrefused⟩ := h hb arrival
    refine ⟨hround ▸ hpre, hround ▸ p.round_le, ?_, fun round hlt => ?_, fun round => ?_⟩
    · rw [hround, hrefused, hdials, p.dials_eq]
    · rw [hdials, p.dials_later round (hround ▸ hlt)]
    · exact hdials round ▸ p.nodup round
  · exact Nat.lt_of_lt_of_le (Nat.lt_of_succ_le (Nat.le_of_eq hpre)) p.round_le

/-- A stride that dials a host that has not failed in its round. -/
theorem dial (p : Poised ranks w past) {host : HostKey} (hx : host ∉ w.refused) {addr : HostAddr}
    {id : BalancerId} (ht : t.stage = .opening addr (.data w.round ⟨id, host⟩ w.refused)) :
    Keeps ranks (.opening addr (.data w.round ⟨id, host⟩ w.refused)) (t :: past) := by
  have hpre : preemptions (t :: past) + 1 = w.round := by
    rw [preemptions_cons_of_not (by simp [Stride.preempts, ht]), p.preemptions_eq]
  have hdials : dials (t :: past) w.round = host :: w.refused := by
    have hdial : t.dials? w.round = some host := by simp [Stride.dials?, ht]
    rw [dials_cons hdial, p.dials_eq]
  have hother : ∀ round, round ≠ w.round → dials (t :: past) round = dials past round := by
    intro round hne
    exact dials_cons_of_none (by simp [Stride.dials?, ht, Ne.symm hne])
  have hnodup : ∀ round, (dials (t :: past) round).Nodup := by
    intro round
    by_cases hr : round = w.round
    · rw [hr, hdials, List.nodup_cons]
      exact ⟨hx, p.dials_eq ▸ p.nodup w.round⟩
    · rw [hother round hr]
      exact p.nodup round
  refine ⟨fun _ _ => ⟨hpre, p.round_le, hdials, fun round hlt => ?_, hnodup⟩, ?_, hnodup⟩
  · rw [hother round (Nat.ne_of_gt hlt), p.dials_later round hlt]
  · exact Nat.lt_of_lt_of_le (Nat.lt_of_succ_le (Nat.le_of_eq hpre)) p.round_le

/-- A stride that gives its connection up leads to the next round. -/
theorem giveUp (p : Poised ranks w past) (hlt : w.round < ranks) {conn : Connection}
    {lease : Lease} (ht : t.stage = .closing conn (.preempted w.round lease)) :
    Keeps ranks (.closing conn (.preempted w.round lease)) (t :: past) := by
  have hpre : preemptions (t :: past) = w.round := by
    rw [preemptions_cons (by simp [Stride.preempts, ht]), p.preemptions_eq]
  have hdials : ∀ round, dials (t :: past) round = dials past round :=
    fun round => dials_cons_of_none (by simp [Stride.dials?, ht])
  have hnodup : ∀ round, (dials (t :: past) round).Nodup :=
    fun round => hdials round ▸ p.nodup round
  refine ⟨fun _ _ => ⟨by rw [hpre]; rfl, hlt, ?_, fun round hgt => ?_, hnodup⟩, hpre ▸ hlt, hnodup⟩
  · exact (hdials _).trans (p.dials_later _ (Nat.lt_succ_self _))
  · exact (hdials _).trans (p.dials_later _ (Nat.lt_of_succ_lt hgt))

/-- A stride after which the request does not look for a balanced connection any more. -/
theorem leave (p : Poised ranks w past) {stage : Stage} (ht : t.stage = stage)
    (hb : stage.balanced = false) : Keeps ranks stage (t :: past) :=
  p.pass (t.preempts_of_not_balanced (ht ▸ hb)) (t.dials?_of_not_balanced (ht ▸ hb))
    fun h => by rw [hb] at h; cases h

/-- Every stride passes on how the request stands in its round. -/
theorem stride (p : Poised ranks w past) (hranks : s.balancer.rankCount = ranks)
    (ho : Sequel w s (t.left, t.stage)) : Keeps ranks t.stage (t :: past) := by
  obtain ⟨wait, found, now, pick, left, stage⟩ := t
  dsimp only at ho ⊢
  generalize hr : (left, stage) = r at ho
  cases ho with
  | awaitsControl begins alike =>
    cases hr
    exact p.pass rfl (fun _ => rfl) fun _ _ => ⟨rfl, begins.refused_eq.symm⟩
  | awaitsTurn asks alike =>
    cases hr
    exact p.pass rfl (fun _ => rfl) fun _ _ => ⟨asks.round_eq.symm, asks.dialed_eq⟩
  | queries asks alike =>
    cases hr
    exact p.pass rfl (fun _ => rfl) fun _ _ => ⟨asks.round_eq.symm, asks.dialed_eq⟩
  | resumes wait =>
    cases hr
    subst wait
    exact p.pass rfl (fun _ => rfl) fun _ _ => ⟨rfl, rfl⟩
  | stale wait =>
    cases hr
    subst wait
    exact p.pass rfl (fun _ => rfl) fun _ _ => ⟨rfl, rfl⟩
  | bootstraps early =>
    cases hr
    exact p.pass rfl (fun _ => rfl) fun _ _ => ⟨rfl, early.refused_eq.symm⟩
  | triesNext wait =>
    cases hr
    subst wait
    exact p.pass rfl (fun _ => rfl) fun _ _ => ⟨rfl, rfl⟩
  | reserves looks alike snapshot chosen =>
    cases hr
    exact p.dial (Pool.of_mem_select chosen).1 rfl
  | rejects ended =>
    cases hr
    exact p.pass rfl (fun _ => rfl) fun _ _ => ⟨ended.round_eq.symm, ended.dialed_eq⟩
  | preempts ended alike selectable roundsLeft =>
    cases hr
    have hround := ended.round_eq
    rw [alike.rankCount_eq, hranks] at roundsLeft
    subst hround
    exact p.giveUp roundsLeft rfl
  | nobodyToAsk => cases hr; exact p.leave rfl rfl
  | nobodyAnswers => cases hr; exact p.leave rfl rfl
  | noCandidate => cases hr; exact p.leave rfl rfl
  | handsOut => cases hr; exact p.leave rfl rfl
  | fallsBack => cases hr; exact p.leave rfl (World.balanced_trySeeds ..)
  | triesSeed => cases hr; exact p.leave rfl (World.balanced_seedOpened ..)

end Poised

/-- Without balancing a request neither dials nor gives up. -/
theorem Keeps.seed {ranks : Nat} {last t : Stride} {past : List Stride}
    (h : Keeps ranks last.stage (last :: past)) (hb : t.stage.balanced = false) :
    Keeps ranks t.stage (t :: last :: past) := by
  have hdials : ∀ round, dials (t :: last :: past) round = dials (last :: past) round :=
    fun round => dials_cons_of_none (t.dials?_of_not_balanced hb round)
  refine ⟨fun hb' => absurd hb' (by simp [hb]), ?_, fun round => hdials round ▸ h.nodup round⟩
  rw [preemptions_cons_of_not (t.preempts_of_not_balanced hb)]
  exact h.preemptions_lt

/-- A stride that does not look for a balanced connection any more comes from the seeds. -/
theorem Sequel.seed_of_not_balanced {stage : Stage} {arrival : Arrival} {s : Scene}
    {r : Scene × Stage} (hb : stage.balanced = false)
    (ho : Sequel (some (stage, arrival)) s r) : ∃ addr later failure,
      (stage, arrival) = (.opening addr (.seed later), .opened failure) ∧
        r = (s, seedOpened later (addr.dial failure)) := by
  have hne : ∀ {stage' : Stage} {arrival' : Arrival}, stage'.balanced = true →
      (some (stage, arrival) : Wait) ≠ some (stage', arrival') := by
    rintro stage' arrival' hb' ⟨⟩
    rw [hb] at hb'
    cases hb'
  cases ho with
  | triesSeed wait => exact ⟨_, _, _, Option.some.inj wait, rfl⟩
  | awaitsControl begins => rw [begins.balanced rfl] at hb; cases hb
  | awaitsTurn asks => rw [asks.balanced rfl] at hb; cases hb
  | queries asks => rw [asks.balanced rfl] at hb; cases hb
  | resumes wait => exact absurd wait (hne rfl)
  | stale wait => exact absurd wait (hne rfl)
  | bootstraps early => rw [early.balanced rfl] at hb; cases hb
  | triesNext wait => exact absurd wait (hne rfl)
  | nobodyToAsk early => rw [early.balanced rfl] at hb; cases hb
  | nobodyAnswers wait => exact absurd wait (hne rfl)
  | reserves looks => rw [looks.balanced rfl] at hb; cases hb
  | noCandidate looks => rw [looks.balanced rfl] at hb; cases hb
  | rejects ended => rw [ended.balanced rfl] at hb; cases hb
  | preempts ended => rw [ended.balanced rfl] at hb; cases hb
  | handsOut ended => rw [ended.balanced rfl] at hb; cases hb
  | fallsBack wait => exact absurd wait (hne rfl)

namespace Journey

variable {caller : Caller} {t : Stride} {past : List Stride}

/-- How a request stands after every stride. -/
theorem keeps (h : AmongOthers caller (t :: past)) :
    Keeps t.found.balancer.rankCount t.stage (t :: past) := by
  induction h using along with
  | start t h =>
    have ho := h.plays.sequel
    rw [h.wait_eq] at ho
    exact (Poised.start _ (Balancer.rankCount_pos _)).stride rfl ho
  | next t last past j h ih =>
    obtain ⟨arrival, hw⟩ := h.wait_eq
    have ho := h.plays.sequel
    rw [hw] at ho
    rw [← (j.plays.later.trans h.later).rankCount_eq] at ih
    cases hb : last.stage.balanced with
    | true =>
      have hs := (Scene.Later.hear t.found caller t.now (some (last.stage, arrival))).rankCount_eq
      exact (ih.poised hb arrival).stride hs ho
    | false =>
      obtain ⟨addr, later, failure, -, hr⟩ := ho.seed_of_not_balanced hb
      refine ih.seed ?_
      rw [show t.stage = _ from congrArg Prod.snd hr]
      exact World.balanced_seedOpened ..

/-- How a request that looks for a balanced connection stands before every stride. -/
theorem poised (h : AmongOthers caller (t :: past))
    (hb : ∀ stage arrival, t.wait = some (stage, arrival) → stage.balanced = true) :
    Poised t.found.balancer.rankCount t.wait past := by
  cases h with
  | start h =>
    rw [h.wait_eq]
    exact .start _ (Balancer.rankCount_pos _)
  | next j h =>
    obtain ⟨arrival, hw⟩ := h.wait_eq
    rw [hw, (j.plays.later.trans h.later).rankCount_eq]
    exact j.keeps.poised (hb _ _ hw) arrival

/-- Every round after the first follows a preemption. -/
theorem rounds_le (h : AmongOthers caller (t :: past)) :
    rounds (t :: past) ≤ preemptions past + 1 := by
  induction h using along with
  | start t h => exact List.countP_le_length
  | next t last past j h ih =>
    obtain ⟨arrival, hw⟩ := h.wait_eq
    by_cases hb : t.beginsRound = true
    · have hp : last.preempts = true := by
        unfold Stride.beginsRound at hb
        rw [hw] at hb
        unfold Stride.preempts
        split at hb
        · rename_i he
          cases he
        · rename_i he
          simp only [Option.some.injEq, Prod.mk.injEq] at he
          rw [he.1]
        · cases hb
      rw [rounds, List.countP_cons_of_pos hb, preemptions_cons hp]
      exact Nat.succ_le_succ ih
    · rw [rounds, List.countP_cons_of_neg hb]
      refine Nat.le_trans ih (Nat.succ_le_succ ?_)
      exact List.Sublist.countP_le (List.sublist_cons_self ..)

end Journey

end ConnectionRouter
