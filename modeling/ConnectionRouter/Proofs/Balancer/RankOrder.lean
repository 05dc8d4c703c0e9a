import ConnectionRouter.Proofs.Balancer.UpToDate
import ConnectionRouter.Proofs.Pool.Choice
import ConnectionRouter.Proofs.Pool.Ruled

/-!
# Only the order of ranks matters

A pool compares the priorities of its members and does nothing else with them. Two preferences that
put the places of a run in the same order, ties included, thus cannot be told apart by what the
pools of the run do and answer; they may differ in every single priority. Without a preference every
place has one rank, which makes a pool without a preference one of a preference of a single tier.

The two runs are followed together: their pools are one pool whose members are ranked in two ways
(`Pool.RankedAlike`). A snapshot ranks anew, a failure strikes the host from both rankings, and
whatever chooses or compares looks at the order only. Apart from the preference, the rules may
change from one snapshot to the next.

* `SameOrder`: two rankings agree on the order of some places.
* `Pool.RankedAlike.after`: the step of both runs.
* `Pool.runs_alike`: the runs agree throughout.
-/

namespace ConnectionRouter

/-! ## The order of places -/

/-- Two rankings put the same places in the same order. -/
def SameOrder (places : List Placement) (f g : Placement → Priority) : Prop :=
  ∀ a ∈ places, ∀ b ∈ places, f a ≤ f b ↔ g a ≤ g b

namespace SameOrder

variable {places : List Placement} {f g : Placement → Priority}

theorem isBefore_eq (h : SameOrder places f g) {a b : Placement} (ha : a ∈ places)
    (hb : b ∈ places) : (f a).isBefore (f b) = (g a).isBefore (g b) := by
  have hle := h b hb a ha
  rw [Priority.le_iff, Priority.le_iff] at hle
  cases hf : (f a).isBefore (f b) <;> simp_all

theorem mono {fewer : List Placement} (h : SameOrder places f g) (hsub : fewer ⊆ places) :
    SameOrder fewer f g :=
  fun a ha b hb => h a (hsub ha) b (hsub hb)

/-- A ranking that knows one rank only has the order of every other such ranking. -/
theorem of_one_rank (hf : ∀ a ∈ places, ∀ b ∈ places, f a = f b)
    (hg : ∀ a ∈ places, ∀ b ∈ places, g a = g b) : SameOrder places f g := by
  intro a ha b hb
  rw [hf a ha b hb, hg a ha b hb]
  exact iff_of_true (Std.IsPreorder.le_refl _) (Std.IsPreorder.le_refl _)

end SameOrder

/-- Rules with another preference. -/
def SnapshotRules.under (rules : SnapshotRules) (preference : Option Preference) : SnapshotRules :=
  { rules with preference }

/-- The same events with every snapshot read under one preference, and else by its own rules. -/
def readUnder (preference : Option Preference) (events : List (SnapshotRules × PoolEvent)) :
    List (SnapshotRules × PoolEvent) :=
  events.map fun e => (e.1.under preference, e.2)

namespace Pool

/-- The priorities under a preference, or without one. -/
def ranking (preference : Option Preference) : Placement → Priority := rankOf { preference }

/-! ## Pools with ranks to be filled in -/

/-- The pool whose ranked hosts are those of `seen`, ranked by their places. -/
def rankBy (p : Pool) (seen : Table Placement) (f : Placement → Priority) : Pool :=
  { p with priorities := seen.map fun _ place => f place }

@[simp] theorem isQuarantined_rankBy (p : Pool) (seen : Table Placement)
    (f : Placement → Priority) (host : HostKey) :
    (p.rankBy seen f).isQuarantined host = p.isQuarantined host := rfl

@[simp] theorem getElem?_priorities_rankBy (p : Pool) (seen : Table Placement)
    (f : Placement → Priority) (host : HostKey) :
    (p.rankBy seen f).priorities[host]? = (seen[host]?).map f := by
  simp [rankBy, Std.ExtTreeMap.getElem?_map]

/-- A host that may be chosen, with its place instead of a rank. -/
structure Standing where
  host : HostKey
  count : Nat
  place : Placement

def Standing.candidate (f : Placement → Priority) (s : Standing) : Candidate :=
  ⟨s.host, s.count, f s.place⟩

/-- The hosts that may be chosen, whatever the ranks. -/
def standings (p : Pool) (seen : Table Placement) (excluding : List HostKey) : List Standing :=
  p.counts.toList.filterMap fun (host, count) =>
    if excluding.contains host || p.isQuarantined host then none
    else (seen[host]?).map fun place => ⟨host, count, place⟩

theorem place_of_mem_standings {p : Pool} {seen : Table Placement} {excluding : List HostKey}
    {s : Standing} (h : s ∈ p.standings seen excluding) : seen[s.host]? = some s.place := by
  obtain ⟨⟨host, count⟩, -, hs⟩ := List.mem_filterMap.1 h
  dsimp only at hs
  split at hs
  · cases hs
  · obtain ⟨place, hplace, rfl⟩ := Option.map_eq_some_iff.1 hs
    exact hplace

theorem eligible_rankBy (p : Pool) (seen : Table Placement) (f : Placement → Priority)
    (excluding : List HostKey) : (p.rankBy seen f).eligible excluding =
      (p.standings seen excluding).map (Standing.candidate f) := by
  rw [eligible, standings, List.map_filterMap]
  congr 1
  funext entry
  obtain ⟨host, count⟩ := entry
  simp only [isQuarantined_rankBy, getElem?_priorities_rankBy]
  split
  · rfl
  · cases seen[host]? <;> rfl

/-- The standings that no other one comes before. -/
def foremost (f : Placement → Priority) (all : List Standing) : List Standing :=
  all.filter fun s => decide (∀ t ∈ all, f s.place ≤ f t.place)

theorem foremost_congr {f g : Placement → Priority} {all : List Standing}
    (h : SameOrder (all.map (·.place)) f g) : foremost f all = foremost g all := by
  refine List.filter_congr fun s hs => decide_eq_decide.2 ?_
  exact forall₂_congr fun t ht => h _ (List.mem_map_of_mem hs) _ (List.mem_map_of_mem ht)

/-- The candidates of the best priority are the foremost standings. -/
theorem filter_bestPriority {p : Pool} {excluding : List HostKey} {best : Priority}
    {seen : Table Placement} {f : Placement → Priority}
    (h : (p.rankBy seen f).bestPriority? excluding = some best) :
    ((p.rankBy seen f).eligible excluding).filter (·.priority = best) =
      (foremost f (p.standings seen excluding)).map (Standing.candidate f) := by
  rw [bestPriority?, eligible_rankBy] at h
  obtain ⟨hmem, hmin⟩ := List.min?_eq_some_iff.1 h
  rw [eligible_rankBy, foremost, List.filter_map]
  congr 1
  refine List.filter_congr fun s hs => decide_eq_decide.2 ?_
  constructor
  · rintro rfl t ht
    exact hmin _ (List.mem_map_of_mem (List.mem_map_of_mem ht))
  · intro hle
    obtain ⟨c, hc, rfl⟩ := List.mem_map.1 hmem
    obtain ⟨t, ht, rfl⟩ := List.mem_map.1 hc
    exact Std.IsPartialOrder.le_antisymm _ _ (hle t ht)
      (hmin _ (List.mem_map_of_mem (List.mem_map_of_mem hs)))

/-- The hosts that may be chosen are the least loaded of the foremost. -/
theorem select_rankBy (p : Pool) (seen : Table Placement) (f : Placement → Priority)
    (excluding : List HostKey) : (p.rankBy seen f).select excluding =
      (leastLoaded ((foremost f (p.standings seen excluding)).map
        fun s => (s.host, s.count))).filterMap
        fun host => (p.members[host]?).map fun m => (host, m.addr) := by
  unfold select
  cases hbest : (p.rankBy seen f).bestPriority? excluding with
  | none =>
    rw [bestPriority?, List.min?_eq_none_iff, eligible_rankBy, List.map_map, List.map_eq_nil_iff]
      at hbest
    rw [hbest]
    rfl
  | some best =>
    simp only [filter_bestPriority hbest, List.map_map]
    rfl

theorem hasMorePreferred_rankBy (p : Pool) (seen : Table Placement) (f : Placement → Priority)
    (host : HostKey) : (p.rankBy seen f).hasMorePreferred host =
      match seen[host]? with
      | none => false
      | some place => (p.standings seen []).any fun s =>
        s.host != host && (f s.place).isBefore (f place) := by
  rw [hasMorePreferred, priority?, getElem?_priorities_rankBy]
  cases seen[host]? with
  | none => rfl
  | some place =>
    simp only [Option.map_some, eligible_rankBy, List.any_map]
    rfl

theorem isSelectable_rankBy (p : Pool) (seen : Table Placement) (f : Placement → Priority)
    (host : HostKey) : (p.rankBy seen f).isSelectable host =
      (p.counts.contains host && (seen[host]?).isSome && !p.isQuarantined host) := by
  rw [isSelectable, Std.ExtTreeMap.contains_eq_isSome_getElem? (t := (p.rankBy seen f).priorities),
    getElem?_priorities_rankBy, Option.isSome_map]
  rfl

theorem adjust_rankBy (p : Pool) (seen : Table Placement) (f : Placement → Priority)
    (host : HostKey) (delta : Int) : (p.rankBy seen f).adjust host delta =
      ((p.adjust host delta).1.rankBy seen f, (p.adjust host delta).2) := by
  unfold adjust
  simp only [rankBy]
  split
  · rfl
  · split <;> rfl

theorem markFailed_rankBy (p : Pool) (seen : Table Placement) (f : Placement → Priority)
    (host : HostKey) (now : Instant) : (p.rankBy seen f).markFailed host now =
      ((p.markFailed host now).1.rankBy (seen.erase host) f, (p.markFailed host now).2) := by
  have herase : (seen.map fun _ place => f place).erase host =
      (seen.erase host).map fun _ place => f place := by
    refine Std.ExtTreeMap.ext_getElem? fun k => ?_
    simp only [Std.ExtTreeMap.getElem?_erase, Std.ExtTreeMap.getElem?_map]
    split <;> rfl
  simp only [markFailed, rankBy, herase]

/-! ## Snapshots -/

theorem admitHost_rankBy (p : Pool) (seen : Table Placement) (f : Placement → Priority)
    (host : HostKey) : (p.rankBy seen f).admitHost host = (p.admitHost host).rankBy seen f := by
  unfold admitHost
  have hawaits : (p.rankBy seen f).awaitsAdmission host = p.awaitsAdmission host := rfl
  rw [hawaits]
  split <;> rfl

theorem admitAll_rankBy (hosts : List HostKey) (p : Pool) (seen : Table Placement)
    (f : Placement → Priority) :
    (p.rankBy seen f).admitAll hosts = (p.admitAll hosts).rankBy seen f := by
  induction hosts generalizing p with
  | nil => rfl
  | cons host hosts ih => rw [admitAll_cons, admitHost_rankBy, ih, admitAll_cons]

/-- A ranking of members looks at their places. -/
theorem rank_eq_rankBy (p : Pool) (rules : SnapshotRules) (next : Table PoolMember) :
    p.rank rules next = p.rankBy
      ((next.restrict fun host => !p.isQuarantined host).map fun _ m => m.placement)
      (rankOf rules) := by
  rw [rank, rankBy]
  congr 1
  refine Std.ExtTreeMap.ext_getElem? fun k => ?_
  simp [Std.ExtTreeMap.getElem?_map]

/-- The members that a snapshot ranks. -/
def rankedMembers (p : Pool) (s : Snapshot) (rules : SnapshotRules) (now : Instant) :
    Table PoolMember :=
  (p.nextMembers s rules).restrict fun host => !(p.apply s rules now).1.isQuarantined host

/-- A snapshot ranks the members anew, and takes no other notice of the preference. -/
theorem apply_rankBy (p : Pool) (seen : Table Placement) (f : Placement → Priority) (s : Snapshot)
    (rules : SnapshotRules) (preference : Option Preference) (now : Instant) :
    (p.rankBy seen f).apply s (rules.under preference) now =
      ((p.apply s rules now).1.rankBy ((p.rankedMembers s rules now).map fun _ m => m.placement)
        (ranking preference), (p.apply s rules now).2) := by
  have hkept : (p.rankBy seen f).beforeAdmission s (rules.under preference) now =
    (p.beforeAdmission s rules now).rankBy seen f := rfl
  have hranked : p.rankedMembers s rules now = (p.nextMembers s rules).restrict fun host =>
      !((p.beforeAdmission s rules now).admitAll
        (p.nextMembers s rules).keys).isQuarantined host := rfl
  simp only [apply, hkept, admitAll_rankBy, rank_eq_rankBy]
  rw [hranked]
  rfl

/-- Whoever a snapshot ranks stands where a member of it does. -/
theorem exists_member_of_rankedMembers {p : Pool} {s : Snapshot} {rules : SnapshotRules}
    {now : Instant} {host : HostKey} {m : PoolMember}
    (h : (p.rankedMembers s rules now)[host]? = some m) :
    m.placement ∈ s.members.map (·.placement) := by
  rw [rankedMembers, Table.getElem?_restrict] at h
  split at h
  · obtain ⟨member, hmem, -, hplace⟩ := address_of_listing h
    exact List.mem_map.2 ⟨member, hmem, hplace⟩
  · cases h

/-! ## What a pool tells -/

/-- The answer to an event. -/
inductive Answer
  | summary (s : SnapshotSummary)
  | chosen (host : Option (HostKey × HostAddr))
  | count (n : Option Nat)
  | isNew (b : Bool)
  | done
  deriving DecidableEq

def answer (rules : SnapshotRules) (p : Pool) : PoolEvent → Answer
  | .snapshot s now => .summary (p.apply s rules now).2
  | .reserve excluding pick => .chosen (p.reserve excluding pick).2
  | .adjust host delta => .count (p.adjust host delta).2
  | .markFailed host now => .isNew (p.markFailed host now).2
  | .forceRefresh => .done

/-- The answers of a pool to a list of events. -/
def answers (p : Pool) : List (SnapshotRules × PoolEvent) → List Answer
  | [] => []
  | (rules, e) :: events => p.answer rules e :: answers (p.after rules e) events

/-- The places of the members that an event tells of. -/
def placesOf : PoolEvent → List Placement
  | .snapshot s _ => s.members.map (·.placement)
  | _ => []

/-- The places of the members that a list of events tells of. -/
def placesIn (events : List (SnapshotRules × PoolEvent)) : List Placement :=
  events.flatMap fun e => placesOf e.2

/-- Two pools are the same but for the priorities, and these make no difference to whom they may
choose. -/
structure Agrees (p q : Pool) : Prop where
  members : p.members = q.members
  counts : p.counts = q.counts
  stashed : p.stashed = q.stashed
  quarantine : p.quarantine = q.quarantine
  family : p.family = q.family
  lastRefresh : p.lastRefresh = q.lastRefresh
  hasSnapshot : p.hasSnapshot = q.hasSnapshot
  select : ∀ excluding, p.select excluding = q.select excluding
  isSelectable : ∀ host, p.isSelectable host = q.isSelectable host
  hasMorePreferred : ∀ host, p.hasMorePreferred host = q.hasMorePreferred host

/-- Two pools are one pool whose members, at some of the given places, are ranked in two ways. -/
inductive RankedAlike (places : List Placement) (f g : Placement → Priority) : Pool → Pool → Prop
  | intro (base : Pool) (seen : Table Placement)
    (known : ∀ (host : HostKey) (place : Placement), seen[host]? = some place → place ∈ places) :
    RankedAlike places f g (base.rankBy seen f) (base.rankBy seen g)

namespace RankedAlike

variable {places : List Placement} {f g : Placement → Priority} {p q : Pool}

theorem empty (places : List Placement) (f g : Placement → Priority) :
    RankedAlike places f g {} {} := by
  have hnone (f : Placement → Priority) : ({} : Pool) = ({} : Pool).rankBy ∅ f := by
    have hmap : (∅ : Table Placement).map (fun _ place => f place) = ∅ :=
      Std.ExtTreeMap.ext_getElem? fun k => by simp
    rw [rankBy, hmap]
  rw [hnone f]
  conv => rhs; rw [hnone g]
  exact .intro {} ∅ fun host place h => by simp at h

/-- Pools that are ranked alike agree if the rankings have one order. -/
theorem agrees (h : RankedAlike places f g p q) (order : SameOrder places f g) : p.Agrees q := by
  obtain ⟨base, seen, known⟩ := h
  refine ⟨rfl, rfl, rfl, rfl, rfl, rfl, rfl, fun excluding => ?_, fun host => ?_, fun host => ?_⟩
  · have hsub : (base.standings seen excluding).map (·.place) ⊆ places := by
      intro place hplace
      obtain ⟨s, hs, rfl⟩ := List.mem_map.1 hplace
      exact known s.host s.place (place_of_mem_standings hs)
    rw [select_rankBy, select_rankBy, foremost_congr (order.mono hsub)]
  · rw [isSelectable_rankBy, isSelectable_rankBy]
  · rw [hasMorePreferred_rankBy, hasMorePreferred_rankBy]
    cases hplace : seen[host]? with
    | none => rfl
    | some place =>
      simp only
      rw [Bool.eq_iff_iff, List.any_eq_true, List.any_eq_true]
      refine exists_congr fun s => and_congr_right fun hs => ?_
      rw [order.isBefore_eq (known s.host s.place (place_of_mem_standings hs))
        (known host place hplace)]

/-- Where every place has the same rank, nobody is preferred to anybody. -/
theorem hasMorePreferred_eq_false (h : RankedAlike places f g p q)
    (one : ∀ a ∈ places, ∀ b ∈ places, f a = f b) (host : HostKey) :
    p.hasMorePreferred host = false := by
  obtain ⟨base, seen, known⟩ := h
  rw [hasMorePreferred_rankBy]
  cases hplace : seen[host]? with
  | none => rfl
  | some place =>
    refine List.any_eq_false.2 fun s hs => ?_
    have heq := one _ (known s.host s.place (place_of_mem_standings hs)) _
      (known host place hplace)
    have hself : (f place).isBefore (f place) = false :=
      Priority.le_iff.1 (Std.IsPreorder.le_refl _)
    simp [heq, hself]

/-- The pools after a reservation: the hosts that may be chosen are the same. -/
theorem reserve (h : RankedAlike places f g p q) (order : SameOrder places f g)
    (excluding : List HostKey) (pick : Nat) :
    RankedAlike places f g (p.reserve excluding pick).1 (q.reserve excluding pick).1 ∧
      (p.reserve excluding pick).2 = (q.reserve excluding pick).2 := by
  have hselect := (h.agrees order).select excluding
  obtain ⟨base, seen, known⟩ := h
  simp only [Pool.reserve, hselect]
  split
  · exact ⟨.intro base seen known, rfl⟩
  · simp only [adjust_rankBy]
    exact ⟨.intro _ seen known, trivial⟩

variable {preference preference' : Option Preference}

/-- **One event keeps two pools ranked alike and gets one answer from both**, if the preferences
have one order on the places known before and told of now. -/
theorem after (h : RankedAlike places (ranking preference) (ranking preference') p q)
    (order : SameOrder places (ranking preference) (ranking preference')) (rules : SnapshotRules)
    (e : PoolEvent) (told : placesOf e ⊆ places) :
    RankedAlike places (ranking preference) (ranking preference')
        (p.after (rules.under preference) e) (q.after (rules.under preference') e) ∧
      p.answer (rules.under preference) e = q.answer (rules.under preference') e := by
  cases e with
  | reserve excluding pick =>
    obtain ⟨hpools, hchosen⟩ := h.reserve order excluding pick
    exact ⟨hpools, congrArg Answer.chosen hchosen⟩
  | snapshot s now =>
    obtain ⟨base, seen, known⟩ := h
    simp only [Pool.after, answer, apply_rankBy]
    refine ⟨.intro _ _ fun host place hplace => ?_, trivial⟩
    rw [Std.ExtTreeMap.getElem?_map] at hplace
    obtain ⟨m, hm, rfl⟩ := Option.map_eq_some_iff.1 hplace
    exact told (exists_member_of_rankedMembers hm)
  | adjust host delta =>
    obtain ⟨base, seen, known⟩ := h
    simp only [Pool.after, answer, adjust_rankBy]
    exact ⟨.intro _ seen known, trivial⟩
  | markFailed host now =>
    obtain ⟨base, seen, known⟩ := h
    simp only [Pool.after, answer, markFailed_rankBy]
    refine ⟨.intro _ _ fun k place hplace => ?_, trivial⟩
    rw [Std.ExtTreeMap.getElem?_erase] at hplace
    split at hplace
    · cases hplace
    · exact known k place hplace
  | forceRefresh =>
    obtain ⟨base, seen, known⟩ := h
    exact ⟨.intro base.forceRefresh seen known, rfl⟩

/-- Two runs under preferences of one order keep their pools ranked alike and answer alike, by
whatever rules each snapshot is read. -/
theorem foldl_after (order : SameOrder places (ranking preference) (ranking preference'))
    (events : List (SnapshotRules × PoolEvent)) (told : ∀ e ∈ events, placesOf e.2 ⊆ places)
    {r r' : RuledPool}
    (h : RankedAlike places (ranking preference) (ranking preference') r.pool r'.pool) :
    RankedAlike places (ranking preference) (ranking preference')
        ((readUnder preference events).foldl RuledPool.after r).pool
        ((readUnder preference' events).foldl RuledPool.after r').pool ∧
      answers r.pool (readUnder preference events) =
        answers r'.pool (readUnder preference' events) := by
  induction events generalizing r r' with
  | nil => exact ⟨h, rfl⟩
  | cons e events ih =>
    obtain ⟨rules, e⟩ := e
    obtain ⟨hnext, hanswer⟩ := h.after order rules e (told _ List.mem_cons_self)
    have hpools : RankedAlike places (ranking preference) (ranking preference')
      (r.after (rules.under preference, e)).pool (r'.after (rules.under preference', e)).pool := hnext
    obtain ⟨hrest, hanswers⟩ := ih (fun e he => told e (List.mem_cons_of_mem _ he)) hpools
    exact ⟨hrest, congrArg₂ List.cons hanswer hanswers⟩

end RankedAlike

/-! ## Whole runs -/

section Runs

variable (preference preference' : Option Preference) (events : List (SnapshotRules × PoolEvent))

/-- The pool of the events that are read under a preference. -/
def runUnder : Pool := (RuledPool.run (readUnder preference events)).pool

/-- The balancer of a preference with the pool of its run. -/
def runBalancer (settings : BalancerSettings) : Balancer where
  preference := preference
  settings := settings
  pool := runUnder preference events

/-- The runs of the same events under two preferences agree at every moment and give the same
answers. -/
structure RunsAlike : Prop where
  agrees : ∀ past, past <+: events → (runUnder preference past).Agrees (runUnder preference' past)
  answers : answers {} (readUnder preference events) = answers {} (readUnder preference' events)
  /-- A balancer without a preference does not even ask its pool. -/
  hasMorePreferred : ∀ past, past <+: events → ∀ (settings : BalancerSettings) (host : HostKey),
    (runBalancer preference past settings).hasMorePreferred host =
      (runBalancer preference' past settings).hasMorePreferred host

/-- All places that the events tell of have one rank. -/
def OneTier : Prop :=
  ∀ a ∈ placesIn events, ∀ b ∈ placesIn events, ranking preference a = ranking preference b

theorem oneTier_none : OneTier none events := fun _ _ _ _ => rfl

variable {preference preference' events}

theorem rankedAlike_runUnder
    (order : SameOrder (placesIn events) (ranking preference) (ranking preference'))
    {past : List (SnapshotRules × PoolEvent)} (hpast : past <+: events) :
    RankedAlike (placesIn events) (ranking preference) (ranking preference')
        (runUnder preference past) (runUnder preference' past) ∧
      answers {} (readUnder preference past) = answers {} (readUnder preference' past) :=
  RankedAlike.foldl_after order past
    (fun e he _ hplace => List.mem_flatMap.2 ⟨e, hpast.subset he, hplace⟩) (.empty _ _ _)

/-- In one tier nobody is preferred to anybody. -/
theorem hasMorePreferred_runUnder_of_oneTier (one : OneTier preference events)
    {past : List (SnapshotRules × PoolEvent)} (hpast : past <+: events) (host : HostKey) :
    (runUnder preference past).hasMorePreferred host = false :=
  (rankedAlike_runUnder (.of_one_rank one one) hpast).1.hasMorePreferred_eq_false one host

/-- A balancer without a preference need not ask its pool. -/
theorem hasMorePreferred_runBalancer (preference : Option Preference)
    (past : List (SnapshotRules × PoolEvent)) (settings : BalancerSettings) (host : HostKey) :
    (runBalancer preference past settings).hasMorePreferred host =
      (runUnder preference past).hasMorePreferred host := by
  cases preference with
  | none =>
    rw [hasMorePreferred_runUnder_of_oneTier (oneTier_none past) (List.prefix_refl past)]
    rfl
  | some preference => exact Bool.true_and _

theorem runsAlike_of_sameOrder
    (order : SameOrder (placesIn events) (ranking preference) (ranking preference')) :
    RunsAlike preference preference' events where
  agrees past hpast := (rankedAlike_runUnder order hpast).1.agrees order
  answers := (rankedAlike_runUnder order (List.prefix_refl events)).2
  hasMorePreferred past hpast settings host := by
    rw [hasMorePreferred_runBalancer, hasMorePreferred_runBalancer]
    exact ((rankedAlike_runUnder order hpast).1.agrees order).hasMorePreferred host

end Runs

/-- **Only the order of the priorities matters.** Under two preferences that put the places of a run
in the same order, the pools agree at every moment and answer every event alike, whatever the
priorities are and by whatever default port and time to live each snapshot is read. A preference
that puts the places all in one tier is thus as good as none, and under it no host is preferred to
another. -/
theorem runs_alike (preference preference' : Option Preference)
    (events : List (SnapshotRules × PoolEvent)) :
    (SameOrder (placesIn events) (ranking preference) (ranking preference') →
      RunsAlike preference preference' events) ∧
    (OneTier preference events → RunsAlike preference none events ∧
      ∀ past, past <+: events → ∀ (settings : BalancerSettings) (host : HostKey),
        (runBalancer preference past settings).hasMorePreferred host = false) := by
  refine ⟨runsAlike_of_sameOrder, fun one => ⟨runsAlike_of_sameOrder ?_, ?_⟩⟩
  · exact .of_one_rank one (oneTier_none events)
  · intro past hpast settings host
    rw [hasMorePreferred_runBalancer]
    exact hasMorePreferred_runUnder_of_oneTier one hpast host

/-- Hosts in two zones, of which the preferred one fails between two reservations. The second
snapshot is read with another port and a time to live that has run out. -/
def twoZones : List (SnapshotRules × PoolEvent) :=
  let member (host zone : String) : Member := { Member.ofHost host with placement := ⟨"c", "r", zone⟩ }
  let told : Snapshot := ⟨[member "a" "far", member "b" "near"], "a"⟩
  [({}, .snapshot told 0), ({}, .reserve [] 0), ({}, .markFailed "b" 1), ({}, .reserve [] 0),
    ({ defaultPort := 6000, failedHostTtl := 3 }, .snapshot told 9), ({}, .reserve [] 0)]

/-- Ranks 1 and 5 order the zones as rank 7 and no rank do, and a rank for the whole region does not
tell them apart. -/
theorem runs_alike_twoZones :
    let near : Placement := ⟨"c", "r", "near"⟩
    let both : Preference := .ofEntries "" [⟨near, 1⟩, ⟨⟨"c", "r", "far"⟩, 5⟩]
    let nearOnly : Preference := .ofEntries "" [⟨near, 7⟩]
    let region : Preference := .ofEntries "" [⟨⟨"c", "r", "*"⟩, 3⟩]
    RunsAlike (some both) (some nearOnly) twoZones ∧ RunsAlike (some region) none twoZones ∧
      ∀ place ∈ placesIn twoZones, both.priorityOf place ≠ nearOnly.priorityOf place := by
  refine ⟨(runs_alike _ _ _).1 ?_, ((runs_alike _ none _).2 ?_).1, by decide +kernel⟩
  · unfold SameOrder
    decide +kernel
  · unfold OneTier
    decide +kernel

end Pool

end ConnectionRouter
