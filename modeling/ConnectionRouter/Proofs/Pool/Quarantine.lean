import ConnectionRouter.Proofs.Pool.Validity
import Mathlib.Data.List.Induction

/-!
# The stay of a host in quarantine

A failure puts a host in quarantine unless it is there already; the first snapshot after the time
to live lets it out. Between the two nothing moves the entry of the host: a further failure finds
it and leaves its time alone, and no other event touches the quarantine.

* `PoolHistory`: a pool, with the failures that were news and the hosts that snapshots let out.
* `Pool.ShutsOut`: a host has no count and no priority, and nothing chooses it.
* `Pool.news_add_quarantined`: what one event adds to the failures, it adds to the releases and
  the quarantine together.
* `PoolHistory.run_quarantine`: failures less releases is one for a host in quarantine and zero
  for any other; a host that failed is shut out until the first snapshot after the time to live,
  is let out by that one, and comes back without connections.
-/

namespace ConnectionRouter

/-- The rules with another time to live. -/
def SnapshotRules.withTtl (rules : SnapshotRules) (ttl : Duration) : SnapshotRules :=
  { rules with failedHostTtl := ttl }

/-! ## One quarantine -/

namespace Quarantine

theorem nodup_release (q : Quarantine) (ttl : Duration) (now : Instant) :
    (q.release ttl now).2.Nodup :=
  Std.ExtTreeMap.nodup_keys

/-- A host is let out once if its stay is over, and not at all otherwise. -/
theorem count_release (q : Quarantine) (ttl : Duration) (now : Instant) (k : String) :
    (q.release ttl now).2.count k = if (q.since[k]?).any (expired ttl now) then 1 else 0 := by
  rw [(q.nodup_release ttl now).count]
  congr 1
  rw [mem_release]
  cases q.since[k]? <;> simp

theorem contains_release (q : Quarantine) (ttl : Duration) (now : Instant) (k : String) :
    (q.release ttl now).1.contains k = (q.since[k]?).any fun at_ => !expired ttl now at_ := by
  rw [contains_eq, getElem?_since_release]
  cases hk : q.since[k]? with
  | none => rfl
  | some at_ => cases he : expired ttl now at_ <;> simp [Option.filter, he]

/-- Who is in is let out or stays in. -/
theorem count_release_add_contains (q : Quarantine) (ttl : Duration) (now : Instant) (k : String) :
    (q.release ttl now).2.count k + ((q.release ttl now).1.contains k).toNat =
      (q.contains k).toNat := by
  rw [count_release, contains_release, contains_eq]
  cases q.since[k]? with
  | none => rfl
  | some at_ => cases he : expired ttl now at_ <;> simp [he]

end Quarantine

namespace Pool

/-! ## One event -/

/-- The failures of an event that the quarantine did not know of. -/
def news (p : Pool) : PoolEvent → List HostKey
  | .markFailed host now => if (p.markFailed host now).2 then [host] else []
  | _ => []

/-- The hosts that an event lets out of quarantine. -/
def letOut (rules : SnapshotRules) (p : Pool) : PoolEvent → List HostKey
  | .snapshot s now => (p.apply s rules now).2.released
  | _ => []

/-- An event that leaves a stay from `start` on alone: not a snapshot after the time to live. -/
def NotAfterStay (ttl : Duration) (start : Instant) : PoolEvent → Prop
  | .snapshot _ now => now - start ≤ ttl
  | _ => True

theorem markFailed_isNews (p : Pool) (host : HostKey) (now : Instant) :
    (p.markFailed host now).2 = !p.isQuarantined host :=
  Quarantine.insert_isNew ..

@[simp] theorem quarantine_reserve (p : Pool) (excluding : List HostKey) (pick : Nat) :
    (p.reserve excluding pick).1.quarantine = p.quarantine := by
  rcases p.reserve_cases excluding pick with he | ⟨host, addr, -, he⟩
  · rw [he]
  · rw [he]
    exact quarantine_adjust p host 1

@[simp] theorem getElem?_since_markFailed (p : Pool) (host k : HostKey) (now : Instant) :
    (p.markFailed host now).1.quarantine.since[k]? =
      if host = k then some ((p.quarantine.since[host]?).getD now) else p.quarantine.since[k]? :=
  Quarantine.getElem?_since_insert ..

theorem isQuarantined_of_since {p : Pool} {k : HostKey} {start : Instant}
    (h : p.quarantine.since[k]? = some start) : p.isQuarantined k = true := by
  rw [isQuarantined, Quarantine.contains_eq, h]
  rfl

/-- **What an event adds to the failures, it adds to the releases and the quarantine together.** -/
theorem news_add_quarantined (rules : SnapshotRules) (p : Pool) (e : PoolEvent) (k : HostKey) :
    (p.news e).count k + (p.isQuarantined k).toNat =
      (p.letOut rules e).count k + ((p.after rules e).isQuarantined k).toNat := by
  cases e with
  | snapshot s now =>
    have hq := p.quarantine.count_release_add_contains rules.failedHostTtl now k
    simp only [news, letOut, after, isQuarantined, quarantine_apply, List.count_nil, Nat.zero_add]
    exact hq.symm
  | reserve excluding pick => simp [news, letOut, after, isQuarantined]
  | adjust host delta => simp [news, letOut, after, isQuarantined]
  | markFailed host now =>
    simp only [news, letOut, after, isQuarantined_markFailed, markFailed_isNews, List.count_nil,
      Nat.zero_add]
    by_cases hk : host = k
    · subst hk
      cases p.isQuarantined host <;> simp
    · have hne : (host == k) = false := beq_false_of_ne hk
      cases p.isQuarantined host <;> simp [hk, hne]
  | forceRefresh => simp [news, letOut, after, isQuarantined, forceRefresh]

/-- The entry of a host outlives every event but a snapshot after its stay. -/
theorem since_after {rules : SnapshotRules} {p : Pool} {k : HostKey} {start : Instant}
    {e : PoolEvent} (hs : p.quarantine.since[k]? = some start)
    (he : NotAfterStay rules.failedHostTtl start e) :
    (p.after rules e).quarantine.since[k]? = some start := by
  cases e with
  | snapshot s now =>
    have hlive : Quarantine.expired rules.failedHostTtl now start = false :=
      decide_eq_false (Nat.not_lt.mpr he)
    rw [after, quarantine_apply, Quarantine.getElem?_since_release, hs]
    simp [Option.filter, hlive]
  | reserve excluding pick => simpa [after] using hs
  | adjust host delta => simpa [after] using hs
  | markFailed host now =>
    rw [after, getElem?_since_markFailed]
    by_cases hk : host = k
    · subst hk
      simp [hs]
    · simpa [hk] using hs
  | forceRefresh => exact hs

/-- No event lets a host out while its stay lasts. -/
theorem count_letOut_of_since {rules : SnapshotRules} {p : Pool} {k : HostKey} {start : Instant}
    {e : PoolEvent} (hs : p.quarantine.since[k]? = some start)
    (he : NotAfterStay rules.failedHostTtl start e) : (p.letOut rules e).count k = 0 := by
  cases e with
  | snapshot s now =>
    have hlive : Quarantine.expired rules.failedHostTtl now start = false :=
      decide_eq_false (Nat.not_lt.mpr he)
    change (p.quarantine.release rules.failedHostTtl now).2.count k = 0
    rw [Quarantine.count_release, hs]
    simp [hlive]
  | _ => rfl

/-! ## A host that is shut out -/

/-- A host has no count and no priority, and nothing chooses it. -/
structure ShutsOut (p : Pool) (host : HostKey) : Prop where
  count : p.count? host = none
  priority : p.priority? host = none
  notSelectable : p.isSelectable host = false
  notSelected : ∀ excluding addr, (host, addr) ∉ p.select excluding
  notReserved : ∀ excluding pick addr, (p.reserve excluding pick).2 ≠ some (host, addr)

theorem Valid.shutsOut {defaultPort : UInt16} {p : Pool} (h : p.Valid defaultPort)
    {host : HostKey} (hq : p.isQuarantined host = true) : p.ShutsOut host := by
  have hcount : host ∉ p.counts := fun hc => by simpa [hq] using ((h.mem_counts_iff host).mp hc).2
  have hpriority : host ∉ p.priorities := fun hp => by
    simpa [hq] using ((h.mem_priorities_iff host).mp hp).2
  have hselectable : p.isSelectable host = false := by simp [isSelectable, hq]
  have hselect : ∀ excluding addr, (host, addr) ∉ p.select excluding := by
    intro excluding addr hm
    have ht := (of_mem_select hm).2.1
    rw [hselectable] at ht
    cases ht
  refine ⟨Std.ExtTreeMap.getElem?_eq_none hcount, Std.ExtTreeMap.getElem?_eq_none hpriority,
    hselectable, hselect, fun excluding pick addr hr => ?_⟩
  rcases p.reserve_cases excluding pick with he | ⟨host', addr', hm, he⟩
  · rw [he] at hr
    cases hr
  · rw [he] at hr
    cases hr
    exact hselect excluding addr hm

/-- Neither a count nor a stashed count of a host is left. -/
def Forgets (p : Pool) (host : HostKey) : Prop := p.counts[host]? = none ∧ p.stashed[host]? = none

/-- A quarantined host of a valid pool is forgotten. -/
theorem Valid.forgets {defaultPort : UInt16} {p : Pool} (h : p.Valid defaultPort) {host : HostKey}
    (hq : p.isQuarantined host = true) : p.Forgets host := by
  refine ⟨(h.shutsOut hq).count, Std.ExtTreeMap.getElem?_eq_none fun hs => ?_⟩
  rw [h.not_quarantined_of_stashed host hs] at hq
  cases hq

theorem forgets_adjust {p : Pool} {k : HostKey} (h : p.Forgets k) (host : HostKey) (delta : Int) :
    (p.adjust host delta).1.Forgets k := by
  constructor
  · rw [getElem?_counts_adjust, h.1]
    simp
  · rw [getElem?_stashed_adjust, h.2]
    simp

/-- A forgotten host stays forgotten, or a snapshot takes it in without connections. -/
theorem forgets_after {p : Pool} {k : HostKey} (h : p.Forgets k) (rules : SnapshotRules)
    (e : PoolEvent) :
    (p.after rules e).Forgets k ∨ (p.after rules e).counts[k]? = some 0 := by
  cases e with
  | snapshot s now =>
    rw [after]
    by_cases hm : k ∈ p.nextMembers s rules
    · have hc := getElem?_counts_apply_of_mem p s rules now k hm
      have hs := getElem?_stashed_apply_of_mem p s rules now k hm
      rw [h.1, h.2] at hc
      rw [h.2] at hs
      cases hq : (p.apply s rules now).1.isQuarantined k with
      | true => exact .inl ⟨by simpa [hq] using hc, by simpa using hs⟩
      | false => exact .inr (by simpa [hq] using hc)
    · refine .inl ⟨getElem?_counts_apply_of_not_mem p s rules now k hm, ?_⟩
      rw [getElem?_stashed_apply_of_not_mem p s rules now k hm, h.1, h.2]
      rfl
  | reserve excluding pick =>
    rcases p.reserve_cases excluding pick with he | ⟨host, addr, -, he⟩
    · exact .inl (by rwa [after, he])
    · exact .inl (by rw [after, he]; exact forgets_adjust h host 1)
  | adjust host delta => exact .inl (forgets_adjust h host delta)
  | markFailed host now =>
    refine .inl ⟨?_, ?_⟩
    · rw [after, getElem?_counts_markFailed, h.1]
      simp
    · rw [after, getElem?_stashed_markFailed, h.2]
      simp
  | forceRefresh => exact .inl h

/-- The snapshot that ends a stay takes the host in exactly if it lists the host. -/
theorem Valid.mem_counts_apply_of_released {defaultPort : UInt16} {p : Pool}
    (h : p.Valid defaultPort) {s : Snapshot} {rules : SnapshotRules} {now : Instant} {k : HostKey}
    (hk : k ∈ (p.apply s rules now).2.released) :
    k ∈ (p.apply s rules now).1.counts ↔ k ∈ p.nextMembers s rules := by
  rw [(h.apply s rules now).mem_counts_iff k, members_apply, and_iff_left_iff_imp]
  intro _
  obtain ⟨at_, hs, he⟩ := Quarantine.mem_release.mp hk
  rw [isQuarantined, quarantine_apply, Quarantine.contains_release, hs]
  simp [he]

end Pool

/-! ## Whole runs -/

/-- A pool, with what happened to its quarantine. -/
structure PoolHistory where
  pool : Pool := {}
  /-- The hosts that failed while outside quarantine, once for each such failure. -/
  failed : List HostKey := []
  /-- The hosts that snapshots let out, once for each time. -/
  released : List HostKey := []

namespace PoolHistory

/-- The history after one more event. The rules of snapshots may change from event to event, save
for the time to live. -/
def after (ttl : Duration) (h : PoolHistory) (e : SnapshotRules × PoolEvent) : PoolHistory where
  pool := h.pool.after (e.1.withTtl ttl) e.2
  failed := h.pool.news e.2 ++ h.failed
  released := h.pool.letOut (e.1.withTtl ttl) e.2 ++ h.released

/-- The history after a list of events. -/
def runFrom (ttl : Duration) (h : PoolHistory) (events : List (SnapshotRules × PoolEvent)) :
    PoolHistory :=
  events.foldl (after ttl) h

/-- The history of an empty pool. -/
def run (ttl : Duration) (events : List (SnapshotRules × PoolEvent)) : PoolHistory :=
  runFrom ttl {} events

variable {ttl : Duration}

theorem runFrom_concat (h : PoolHistory) (events : List (SnapshotRules × PoolEvent))
    (e : SnapshotRules × PoolEvent) :
    runFrom ttl h (events ++ [e]) = (runFrom ttl h events).after ttl e := by
  rw [runFrom, List.foldl_append]
  rfl

/-- A pool stays valid, be it for the port of the latest rules. -/
theorem valid_runFrom (events : List (SnapshotRules × PoolEvent)) :
    ∀ {h : PoolHistory}, (∃ port, h.pool.Valid port) →
      ∃ port, (runFrom ttl h events).pool.Valid port := by
  induction events with
  | nil => exact fun h => h
  | cons e events ih =>
    rintro h ⟨port, hv⟩
    refine ih ?_
    obtain ⟨rules, e⟩ := e
    cases e with
    | snapshot s now => exact ⟨_, hv.apply s _ now⟩
    | reserve excluding pick => exact ⟨port, hv.reserve excluding pick⟩
    | adjust host delta => exact ⟨port, hv.adjust host delta⟩
    | markFailed host now => exact ⟨port, hv.markFailed host now⟩
    | forceRefresh => exact ⟨port, hv.forceRefresh⟩

/-- Failures less releases is one for a host in quarantine, and zero for any other. -/
theorem count_failed_run (events : List (SnapshotRules × PoolEvent)) (k : HostKey) :
    (run ttl events).failed.count k =
      (run ttl events).released.count k + ((run ttl events).pool.isQuarantined k).toNat := by
  induction events using List.reverseRecOn with
  | nil => simp [run, runFrom, Pool.isQuarantined, Quarantine.contains]
  | append_singleton events e ih =>
    have hstep := Pool.news_add_quarantined (e.1.withTtl ttl)
      (run ttl events).pool e.2 k
    rw [run, runFrom_concat]
    simp only [after, List.count_append]
    change (run ttl events).failed.count k = _ at ih
    rw [run] at ih hstep
    omega

/-- The stay of a host lasts through every event but a snapshot after the time to live. -/
theorem since_runFrom {start : Instant} {host : HostKey}
    (stay : List (SnapshotRules × PoolEvent)) :
    ∀ {h : PoolHistory}, h.pool.quarantine.since[host]? = some start →
      (∀ e ∈ stay, Pool.NotAfterStay ttl start e.2) →
        (runFrom ttl h stay).pool.quarantine.since[host]? = some start ∧
          (runFrom ttl h stay).released.count host = h.released.count host := by
  induction stay with
  | nil => exact fun hs _ => ⟨hs, rfl⟩
  | cons e stay ih =>
    intro h hs hstay
    have he : Pool.NotAfterStay ttl start e.2 := hstay e List.mem_cons_self
    have hnext : (h.after ttl e).pool.quarantine.since[host]? = some start :=
      Pool.since_after hs he
    have hsame : (h.after ttl e).released.count host = h.released.count host := by
      have hout : (h.pool.letOut (e.1.withTtl ttl) e.2).count host = 0 :=
        Pool.count_letOut_of_since hs he
      rw [after, List.count_append, hout, Nat.zero_add]
    obtain ⟨hlast, hcount⟩ := ih hnext fun e he => hstay e (List.mem_cons_of_mem _ he)
    exact ⟨hlast, hcount.trans hsame⟩

/-- A host that is forgotten and tracked at no moment is still forgotten. -/
theorem forgets_runFrom {h : PoolHistory} {host : HostKey} (hf : h.pool.Forgets host)
    (events : List (SnapshotRules × PoolEvent)) :
    (∀ past, past <+: events → host ∉ (runFrom ttl h past).pool.counts) →
      (runFrom ttl h events).pool.Forgets host := by
  induction events using List.reverseRecOn with
  | nil => exact fun _ => hf
  | append_singleton events e ih =>
    intro hout
    have hlast := ih fun past hp => hout past (hp.trans (List.prefix_append events [e]))
    rw [runFrom_concat]
    rcases Pool.forgets_after hlast (e.1.withTtl ttl) e.2 with hf' | hc
    · exact hf'
    · -- the last event would track the host
      refine absurd ?_ (hout _ (List.prefix_refl _))
      rw [runFrom_concat, Std.ExtTreeMap.mem_iff_isSome_getElem?]
      exact Option.isSome_of_eq_some hc

/-- What holds of a host from a failure at `start` on, until a snapshot comes after its stay. -/
structure Stays (ttl : Duration) (start : Instant) (host : HostKey) (before now : PoolHistory) :
    Prop where
  shutsOut : now.pool.ShutsOut host
  /-- A further failure is no news. -/
  notNews : ∀ at_, (now.pool.markFailed host at_).2 = false
  unreleased : now.released.count host = before.released.count host
  /-- The snapshot that ends the stay lets the host out once, and takes it in if it lists it. -/
  ends : ∀ (s : Snapshot) (rules : SnapshotRules) (at_ : Instant), ttl < at_ - start →
    let next := now.pool.apply s (rules.withTtl ttl) at_
    next.2.released.count host = 1 ∧
      (host ∈ next.1.counts ↔ host ∈ now.pool.nextMembers s rules)
  /-- The event by which the host is tracked again leaves it without connections. -/
  fromZero : ∀ (later : List (SnapshotRules × PoolEvent)) (e : SnapshotRules × PoolEvent),
    (∀ past, past <+: later → host ∉ (runFrom ttl now past).pool.counts) →
      ∀ n, (runFrom ttl now (later ++ [e])).pool.counts[host]? = some n → n = 0

theorem Stays.of_since {start : Instant} {host : HostKey} {before now : PoolHistory}
    (hv : ∃ port, now.pool.Valid port)
    (hs : now.pool.quarantine.since[host]? = some start)
    (hr : now.released.count host = before.released.count host) :
    Stays ttl start host before now := by
  obtain ⟨port, hv⟩ := hv
  have hq := Pool.isQuarantined_of_since hs
  refine ⟨hv.shutsOut hq, fun at_ => ?_, hr, fun s rules at_ hlate => ?_,
    fun later e hout n hn => ?_⟩
  · rw [Pool.markFailed_isNews, hq]
    rfl
  · have hover : Quarantine.expired ttl at_ start = true := by
      simpa [Quarantine.expired] using hlate
    have hone : (now.pool.quarantine.release ttl at_).2.count host = 1 := by
      rw [Quarantine.count_release, hs]
      simp [hover]
    refine ⟨hone, hv.mem_counts_apply_of_released ?_⟩
    exact Quarantine.mem_release.mpr ⟨start, hs, hover⟩
  · have hf := forgets_runFrom (hv.forgets hq) later hout
    rw [runFrom_concat] at hn
    rcases Pool.forgets_after hf (e.1.withTtl ttl) e.2 with hnone | hzero
    · have hnever := hn.symm.trans hnone.1
      cases hnever
    · exact Option.some.inj (hn.symm.trans hzero)

/-- **Failures less releases is one for a host in quarantine, and zero for any other.** A failure
that is news shuts the host out through every event until the first snapshot after the time to
live; that snapshot lets the host out. -/
theorem run_quarantine (ttl : Duration) (events : List (SnapshotRules × PoolEvent))
    (host : HostKey) :
    (run ttl events).failed.count host =
        (run ttl events).released.count host +
          ((run ttl events).pool.isQuarantined host).toNat ∧
      ∀ start, ((run ttl events).pool.markFailed host start).2 = true →
        ∀ (rules : SnapshotRules) (stay : List (SnapshotRules × PoolEvent)),
          (∀ e ∈ stay, Pool.NotAfterStay ttl start e.2) →
            Stays ttl start host (run ttl events)
              (run ttl (events ++ (rules, .markFailed host start) :: stay)) := by
  refine ⟨count_failed_run events host, fun start hnew rules stay hstay => ?_⟩
  have hout : (run ttl events).pool.quarantine.since[host]? = none := by
    rw [Pool.markFailed_isNews, Pool.isQuarantined, Quarantine.contains_eq,
      Bool.not_eq_eq_eq_not, Bool.not_true] at hnew
    exact Option.isNone_iff_eq_none.mp (Option.isSome_eq_false_iff.mp hnew)
  have hentry : ((run ttl events).after ttl (rules, .markFailed host start)).pool.quarantine.since[
      host]? = some start := by
    simp only [after, Pool.after, Pool.getElem?_since_markFailed, if_true, hout, Option.getD_none]
  have hrun : run ttl (events ++ (rules, .markFailed host start) :: stay) =
      runFrom ttl ((run ttl events).after ttl (rules, .markFailed host start)) stay := by
    rw [run, runFrom, List.foldl_append]
    rfl
  obtain ⟨hs, hr⟩ := since_runFrom stay hentry hstay
  rw [← hrun] at hs hr
  exact .of_since (valid_runFrom _ ⟨standardPort, Pool.Valid.empty⟩) hs hr

/-- A snapshot of two hosts. -/
def listed : List (SnapshotRules × PoolEvent) :=
  [({}, .snapshot ⟨[.ofHost "a", .ofHost "b"], "a"⟩ 0)]

/-- A second failure and a snapshot at the last moment of a stay that began at 1 and lasts 5. -/
def failedAgain : List (SnapshotRules × PoolEvent) :=
  [({}, .markFailed "a" 3), ({}, .reserve [] 0),
    ({}, .snapshot ⟨[.ofHost "a", .ofHost "b"], "b"⟩ 6)]

/-- The second failure does not put off the end of the stay: the snapshot at 7 takes the host in. -/
theorem run_quarantine_failedAgain :
    let now := run 5 (listed ++ ({}, .markFailed "a" 1) :: failedAgain)
    let next := now.pool.apply ⟨[.ofHost "a"], "a"⟩ (SnapshotRules.withTtl {} 5) 7
    ((run 5 listed).pool.markFailed "a" 1).2 = true ∧ now.pool.isSelectable "a" = false ∧
      now.released.count "a" = 0 ∧ next.2.released.count "a" = 1 ∧ "a" ∈ next.1.counts := by
  intro now next
  have hnew : ((run 5 listed).pool.markFailed "a" 1).2 = true := by decide +kernel
  have hstay : ∀ e ∈ failedAgain, Pool.NotAfterStay 5 1 e.2 := by
    simp [failedAgain, Pool.NotAfterStay]
  have h : Stays 5 1 "a" (run 5 listed) now :=
    (run_quarantine 5 listed "a").2 1 hnew {} failedAgain hstay
  have hlisted : "a" ∈ now.pool.nextMembers ⟨[.ofHost "a"], "a"⟩ {} := by decide +kernel
  have hends := h.ends ⟨[.ofHost "a"], "a"⟩ {} 7 (by decide)
  exact ⟨hnew, h.shutsOut.notSelectable, h.unreleased, hends.1, hends.2.mpr hlisted⟩

end PoolHistory

end ConnectionRouter
