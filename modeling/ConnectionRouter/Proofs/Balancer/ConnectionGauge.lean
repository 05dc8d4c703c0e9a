import ConnectionRouter.Metrics.Exposition
import ConnectionRouter.Proofs.Balancer.CrowdLedger
import ConnectionRouter.Proofs.Balancer.RefreshProtocol
import ConnectionRouter.Proofs.Balancer.Validity

/-!
# The gauge of connections

The ledger keeps the count that each host was told to have last. A count is told when it is adjusted
while its host is tracked. It is lowered without being told when its host fails, and when
connections are given back to a host that is away, whose count is stashed (`Balancer.Mutes`); no
snapshot changes it. So what was told is never too small, and it is out of date from such a moment
on, until the count is told again (`MeteredCrowd.Outdated`, `MeteredCrowd.run_gauge`).
-/

namespace ConnectionRouter

/-! ## The gauge -/

namespace Double

/-- Counts up to 2^53 are held as they are. -/
theorem value_ofNat {n : Nat} (h : n ≤ 1 <<< precision) : (ofNat n).value = n := by
  rcases Nat.lt_or_eq_of_le h with hlt | rfl
  · have hbits : (if n = 0 then 0 else n.log2 + 1) - precision = 0 := by
      split
      · rfl
      · rename_i hne
        have hlog : n.log2 < precision := by
          rwa [Nat.log2_lt hne, ← Nat.one_shiftLeft]
        omega
    simp [ofNat, hbits, Nat.mod_one, Nat.ne_of_lt hlt, value]
  · decide

end Double

namespace Ledger

/-- The value of the gauge of a host, once it was told a count. -/
def gauge? (l : Ledger) (host : HostKey) : Option Nat :=
  (l.hostConnections[host]?).map fun n => (Double.ofNat n).value

theorem hostConnections_note_told (l : Ledger) (host : HostKey) (n : Nat) :
    (l.note (some (.hostConnections host n))).hostConnections[host]? = some n := by
  simp [note, record]

theorem hostConnections_note_of_ne (l : Ledger) {metric : Option Metric} {host : HostKey}
    (h : ∀ n, metric ≠ some (.hostConnections host n)) :
    (l.note metric).hostConnections[host]? = l.hostConnections[host]? := by
  cases metric with
  | none => rfl
  | some m =>
    cases m with
    | hostConnections other n =>
      have hne : other ≠ host := fun he => h n (by rw [he])
      simp [note, record, Std.ExtTreeMap.getElem?_insert, hne]
    | _ => rfl

end Ledger

/-! ## Touches -/

namespace Balancer

/-- A touch lowers the count of a host and does not tell: the host fails, or it is away and
connections to it are given back. -/
def Mutes (b : Balancer) (t : Touch) (host : HostKey) : Prop :=
  t = .markFailed host ∨
    ∃ delta, b.adjusts? t = some (host, delta) ∧ delta < 0 ∧ host ∈ b.pool.stashed

/-- A touch tells the count of a host. -/
def Tells (b : Balancer) (now : Instant) (t : Touch) (host : HostKey) : Prop :=
  ∃ n, b.touchMetric now t = some (.hostConnections host n)

/-- What a touch does to the count of a host and to what is told of it. -/
inductive Recounts (b : Balancer) (now : Instant) (t : Touch) (host : HostKey) : Prop
  /-- The new count is told. -/
  | told {n : Nat} (hmetric : b.touchMetric now t = some (.hostConnections host n))
      (hcount : (b.touch now t).pool.countOf host = n) (hmutes : ¬b.Mutes t host)
  | muted (hmutes : b.Mutes t host) (htells : ¬b.Tells now t host)
      (hcount : (b.touch now t).pool.countOf host = 0 ∨
        (b.touch now t).pool.countOf host < b.pool.countOf host)
  | kept (hmutes : ¬b.Mutes t host) (htells : ¬b.Tells now t host)
      (hcount : (b.touch now t).pool.countOf host = b.pool.countOf host)

section Adjusted

variable {b : Balancer} {now : Instant} {t : Touch} {host : HostKey} {delta : Int}

theorem mutes_iff_of_adjusts (h : b.adjusts? t = some (host, delta)) (k : HostKey) :
    b.Mutes t k ↔ host = k ∧ delta < 0 ∧ k ∈ b.pool.stashed := by
  constructor
  · rintro (rfl | ⟨delta', h', hneg, hstashed⟩)
    · cases h
    · cases h.symm.trans h'
      exact ⟨rfl, hneg, hstashed⟩
  · rintro ⟨rfl, hneg, hstashed⟩
    exact .inr ⟨delta, h, hneg, hstashed⟩

theorem tells_iff_of_adjusts
    (h : b.touchMetric now t = ((b.pool.adjust host delta).2).map (.hostConnections host))
    (k : HostKey) : b.Tells now t k ↔ host = k ∧ (b.pool.adjust host delta).2.isSome := by
  rw [Tells, h]
  cases (b.pool.adjust host delta).2 <;> simp

end Adjusted

namespace Valid

variable {b : Balancer}

/-- An adjusted count is told, unless the host is away. -/
theorem recounts_adjusted (h : b.Valid) {now : Instant} {t : Touch} {host : HostKey} {delta : Int}
    (hadjusts : b.adjusts? t = some (host, delta))
    (hpool : (b.touch now t).pool = (b.pool.adjust host delta).1)
    (hmetric : b.touchMetric now t = ((b.pool.adjust host delta).2).map (.hostConnections host))
    (k : HostKey) : b.Recounts now t k := by
  have hmutes := mutes_iff_of_adjusts hadjusts k
  have htells := tells_iff_of_adjusts hmetric k
  by_cases hk : host = k
  · subst hk
    by_cases haway : delta < 0 ∧ host ∈ b.pool.stashed
    · have hsnd := b.pool.adjust_snd_of_away haway.1 haway.2
      refine .muted (hmutes.mpr ⟨rfl, haway⟩) (by simp [htells, hsnd]) ?_
      rw [hpool, Pool.Valid.countOf_adjust_of_neg h host host haway.1, if_pos rfl]
      omega
    · have hquiet : ¬b.Mutes t host := fun h => haway (hmutes.mp h).2
      cases hsnd : (b.pool.adjust host delta).2 with
      | some n =>
        have hcount := (b.pool.adjust_snd_of_present haway).symm.trans hsnd
        refine .told (n := n) ?_ ?_ hquiet
        · rw [hmetric, hsnd]
          rfl
        · rw [hpool, Pool.countOf, hcount, Option.getD_some]
      | none =>
        refine .kept hquiet (by simp [htells, hsnd]) ?_
        rw [hpool, b.pool.adjust_eq_self haway hsnd]
  · refine .kept (fun h => hk (hmutes.mp h).1) (fun h => hk (htells.mp h).1) ?_
    rw [hpool, Pool.countOf_adjust_of_ne _ hk]

/-- **A touch tells a count, or lowers it and does not tell, or leaves it alone.** -/
theorem recounts (h : b.Valid) (now : Instant) (t : Touch) (k : HostKey) :
    b.Recounts now t k := by
  cases b.touched now t with
  | adjusted hadjusts hpool hmetric => exact h.recounts_adjusted hadjusts hpool hmetric k
  | rested hadjusts hfails hcounts hstashed hmetric =>
    refine .kept ?_ ?_ ?_
    · rintro (hfail | ⟨delta, hadjusts', -, -⟩)
      · exact hfails k hfail
      · cases hadjusts.symm.trans hadjusts'
    · rintro ⟨n, hn⟩
      cases hmetric.symm.trans hn
    · rw [Pool.countOf, hcounts, hstashed, Pool.countOf]
  | @failed host ht hmetric =>
    have htells : ¬b.Tells now t k := by
      rintro ⟨n, hn⟩
      rcases hmetric with hmetric | hmetric <;> cases hmetric.symm.trans hn
    have hcount := b.pool.countOf_markFailed host k now
    subst ht
    by_cases hk : host = k
    · subst hk
      rw [if_pos rfl] at hcount
      exact .muted (.inl rfl) htells (.inl hcount)
    · rw [if_neg hk] at hcount
      refine .kept ?_ htells hcount
      rintro (hfail | ⟨delta, hadjusts, -, -⟩)
      · cases hfail
        exact hk rfl
      · cases hadjusts

theorem touch (h : b.Valid) (now : Instant) (t : Touch) : (b.touch now t).Valid := by
  cases t with
  | forceRefresh => exact h.forceRefresh
  | markFailed host => exact h.markFailed host now
  | reserve excluding pick => exact h.reserve excluding pick
  | adjust host delta => exact Pool.Valid.adjust h host delta
  | release host => exact h.release host

end Valid

end Balancer

/-! ## Crowds -/

namespace Crowd

variable {s : Crowd}

theorem valid_after (h : s.balancer.Valid) (e : CrowdEvent) : (s.after e).balancer.Valid := by
  have hkeep : (s.after e).balancer.pool = s.balancer.pool → (s.after e).balancer.Valid := by
    intro hpool
    rw [Balancer.Valid, hpool, s.settings_after]
    exact h
  cases e with
  | step c =>
    rcases s.step_pool c with ⟨hpool, -⟩ | ⟨v, members, happlies⟩
    · exact hkeep hpool
    · rw [Balancer.Valid, s.settings_after]
      exact happlies.pool ▸ Pool.Valid.apply h _ s.balancer.rules s.now
  | abandon c => exact hkeep (s.abandon_pool c).1
  | touch t => exact h.touch s.now t
  | arrive | advance => exact h

/-- Only touches change counts: an answer moves them between the tables. -/
theorem countOf_after (s : Crowd) {e : CrowdEvent} (he : ∀ t, e ≠ .touch t) (k : HostKey) :
    (s.after e).balancer.pool.countOf k = s.balancer.pool.countOf k := by
  cases e with
  | step c =>
    rcases s.step_pool c with ⟨hpool, -⟩ | ⟨v, members, happlies⟩
    · exact congrArg (Pool.countOf · k) hpool
    · exact (congrArg (Pool.countOf · k) happlies.pool).trans (Pool.countOf_apply _ _ _ _ k)
  | abandon c => exact congrArg (Pool.countOf · k) (s.abandon_pool c).1
  | touch t => exact absurd rfl (he t)
  | arrive | advance => rfl

end Crowd

namespace MeteredCrowd

variable (preference : Option Preference) (settings : BalancerSettings)

theorem valid_run (events : List CrowdEvent) :
    (run preference settings events).crowd.balancer.Valid := by
  induction events using List.reverseRecOn with
  | nil => exact Balancer.Valid.fresh preference settings
  | append_singleton events e ih =>
    rw [run_concat, crowd_after]
    exact Crowd.valid_after ih e

/-- Only touches tell counts. -/
theorem hostConnections_after (s : MeteredCrowd) {e : CrowdEvent} (he : ∀ t, e ≠ .touch t)
    (k : HostKey) :
    (s.after e).ledger.hostConnections[k]? = s.ledger.hostConnections[k]? := by
  cases e with
  | step c =>
    rcases s.step_cases c with ⟨hs, -⟩ | ⟨v, b, point, -, -, -, hs⟩
    · rw [after, hs]
    · rw [after, hs]
      refine s.ledger.hostConnections_note_of_ne fun n hn => ?_
      obtain ⟨_, -, hm⟩ := Option.map_eq_some_iff.mp hn
      cases hm
  | touch t => exact absurd rfl (he t)
  | arrive | abandon | advance => rfl

/-! ## Out of date -/

/-- Since the count of a host was told last, it was lowered without being told. -/
inductive Outdated (host : HostKey) : List CrowdEvent → Prop
  | muted {events : List CrowdEvent} {t : Touch}
      (h : (run preference settings events).crowd.balancer.Mutes t host) :
      Outdated host (events ++ [.touch t])
  | kept {events : List CrowdEvent} {e : CrowdEvent} (h : Outdated host events)
      (hquiet : ∀ t, e = .touch t → ¬(run preference settings events).crowd.balancer.Tells
        (run preference settings events).crowd.now t host) :
      Outdated host (events ++ [e])

variable {preference settings} {events : List CrowdEvent} {k : HostKey}

theorem outdated_concat_iff {e : CrowdEvent} :
    Outdated preference settings k (events ++ [e]) ↔
      (∃ t, e = .touch t ∧ (run preference settings events).crowd.balancer.Mutes t k) ∨
        Outdated preference settings k events ∧
          ∀ t, e = .touch t → ¬(run preference settings events).crowd.balancer.Tells
            (run preference settings events).crowd.now t k := by
  constructor
  · intro h
    generalize hl : events ++ [e] = l at h
    cases h with
    | @muted events' t h =>
      obtain ⟨rfl, he⟩ := List.append_inj' hl rfl
      cases he
      exact .inl ⟨t, rfl, h⟩
    | @kept events' e' h hquiet =>
      obtain ⟨rfl, he⟩ := List.append_inj' hl rfl
      cases he
      exact .inr ⟨h, hquiet⟩
  · rintro (⟨t, rfl, h⟩ | ⟨h, hquiet⟩)
    · exact .muted h
    · exact .kept h hquiet

theorem outdated_touch_iff {t : Touch} : Outdated preference settings k (events ++ [.touch t]) ↔
    (run preference settings events).crowd.balancer.Mutes t k ∨
      Outdated preference settings k events ∧ ¬(run preference settings events).crowd.balancer.Tells
        (run preference settings events).crowd.now t k := by
  rw [outdated_concat_iff]
  simp

theorem outdated_still_iff {e : CrowdEvent} (he : ∀ t, e ≠ .touch t) :
    Outdated preference settings k (events ++ [e]) ↔ Outdated preference settings k events := by
  rw [outdated_concat_iff]
  simp [he]

/-- What was told of a host is not below its count, and it is its count unless it is out of date. -/
def Gauged (preference : Option Preference) (settings : BalancerSettings)
    (events : List CrowdEvent) (k : HostKey) : Prop :=
  ∀ told, (run preference settings events).ledger.hostConnections[k]? = some told →
    let count := (run preference settings events).crowd.balancer.pool.countOf k
    count ≤ told ∧ (told = count ↔ told = 0 ∨ ¬Outdated preference settings k events)

/-- An event that neither changes a count nor tells it. -/
theorem Gauged.concat_of_still (h : Gauged preference settings events k) {e : CrowdEvent}
    (hcount : (run preference settings (events ++ [e])).crowd.balancer.pool.countOf k =
      (run preference settings events).crowd.balancer.pool.countOf k)
    (htold : (run preference settings (events ++ [e])).ledger.hostConnections[k]? =
      (run preference settings events).ledger.hostConnections[k]?)
    (houtdated : Outdated preference settings k (events ++ [e]) ↔
      Outdated preference settings k events) :
    Gauged preference settings (events ++ [e]) k := by
  intro told h'
  rw [htold] at h'
  rw [hcount, houtdated]
  exact h told h'

theorem Gauged.touch (h : Gauged preference settings events k) (t : Touch) :
    Gauged preference settings (events ++ [.touch t]) k := by
  have hpool : (run preference settings (events ++ [.touch t])).crowd.balancer.pool =
      ((run preference settings events).crowd.balancer.touch
        (run preference settings events).crowd.now t).pool := by
    rw [run_concat]
    rfl
  have hledger : (run preference settings (events ++ [.touch t])).ledger =
      (run preference settings events).ledger.note
        ((run preference settings events).crowd.balancer.touchMetric
          (run preference settings events).crowd.now t) := by
    rw [run_concat]
    rfl
  cases (valid_run preference settings events).recounts
    (run preference settings events).crowd.now t k with
  | @told n hmetric hcount hmutes =>
    have hcurrent : ¬Outdated preference settings k (events ++ [.touch t]) := by
      rw [outdated_touch_iff]
      rintro (hmuted | ⟨-, hquiet⟩)
      · exact hmutes hmuted
      · exact hquiet ⟨n, hmetric⟩
    intro told htold
    rw [hledger, hmetric, Ledger.hostConnections_note_told] at htold
    cases htold
    rw [hpool, hcount]
    exact ⟨Nat.le_refl _, iff_of_true rfl (.inr hcurrent)⟩
  | muted hmutes htells hcount =>
    have houtdated : Outdated preference settings k (events ++ [.touch t]) :=
      outdated_touch_iff.mpr (.inl hmutes)
    intro told htold
    rw [hledger, Ledger.hostConnections_note_of_ne _ fun n hn => htells ⟨n, hn⟩] at htold
    obtain ⟨hle, -⟩ := h told htold
    rw [hpool]
    refine ⟨by omega, ?_⟩
    -- a count above zero is now below what was told
    simp only [houtdated, not_true_eq_false, or_false]
    omega
  | kept hmutes htells hcount =>
    refine h.concat_of_still ?_ ?_ ?_
    · rw [hpool, hcount]
    · rw [hledger, Ledger.hostConnections_note_of_ne _ fun n hn => htells ⟨n, hn⟩]
    · rw [outdated_touch_iff]
      simp [hmutes, htells]

variable (preference settings events k)

theorem gauged_run : Gauged preference settings events k := by
  induction events using List.reverseRecOn with
  | nil =>
    intro told htold
    simp [run] at htold
  | append_singleton events e ih =>
    by_cases he : ∃ t, e = .touch t
    · obtain ⟨t, rfl⟩ := he
      exact ih.touch t
    · have hno : ∀ t, e ≠ .touch t := fun t ht => he ⟨t, ht⟩
      refine ih.concat_of_still ?_ ?_ (outdated_still_iff hno)
      · rw [run_concat, crowd_after, Crowd.countOf_after _ hno]
      · rw [run_concat, hostConnections_after _ hno]

/-- **The gauge of a tracked host is its count, unless it is out of date.** What was told of a host
is never below its count. The two are equal exactly if zero was told or if, since the host was told,
it has not failed and no connection to it was given back while it was away. Up to 2^53 the gauge
shows what was told. -/
theorem run_gauge (count told : Nat) :
    let s := run preference settings events
    s.crowd.balancer.pool.count? k = some count → s.ledger.hostConnections[k]? = some told →
      count ≤ told ∧ (told = count ↔ told = 0 ∨ ¬Outdated preference settings k events) ∧
        (told ≤ 1 <<< Double.precision → s.ledger.gauge? k = some told) := by
  intro s hcount htold
  obtain ⟨hle, hiff⟩ := gauged_run preference settings events k told htold
  have hsame : s.crowd.balancer.pool.countOf k = count := by
    rw [Pool.countOf, ← Pool.count?, hcount, Option.getD_some]
  rw [hsame] at hle hiff
  refine ⟨hle, hiff, fun hsmall => ?_⟩
  rw [Ledger.gauge?, htold, Option.map_some, Double.value_ofNat hsmall]

/-- A call comes over a connection to `a`, finds the only member there is, and is done. -/
def refreshedWith (c : Caller) (member : String) : List CrowdEvent :=
  [.touch .forceRefresh, .arrive "a" 0 (.ok [(∅ : Row).insert "host" member])] ++
    List.replicate 5 (.step c)

/-- A connection to a host is given back while the host is away, and the host comes back. -/
def awayAndBack : List CrowdEvent :=
  refreshedWith 0 "h" ++ [.touch (.reserve [] 0)] ++ refreshedWith 1 "other" ++
    [.touch (.release "h")] ++ refreshedWith 2 "h"

/-- The host is back without connections, and its gauge still shows one. -/
theorem run_gauge_awayAndBack :
    let s := run none {} awayAndBack
    s.crowd.balancer.pool.count? "h" = some 0 ∧ s.ledger.gauge? "h" = some 1 ∧
      Outdated none {} "h" awayAndBack := by
  intro s
  have hcount : s.crowd.balancer.pool.count? "h" = some 0 := by decide +kernel
  have htold : s.ledger.hostConnections["h"]? = some 1 := by decide +kernel
  obtain ⟨-, hiff, hgauge⟩ := run_gauge none {} awayAndBack "h" 0 1 hcount htold
  refine ⟨hcount, hgauge (by decide), ?_⟩
  by_contra hcurrent
  exact absurd (hiff.mpr (.inr hcurrent)) (by decide)

end MeteredCrowd

end ConnectionRouter
