import ConnectionRouter.Proofs.Pool.Ruled
import ConnectionRouter.Proofs.Table

/-!
# Releases that race with snapshots and failures

A connection may be given back at any moment, also while a snapshot is on its way or while another
request finds a host dead. Whichever comes first, the pool is the same in the end
(`Pool.Valid.apply_release`, `Pool.markFailed_release`): a release takes from the count of a host
wherever the count stands, and a snapshot only moves counts between the tables.

So of a list of releases and reports, a report being a snapshot or a failure, only the reports in
their order and the releases in any order matter (`RuledPool.foldl_after_eq`,
`RuledPool.run_moves_releases`).
-/

namespace ConnectionRouter

theorem changeCount_zero {delta : Int} (h : delta < 0) : changeCount 0 delta = 0 := by
  simp [changeCount, h]

/-- Releases of one host may change places. -/
theorem changeCount_comm {delta delta' : Int} (h : delta < 0) (h' : delta' < 0) (n : Nat) :
    changeCount (changeCount n delta) delta' = changeCount (changeCount n delta') delta := by
  simp only [changeCount, h, h', if_true]
  omega

namespace PoolEvent

/-- Connections of a host are given back. -/
def isRelease : PoolEvent → Bool
  | .adjust _ delta => delta < 0
  | _ => false

/-- The members are told, or a host is found dead. -/
def isReport : PoolEvent → Bool
  | .snapshot .. | .markFailed .. => true
  | _ => false

theorem exists_of_isRelease {e : PoolEvent} (h : e.isRelease = true) :
    ∃ host delta, delta < 0 ∧ e = .adjust host delta := by
  cases e with
  | adjust host delta => exact ⟨host, delta, of_decide_eq_true h, rfl⟩
  | _ => cases h

theorem isReport_of_isRelease {e : PoolEvent} (h : e.isRelease = true) : e.isReport = false := by
  obtain ⟨host, delta, -, rfl⟩ := exists_of_isRelease h
  rfl

theorem isRelease_of_isReport {e : PoolEvent} (h : e.isReport = true) : e.isRelease = false :=
  Bool.eq_false_iff.mpr fun hr => Bool.eq_false_iff.mp (isReport_of_isRelease hr) h

end PoolEvent

namespace Pool

variable {p : Pool} {host k : HostKey} {delta : Int}

/-! ## One release -/

theorem getElem?_stashed_release (hd : delta < 0) (p : Pool) (host k : HostKey) :
    (p.adjust host delta).1.stashed[k]? =
      if host = k then (p.stashed[k]?).map (changeCount · delta) else p.stashed[k]? := by
  simp [getElem?_stashed_adjust, hd]

/-- A tracked host of a valid pool has no stashed count that would take the change. -/
theorem Valid.getElem?_counts_adjust {defaultPort : UInt16} (h : p.Valid defaultPort)
    (host k : HostKey) (delta : Int) : (p.adjust host delta).1.counts[k]? =
      if host = k then (p.counts[k]?).map (changeCount · delta) else p.counts[k]? := by
  rw [Pool.getElem?_counts_adjust]
  by_cases hk : host = k
  · cases hc : p.counts[k]? with
    | none => simp
    | some n =>
      have hs := h.getElem?_stashed_of_mem_counts (Table.mem_iff_exists.mpr ⟨n, hc⟩)
      simp [hk, hs]
  · simp [hk]

/-- What a pool knows besides counts. -/
def uncounted (p : Pool) : Pool := { p with counts := ∅, stashed := ∅ }

theorem eq_of_uncounted {p q : Pool} (h : p.uncounted = q.uncounted)
    (hcounts : ∀ k : HostKey, p.counts[k]? = q.counts[k]?)
    (hstashed : ∀ k : HostKey, p.stashed[k]? = q.stashed[k]?) : p = q := by
  obtain ⟨hm, -, -, hq, hp, hl, hf, hs⟩ := Pool.ext_iff.mp h
  exact Pool.ext hm (Std.ExtTreeMap.ext_getElem? hcounts) (Std.ExtTreeMap.ext_getElem? hstashed)
    hq hp hl hf hs

@[simp] theorem uncounted_adjust (p : Pool) (host : HostKey) (delta : Int) :
    (p.adjust host delta).1.uncounted = p.uncounted := by
  simp [uncounted]

theorem uncounted_markFailed (p : Pool) (failed : HostKey) (now : Instant) :
    (p.markFailed failed now).1.uncounted = (p.uncounted.markFailed failed now).1.uncounted := rfl

theorem isNone_counts_adjust (p : Pool) (host : HostKey) (delta : Int) (k : HostKey) :
    ((p.adjust host delta).1.counts[k]?).isNone = (p.counts[k]?).isNone := by
  rw [getElem?_counts_adjust]
  split <;> simp

theorem keys_counts_adjust (p : Pool) (host : HostKey) (delta : Int) :
    (p.adjust host delta).1.counts.keys = p.counts.keys :=
  Table.keys_eq_of_mem_iff fun _ => mem_counts_adjust

/-! ## A release and a snapshot -/

theorem nextMembers_adjust (p : Pool) (host : HostKey) (delta : Int) (s : Snapshot)
    (rules : SnapshotRules) : (p.adjust host delta).1.nextMembers s rules = p.nextMembers s rules := by
  rw [nextMembers, family_adjust, nextMembers]

theorem isQuarantined_apply_adjust (p : Pool) (host : HostKey) (delta : Int) (s : Snapshot)
    (rules : SnapshotRules) (now : Instant) (k : HostKey) :
    ((p.adjust host delta).1.apply s rules now).1.isQuarantined k =
      (p.apply s rules now).1.isQuarantined k := by
  simp only [isQuarantined, quarantine_apply, quarantine_adjust]

/-- A release reaches the count of its host before a snapshot as it does afterwards. -/
theorem Valid.tables_apply_release {defaultPort : UInt16} (h : p.Valid defaultPort)
    (hd : delta < 0) (host : HostKey) (s : Snapshot) (rules : SnapshotRules) (now : Instant)
    (k : HostKey) :
    ((p.adjust host delta).1.apply s rules now).1.counts[k]? =
        ((p.apply s rules now).1.adjust host delta).1.counts[k]? ∧
      ((p.adjust host delta).1.apply s rules now).1.stashed[k]? =
        ((p.apply s rules now).1.adjust host delta).1.stashed[k]? := by
  rw [(h.apply s rules now).getElem?_counts_adjust, getElem?_stashed_release hd]
  by_cases hm : k ∈ p.nextMembers s rules
  · have hm' : k ∈ (p.adjust host delta).1.nextMembers s rules := by rwa [nextMembers_adjust]
    rw [getElem?_counts_apply_of_mem _ s rules now k hm',
      getElem?_stashed_apply_of_mem _ s rules now k hm',
      getElem?_counts_apply_of_mem p s rules now k hm,
      getElem?_stashed_apply_of_mem p s rules now k hm, isQuarantined_apply_adjust,
      h.getElem?_counts_adjust, getElem?_stashed_release hd]
    by_cases hk : host = k
    · -- a host that comes back or is new starts from what the release leaves, at least zero
      cases p.counts[k]? <;> cases p.stashed[k]? <;>
        cases (p.apply s rules now).1.isQuarantined k <;> simp [hk, changeCount_zero hd]
    · simp [hk]
  · have hm' : k ∉ (p.adjust host delta).1.nextMembers s rules := by rwa [nextMembers_adjust]
    rw [getElem?_counts_apply_of_not_mem _ s rules now k hm',
      getElem?_stashed_apply_of_not_mem _ s rules now k hm',
      getElem?_counts_apply_of_not_mem p s rules now k hm,
      getElem?_stashed_apply_of_not_mem p s rules now k hm,
      h.getElem?_counts_adjust, getElem?_stashed_release hd]
    by_cases hk : host = k <;> simp [hk, Option.map_or]

/-- A release neither tracks a host nor lets go of one. -/
theorem summary_apply_adjust (p : Pool) (host : HostKey) (delta : Int) (s : Snapshot)
    (rules : SnapshotRules) (now : Instant) :
    ((p.adjust host delta).1.apply s rules now).2 = (p.apply s rules now).2 := by
  have hnext := nextMembers_adjust p host delta s rules
  refine SnapshotSummary.ext (congrArg Std.ExtTreeMap.size hnext) ?_ ?_ ?_
  · show Table.keysWhere _ _ = Table.keysWhere _ _
    rw [hnext, Table.keysWhere, Table.keysWhere]
    refine List.filter_congr fun k hk => ?_
    have hm : k ∈ p.nextMembers s rules := Std.ExtTreeMap.mem_keys.mp hk
    rw [awaitsAdmission_beforeAdmission _ s rules now k (hnext ▸ hm),
      awaitsAdmission_beforeAdmission p s rules now k hm, isQuarantined_apply_adjust,
      isNone_counts_adjust]
  · show Table.keysWhere _ _ = Table.keysWhere _ _
    rw [hnext, Table.keysWhere, Table.keysWhere, keys_counts_adjust]
  · show (Quarantine.release _ _ _).2 = (Quarantine.release _ _ _).2
    rw [quarantine_adjust]

theorem uncounted_apply_adjust (p : Pool) (host : HostKey) (delta : Int) (s : Snapshot)
    (rules : SnapshotRules) (now : Instant) :
    ((p.adjust host delta).1.apply s rules now).1.uncounted =
      (p.apply s rules now).1.uncounted := by
  have hpriorities : ((p.adjust host delta).1.apply s rules now).1.priorities =
      (p.apply s rules now).1.priorities := by
    refine Std.ExtTreeMap.ext_getElem? fun k => ?_
    rw [getElem?_priorities_apply, getElem?_priorities_apply, isQuarantined_apply_adjust,
      nextMembers_adjust]
  simp [uncounted, hpriorities, nextMembers_adjust]

/-- **A release and a snapshot may change places.** -/
theorem Valid.apply_release {defaultPort : UInt16} (h : p.Valid defaultPort) (hd : delta < 0)
    (host : HostKey) (s : Snapshot) (rules : SnapshotRules) (now : Instant) :
    (p.adjust host delta).1.apply s rules now =
      (((p.apply s rules now).1.adjust host delta).1, (p.apply s rules now).2) := by
  have htables := h.tables_apply_release hd host s rules now
  refine Prod.ext (eq_of_uncounted ?_ (fun k => (htables k).1) fun k => (htables k).2)
    (summary_apply_adjust ..)
  rw [uncounted_apply_adjust, uncounted_adjust]

/-! ## A release and a failure, and two releases -/

/-- **A release and a failure may change places**, be it of the same host or of another. -/
theorem markFailed_release (p : Pool) (hd : delta < 0) (host failed : HostKey) (now : Instant) :
    (p.adjust host delta).1.markFailed failed now =
      (((p.markFailed failed now).1.adjust host delta).1, (p.markFailed failed now).2) := by
  refine Prod.ext (eq_of_uncounted ?_ (fun k => ?_) fun k => ?_) ?_
  · rw [uncounted_markFailed, uncounted_adjust, uncounted_adjust, uncounted_markFailed p]
  · rw [getElem?_counts_markFailed, getElem?_counts_adjust, getElem?_counts_adjust,
      getElem?_counts_markFailed, getElem?_stashed_markFailed]
    by_cases hf : failed = k <;> simp [hf]
  · rw [getElem?_stashed_markFailed, getElem?_stashed_release hd, getElem?_stashed_release hd,
      getElem?_stashed_markFailed]
    by_cases hf : failed = k <;> simp [hf]
  · simp [markFailed]

/-- **Two releases may change places.** -/
theorem release_release (p : Pool) {delta' : Int} (hd : delta < 0) (hd' : delta' < 0)
    (host host' : HostKey) :
    ((p.adjust host delta).1.adjust host' delta').1 =
      ((p.adjust host' delta').1.adjust host delta).1 := by
  have hcomm : ∀ n : Option Nat, (n.map (changeCount · delta)).map (changeCount · delta') =
      (n.map (changeCount · delta')).map (changeCount · delta) := fun n => by
    cases n <;> simp [changeCount_comm hd hd']
  refine eq_of_uncounted (by simp) (fun k => ?_) fun k => ?_
  · -- neither release decides which table the other one reaches
    simp only [getElem?_counts_adjust, getElem?_stashed_release hd, getElem?_stashed_release hd']
    by_cases hk : host = k <;> by_cases hk' : host' = k <;> cases p.stashed[k]? <;>
      simp [hk, hk', hd, hd', hcomm]
  · simp only [getElem?_stashed_release hd, getElem?_stashed_release hd']
    by_cases hk : host = k <;> by_cases hk' : host' = k <;> simp [hk, hk', hcomm]

end Pool

namespace RuledPool

/-! ## Runs -/

variable {r : RuledPool} {x y : SnapshotRules × PoolEvent}

theorem after_release_comm (hx : x.2.isRelease = true) (hy : y.2.isRelease = true) :
    (r.after x).after y = (r.after y).after x := by
  obtain ⟨rules, e⟩ := x
  obtain ⟨rules', e'⟩ := y
  obtain ⟨host, delta, hd, rfl⟩ := PoolEvent.exists_of_isRelease hx
  obtain ⟨host', delta', hd', rfl⟩ := PoolEvent.exists_of_isRelease hy
  exact congrArg (RuledPool.mk · r.rules) (r.pool.release_release hd hd' host host')

theorem Sound.after_report_comm (h : r.Sound) (hx : x.2.isRelease = true)
    (hy : y.2.isReport = true) : (r.after x).after y = (r.after y).after x := by
  obtain ⟨rules, e⟩ := x
  obtain ⟨rules', e'⟩ := y
  obtain ⟨host, delta, hd, rfl⟩ := PoolEvent.exists_of_isRelease hx
  cases e' with
  | snapshot s now =>
    exact congrArg (RuledPool.mk ·.1 rules') (h.valid.apply_release hd host s rules' now)
  | markFailed failed now =>
    exact congrArg (RuledPool.mk ·.1 r.rules) (r.pool.markFailed_release hd host failed now)
  | _ => cases hy

/-- A release may wait until all of some reports are through. -/
theorem Sound.foldl_reports (hx : x.2.isRelease = true)
    (reports : List (SnapshotRules × PoolEvent)) :
    ∀ {r : RuledPool}, r.Sound → (∀ e ∈ reports, e.2.isReport = true) →
      reports.foldl RuledPool.after (r.after x) = (reports.foldl RuledPool.after r).after x := by
  induction reports with
  | nil => exact fun _ _ => rfl
  | cons e reports ih =>
    intro r h hreports
    rw [List.foldl_cons, h.after_report_comm hx (hreports e List.mem_cons_self), List.foldl_cons]
    exact ih (h.after e) fun e' he' => hreports e' (List.mem_cons_of_mem e he')

/-- **Only the order of the reports matters**: all releases may wait until the last report is
through. -/
theorem Sound.foldl_after_eq (events : List (SnapshotRules × PoolEvent)) :
    ∀ {r : RuledPool}, r.Sound →
      (∀ e ∈ events, e.2.isRelease = true ∨ e.2.isReport = true) →
        events.foldl RuledPool.after r = (events.filter (·.2.isRelease)).foldl RuledPool.after
          ((events.filter (·.2.isReport)).foldl RuledPool.after r) := by
  induction events with
  | nil => exact fun _ _ => rfl
  | cons e events ih =>
    intro r h hall
    have hrest : ∀ e' ∈ events, e'.2.isRelease = true ∨ e'.2.isReport = true :=
      fun e' he' => hall e' (List.mem_cons_of_mem e he')
    rw [List.foldl_cons, ih (h.after e) hrest]
    rcases hall e List.mem_cons_self with he | he
    · have hreport := PoolEvent.isReport_of_isRelease he
      have hreports : ∀ e' ∈ events.filter (·.2.isReport), e'.2.isReport = true :=
        fun e' he' => (List.mem_filter.mp he').2
      simp only [List.filter_cons, he, hreport, if_true, Bool.false_eq_true, if_false,
        List.foldl_cons, foldl_reports he _ h hreports]
    · have hrelease := PoolEvent.isRelease_of_isReport he
      simp only [List.filter_cons, he, hrelease, if_true, Bool.false_eq_true, if_false,
        List.foldl_cons]

/-- Two lists of releases and reports that tell the same reports in the same order and give back the
same connections, at whatever moments. -/
structure Interleaves (events events' : List (SnapshotRules × PoolEvent)) : Prop where
  forall_mem : ∀ e ∈ events, e.2.isRelease = true ∨ e.2.isReport = true
  forall_mem' : ∀ e ∈ events', e.2.isRelease = true ∨ e.2.isReport = true
  reports : events.filter (·.2.isReport) = events'.filter (·.2.isReport)
  releases : (events.filter (·.2.isRelease)).Perm (events'.filter (·.2.isRelease))

/-- **A release that races with a snapshot or a failure is neither lost nor applied twice.** In a
pool after any history it may come before or after, with the same pool and the same answer in the
end; so releases may be moved across any number of snapshots and failures. -/
theorem run_moves_releases (events : List (SnapshotRules × PoolEvent)) :
    (∀ (host : HostKey) (delta : Int), delta < 0 →
      let p := (run events).pool
      let released := (p.adjust host delta).1
      (∀ s rules now, released.apply s rules now =
          (((p.apply s rules now).1.adjust host delta).1, (p.apply s rules now).2)) ∧
        ∀ failed now, released.markFailed failed now =
          (((p.markFailed failed now).1.adjust host delta).1, (p.markFailed failed now).2)) ∧
      ∀ later later', Interleaves later later' → run (events ++ later) = run (events ++ later') := by
  have hsound := sound_run events
  refine ⟨fun host delta hd => ⟨fun s rules now => hsound.valid.apply_release hd host s rules now,
    fun failed now => (run events).pool.markFailed_release hd host failed now⟩,
    fun later later' h => ?_⟩
  have hrun : ∀ more, run (events ++ more) = more.foldl after (run events) := fun more => by
    rw [run, List.foldl_append, run]
  rw [hrun, hrun, hsound.foldl_after_eq later h.forall_mem,
    hsound.foldl_after_eq later' h.forall_mem', h.reports]
  refine h.releases.foldl_eq' (fun x hx y hy z => ?_) _
  exact after_release_comm (List.mem_filter.mp hx).2 (List.mem_filter.mp hy).2

/-- Two hosts, and two connections to the first. -/
def twoOpen : List (SnapshotRules × PoolEvent) :=
  [({}, .snapshot ⟨[.ofHost "a", .ofHost "b"], "a"⟩ 0), ({}, .adjust "a" 2)]

/-- The first host leaves, the other one fails, and the first comes back. -/
def comings : List (SnapshotRules × PoolEvent) :=
  [({}, .snapshot ⟨[.ofHost "b"], "b"⟩ 1), ({}, .markFailed "b" 2),
    ({}, .snapshot ⟨[.ofHost "a", .ofHost "b"], "a"⟩ 3)]

/-- A connection is given back while its host is away, or before, or after. -/
theorem run_moves_releases_away :
    let before := run (twoOpen ++ ({}, .adjust "a" (-1)) :: comings)
    let between := run (twoOpen ++ (comings.take 1 ++ ({}, .adjust "a" (-1)) :: comings.drop 1))
    let after := run (twoOpen ++ (comings ++ [⟨{}, .adjust "a" (-1)⟩]))
    before.pool.count? "a" = some 1 ∧ between = before ∧ after = before := by
  obtain ⟨-, hmoves⟩ := run_moves_releases twoOpen
  refine ⟨by decide +kernel, hmoves _ _ ⟨?_, ?_, rfl, .refl _⟩, hmoves _ _ ⟨?_, ?_, rfl, .refl _⟩⟩
  all_goals simp [comings, PoolEvent.isRelease, PoolEvent.isReport]

end RuledPool

end ConnectionRouter
