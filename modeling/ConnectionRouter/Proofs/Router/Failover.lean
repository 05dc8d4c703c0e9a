import ConnectionRouter.Proofs.Pool.Failures
import ConnectionRouter.Proofs.Pool.Quarantine
import ConnectionRouter.Proofs.Router.Waits

/-!
# Failover

In each round a request tries hosts until one accepts. A trial (`Trial`) is such a search that
nobody disturbs: connects take no time, whether an address accepts is settled, and a query is
answered with the members last listed or fails. `Trial.Stands` says how a trial stands: the hosts
tried so far have refused, and the pool has lost them and nothing else (`Pool.Lost`). So the host
that accepts in the end is the best of those that accept, although none of the others has been
asked (`Trial.fails_over`).
-/

namespace ConnectionRouter

open Journey

/-! ## Who was listed last -/

/-- The members that the last snapshot told. -/
def PoolEvent.lastListed (events : List PoolEvent) : List Member :=
  events.foldl (fun listed e => match e with | .snapshot s _ => s.members | _ => listed) []

theorem PoolEvent.lastListed_concat (events : List PoolEvent) (e : PoolEvent) :
    lastListed (events ++ [e]) =
      match e with
      | .snapshot s _ => s.members
      | _ => lastListed events := by
  rw [lastListed, List.foldl_append]
  rfl

/-- The members of a pool are those told last, by the family of addresses settled on. -/
theorem Pool.members_run (rules : SnapshotRules) (events : List PoolEvent) :
    (run rules events).members = listing (PoolEvent.lastListed events)
      ((run rules events).family.getD .privateAddress) rules.defaultPort := by
  induction events using List.reverseRecOn with
  | nil => rfl
  | append_singleton events e ih =>
    rw [PoolEvent.lastListed_concat, run, List.foldl_append, List.foldl_cons, List.foldl_nil, ← run]
    cases e with
    | snapshot s now => rw [after, members_apply, family_apply, nextMembers]
    | reserve excluding pick =>
      rcases (run rules events).reserve_cases excluding pick with he | ⟨host, addr, -, he⟩
      · rwa [after, he]
      · rwa [after, he, members_adjust, family_adjust]
    | adjust host delta => rwa [after, members_adjust, family_adjust]
    | markFailed host now => exact ih
    | forceRefresh => exact ih

/-! ## Parts of a search -/

/-- What the search for a host in a round has come to. -/
def Stage.chosen? : Stage → Option (Except RoutingError (Connection × Lease))
  | .finished (.ok ⟨conn, some lease⟩) => some (.ok (conn, lease))
  | .closing conn (.preempted _ lease) => some (.ok (conn, lease))
  | .finished (.error e) => some (.error e)
  | _ => none

namespace Scene

variable (s : Scene)

theorem keep_chosen (round : Nat) (held : Held) :
    (s.keep round held).2.chosen? = some (.ok (held.conn, held.lease)) ∧
      (s.keep round held).1.balancer.pool = s.balancer.pool := by
  unfold keep
  dsimp only
  split <;> exact ⟨rfl, rfl⟩

end Scene

/-! ## Trials -/

/-- The search for a host in one round of a request that nobody disturbs. -/
structure Trial where
  caller : Caller
  round : Nat
  /-- The scene when the search begins. -/
  start : Scene
  /-- The time of all connects. -/
  now : Instant
  accepts : HostAddr → Bool
  /-- What a query is answered with, if it is answered. -/
  listed : List Member

namespace Trial

variable {c : Trial} {t last : Stride} {past : List Stride}

/-- The pool when the search begins. -/
def pool (c : Trial) : Pool := c.start.balancer.pool

/-- Whether a wait of a trial can end so. -/
def arrives (c : Trial) : Stage → Arrival → Bool
  | .opening addr (.data ..), .opened failure => failure.isNone == c.accepts addr
  | .awaitingTurn _, .turn => true
  | .querying (.check _ held), .answered control answer =>
    control == held.conn.addr.host && (!answer.isOk || Member.ofAnswer answer = .ok c.listed)
  | _, _ => false

/-- A search that is over waits for nothing. -/
theorem chosen?_of_arrives {stage : Stage} {arrival : Arrival}
    (h : c.arrives stage arrival = true) : stage.chosen? = none := by
  unfold arrives at h
  split at h
  · rfl
  · rfl
  · rfl
  · cases h

/-- The search begins. -/
structure Begins (c : Trial) (t : Stride) : Prop where
  wait_eq : t.wait = none
  found_eq : t.found = c.start
  now_eq : t.now = c.now
  reserves : c.start.reserveNext c.round [] t.pick = (t.left, t.stage)

/-- The search goes on where it was left; a connect has taken no time. -/
structure Follows (c : Trial) (last t : Stride) : Prop where
  found_eq : t.found = last.left
  arrives : ∃ arrival, t.wait = some (last.stage, arrival) ∧ c.arrives last.stage arrival = true
  now_eq : ∀ addr purpose, last.stage = .opening addr purpose → t.now = last.now
  plays : t.Plays c.caller

/-- The strides of a trial so far, latest first. -/
abbrev Undisturbed (c : Trial) : List Stride → Prop := Journey c.Begins c.Follows

/-- A candidate of the start that accepts. -/
def Good (c : Trial) (d : Pool.Candidate) : Prop :=
  d ∈ c.pool.eligible [] ∧ ∃ m, c.pool.members[d.host]? = some m ∧ c.accepts m.addr = true

/-- A candidate of the start that refuses. -/
def Refuses (c : Trial) (host : HostKey) : Prop :=
  (∃ d ∈ c.pool.eligible [], d.host = host) ∧
    ∃ m, c.pool.members[host]? = some m ∧ c.accepts m.addr = false

/-! ## How a trial stands -/

/-- Some hosts have been tried and have refused; `q` is what is left of the pool. -/
structure Tried (c : Trial) (refused : List HostKey) (q : Pool) : Prop where
  lost : c.pool.Lost c.now refused q
  refuses : ∀ k ∈ refused, c.Refuses k
  nodup : refused.Nodup

/-- The next host to try has been chosen. -/
structure Tries (c : Trial) (refused : List HostKey) (q : Pool) (host : HostKey)
    (addr : HostAddr) : Prop extends c.Tried refused q where
  chosen : (host, addr) ∈ q.select refused

/-- The strides that a trial has made: whom they have dialed, and whom they have put in
quarantine. -/
structure Records (c : Trial) (j : List Stride) (dialed refused : List HostKey) : Prop where
  dials_eq : dials j c.round = dialed
  quarantines : ∀ k, (∃ u ∈ j, u.Quarantines k) ↔ k ∈ refused

/-- How a trial stands after a stride. -/
inductive Stands (c : Trial) (t : Stride) (past : List Stride) : Prop
  /-- A host is dialed. -/
  | dials {q : Pool} {refused : List HostKey} {lease : Lease} {addr : HostAddr}
    (tries : c.Tries refused q lease.host addr)
    (records : c.Records (t :: past) (lease.host :: refused) refused)
    (now_eq : t.now = c.now)
    (stage_eq : t.stage = .opening addr (.data c.round lease refused))
    (pool_eq : t.left.balancer.pool = (q.adjust lease.host 1).1)
  /-- A host has accepted and is examined. -/
  | checks {q : Pool} {held : Held} (tries : c.Tries held.refused q held.lease.host held.conn.addr)
    (accepts : c.accepts held.conn.addr = true)
    (records : c.Records (t :: past) (held.lease.host :: held.refused) held.refused)
    (stage_eq : t.stage = .awaitingTurn (.check c.round held) ∨
      t.stage = .querying (.check c.round held))
    (pool_eq : t.left.balancer.pool = (q.adjust held.lease.host 1).1)
  /-- A host has been found. -/
  | finds {q : Pool} {refused : List HostKey} {conn : Connection} {lease : Lease}
    (tries : c.Tries refused q lease.host conn.addr) (accepts : c.accepts conn.addr = true)
    (records : c.Records (t :: past) (lease.host :: refused) refused)
    (chosen : t.stage.chosen? = some (.ok (conn, lease)))
    (members_eq : t.left.balancer.pool.members = c.pool.members)
    (counts : ∀ (k : HostKey) (n : Nat), (q.adjust lease.host 1).1.counts[k]? = some n →
      t.left.balancer.pool.counts[k]? = some n)
    (settled : ∀ k, t.left.balancer.pool.isQuarantined k = true → q.isQuarantined k = true)
    (stays : t.now - c.now ≤ c.start.balancer.settings.failedHostTtl →
      ∀ k ∈ refused, t.left.balancer.pool.isQuarantined k = true)
  /-- Nobody is left to try. -/
  | nobody {q : Pool} {refused : List HostKey} (tried : c.Tried refused q)
    (records : c.Records (t :: past) refused refused) (nobody : q.select refused = [])
    (stage_eq : t.stage = .finished (.error (.clusterUnavailable .noCandidate)))
    (pool_eq : t.left.balancer.pool = q)

namespace Tries

variable {refused : List HostKey} {q : Pool} {host : HostKey} {addr : HostAddr}

theorem exists_best (h : c.Tries refused q host addr) : ∃ (d : Pool.Candidate) (m : PoolMember),
    d.host = host ∧ c.pool.members[host]? = some m ∧ m.addr = addr ∧
      d.Best (fun d => d ∈ c.pool.eligible [] ∧ d.host ∉ refused) := by
  obtain ⟨d, m, hd, hm, haddr, hbest⟩ := Pool.best_of_mem_select h.chosen
  rw [h.lost.members_eq] at hm
  exact ⟨d, m, hd, hm, haddr, hbest.mono (h.lost.mem_eligible.mp hbest.mem)
    fun d hd => h.lost.mem_eligible.mpr hd⟩

theorem not_mem (h : c.Tries refused q host addr) : host ∉ refused :=
  (Pool.of_mem_select h.chosen).1

theorem not_quarantined (h : c.Tries refused q host addr) : q.isQuarantined host = false := by
  have hs := (Pool.of_mem_select h.chosen).2.1
  simp only [Pool.isSelectable, Bool.and_eq_true, Bool.not_eq_true'] at hs
  exact hs.2

/-- A host that is tried and refuses. -/
theorem refuses_of (h : c.Tries refused q host addr) (ha : c.accepts addr = false) :
    c.Tried (host :: refused) ((q.adjust host 1).1.fail host c.now) where
  lost := h.lost.fail host
  refuses k hk := by
    rcases List.mem_cons.mp hk with rfl | hk
    · obtain ⟨d, m, hd, hm, rfl, hbest⟩ := h.exists_best
      exact ⟨⟨d, hbest.mem.1, hd⟩, m, hm, ha⟩
    · exact h.refuses k hk
  nodup := List.nodup_cons.mpr ⟨h.not_mem, h.nodup⟩

theorem nodup_cons (h : c.Tries refused q host addr) : (host :: refused).Nodup :=
  List.nodup_cons.mpr ⟨h.not_mem, h.nodup⟩

/-- The hosts tried are members. -/
theorem mem_of_mem_cons (h : c.Tries refused q host addr) {k : HostKey} (hk : k ∈ host :: refused) :
    k ∈ c.pool.members := by
  rcases List.mem_cons.mp hk with rfl | hk
  · obtain ⟨d, m, -, hm, -⟩ := h.exists_best
    exact Table.mem_iff_exists.mpr ⟨m, hm⟩
  · obtain ⟨-, m, hm, -⟩ := h.refuses k hk
    exact Table.mem_iff_exists.mpr ⟨m, hm⟩

/-- The host that is tried is a candidate. -/
theorem isSelectable (h : c.Tries refused q host addr) :
    (q.adjust host 1).1.isSelectable host = true := by
  have hs := (Pool.of_mem_select h.chosen).2.1
  simp only [Pool.isSelectable, Pool.isQuarantined_adjust, Pool.priorities_adjust,
    Bool.and_eq_true, Std.ExtTreeMap.contains_iff_mem, Pool.mem_counts_adjust] at hs ⊢
  exact hs

/-- Whoever is tracked is a member. -/
theorem mem_members (h : c.Tries refused q host addr) {defaultPort : UInt16}
    (v : c.pool.Valid defaultPort) {k : HostKey} {n : Nat}
    (hk : (q.adjust host 1).1.counts[k]? = some n) : k ∈ (q.adjust host 1).1.members := by
  have hq : k ∈ (q.adjust host 1).1.counts := Table.mem_iff_exists.mpr ⟨n, hk⟩
  rw [Pool.mem_counts_adjust, Std.ExtTreeMap.mem_iff_isSome_getElem?, h.lost.counts_eq] at hq
  split at hq
  · cases hq
  · rw [Pool.members_adjust, h.lost.members_eq]
    exact ((v.mem_counts_iff k).mp (Std.ExtTreeMap.mem_iff_isSome_getElem?.mpr hq)).1

end Tries

/-! ## A stride -/

theorem Records.cons {j : List Stride} {dialed refused refused' : List HostKey}
    (r : c.Records j dialed refused) (t : Stride)
    (hq : ∀ k, t.Quarantines k ∨ k ∈ refused ↔ k ∈ refused') :
    c.Records (t :: j) ((t.dials? c.round).toList ++ dialed) refused' where
  dials_eq := by
    cases hd : t.dials? c.round with
    | none => rw [dials_cons_of_none hd, r.dials_eq]; rfl
    | some host => rw [dials_cons hd, r.dials_eq]; rfl
  quarantines k := by
    rw [List.exists_mem_cons_iff, r.quarantines, hq]

/-- A stride that puts nobody in quarantine and dials nobody. -/
theorem Records.pass {j : List Stride} {dialed refused : List HostKey}
    (r : c.Records j dialed refused) (hd : t.dials? c.round = none)
    (hq : ∀ k, ¬t.Quarantines k) : c.Records (t :: j) dialed refused := by
  have hr := r.cons t fun k => or_iff_right (hq k)
  rwa [hd] at hr

/-- The search goes on after some hosts have refused. -/
theorem stands_of_search {s : Scene} {refused refused' : List HostKey}
    (tried : c.Tried refused' s.balancer.pool) (records : c.Records past refused' refused)
    (hq : ∀ k, (t.found.balancer.pool.isQuarantined k = false ∧
      s.balancer.pool.isQuarantined k = true) ∨ k ∈ refused ↔ k ∈ refused')
    (hs : s.reserveNext c.round refused' t.pick = (t.left, t.stage)) (hn : t.now = c.now) :
    c.Stands t past := by
  have hrecords : t.left.balancer.pool.quarantine = s.balancer.pool.quarantine →
      c.Records (t :: past) ((t.dials? c.round).toList ++ refused') refused' := by
    intro he
    refine records.cons t fun k => ?_
    rw [← hq k, Stride.Quarantines, Pool.isQuarantined, Pool.isQuarantined, Pool.isQuarantined, he]
  rcases s.reserveNext_cases c.round refused' t.pick with
    ⟨hnobody, he⟩ | ⟨host, addr, m, hchosen, -, -, -, hm, he⟩ <;> rw [he] at hs
  · obtain ⟨hleft, hstage⟩ := Prod.mk.inj hs
    have hr := hrecords (by rw [← hleft])
    have hd : t.dials? c.round = none := by rw [Stride.dials?, ← hstage]
    rw [hd] at hr
    exact .nobody tried hr hnobody hstage.symm (by rw [← hleft])
  · obtain ⟨hleft, hstage⟩ := Prod.mk.inj hs
    have hr := hrecords (by rw [← hleft, hm, Pool.quarantine_adjust])
    have hd : t.dials? c.round = some host := by simp [Stride.dials?, ← hstage]
    rw [hd] at hr
    have htries : c.Tries refused' s.balancer.pool (Lease.mk s.id host).host addr :=
      ⟨tried, hchosen⟩
    exact .dials htries hr hn hstage.symm (by rw [← hleft, hm])

/-- The host that was tried is not rejected. -/
theorem stands_of_check {s : Scene} {q : Pool} {held : Held} {ok : Bool}
    (tries : c.Tries held.refused q held.lease.host held.conn.addr)
    (accepts : c.accepts held.conn.addr = true)
    (records : c.Records past (held.lease.host :: held.refused) held.refused)
    (hs : s.refreshed c.caller t.pick ok (.check c.round held) = (t.left, t.stage))
    (hfound : ∀ k, q.isQuarantined k = true → t.found.balancer.pool.isQuarantined k = true)
    (selectable : s.balancer.pool.isSelectable held.lease.host = true)
    (members : s.balancer.pool.members = c.pool.members)
    (counts : ∀ (k : HostKey) (n : Nat), (q.adjust held.lease.host 1).1.counts[k]? = some n →
      s.balancer.pool.counts[k]? = some n)
    (settled : ∀ k, s.balancer.pool.isQuarantined k = true → q.isQuarantined k = true)
    (stays : t.now - c.now ≤ c.start.balancer.settings.failedHostTtl →
      ∀ k ∈ held.refused, s.balancer.pool.isQuarantined k = true) :
    c.Stands t past := by
  rw [s.refreshed_check selectable] at hs
  obtain ⟨hchosen, hpool⟩ := s.keep_chosen c.round held
  rw [hs] at hchosen hpool
  dsimp only at hchosen hpool
  rw [← hpool] at members counts settled stays
  have hd : t.dials? c.round = none := by
    unfold Stride.dials?
    split
    · rename_i hstage
      rw [hstage] at hchosen
      cases hchosen
    · rfl
  refine .finds tries accepts (records.pass hd fun k hk => ?_) hchosen members counts settled stays
  have hq := hfound k (settled k hk.2)
  rw [hk.1] at hq
  cases hq

/-- A host has refused, and another one is searched for. -/
theorem stands_of_refused {q : Pool} {refused : List HostKey} {lease : Lease} {addr : HostAddr}
    (tries : c.Tries refused q lease.host addr) (refuses : c.accepts addr = false)
    (records : c.Records past (lease.host :: refused) refused)
    (hs : ((t.found.count (.connectAttempt .failed)).failHost lease t.now).reserveNext c.round
      (lease.host :: refused) t.pick = (t.left, t.stage))
    (hfound : t.found.balancer.pool = (q.adjust lease.host 1).1) (hn : t.now = c.now) :
    c.Stands t past := by
  have htried := tries.refuses_of refuses
  have hfailed : ((t.found.count (.connectAttempt .failed)).failHost lease t.now).balancer.pool =
      (q.adjust lease.host 1).1.fail lease.host c.now := by
    rw [← hfound, ← hn]
    rfl
  have hout : ¬q.isQuarantined lease.host = true := by simp [tries.not_quarantined]
  rw [tries.lost.isQuarantined_iff, not_or] at hout
  refine stands_of_search (hfailed ▸ htried) records (fun k => ?_) hs hn
  rw [hfailed, htried.lost.isQuarantined_iff, hfound, Pool.isQuarantined_adjust,
    ← Bool.not_eq_true, tries.lost.isQuarantined_iff, List.mem_cons]
  by_cases hk : k = lease.host
  · subst hk
    simp [hout]
  · simp only [hk, false_or]
    exact ⟨fun h => h.elim (fun h => absurd h.2 h.1) id, .inr⟩

section Checks

variable {q : Pool} {held : Held}

/-- Nothing has changed since the host was reserved. -/
theorem stands_of_unchanged {s : Scene} {ok : Bool}
    (tries : c.Tries held.refused q held.lease.host held.conn.addr)
    (accepts : c.accepts held.conn.addr = true)
    (records : c.Records past (held.lease.host :: held.refused) held.refused)
    (hs : s.refreshed c.caller t.pick ok (.check c.round held) = (t.left, t.stage))
    (hfound : t.found.balancer.pool = (q.adjust held.lease.host 1).1)
    (hpool : s.balancer.pool = (q.adjust held.lease.host 1).1) : c.Stands t past := by
  refine stands_of_check tries accepts records hs (fun k hk => ?_) ?_ ?_ ?_ (fun k hk => ?_)
    fun _ k hk => ?_
  · rw [hfound, Pool.isQuarantined_adjust, hk]
  · rw [hpool]
    exact tries.isSelectable
  · rw [hpool, Pool.members_adjust, tries.lost.members_eq]
  · rw [hpool]
    exact fun _ _ h => h
  · rw [hpool, Pool.isQuarantined_adjust] at hk
    exact hk
  · rw [hpool, Pool.isQuarantined_adjust]
    exact (tries.lost.isQuarantined_iff k).mpr (.inl hk)

/-- The host that has accepted waits to be examined. -/
theorem stands_of_waiting (tries : c.Tries held.refused q held.lease.host held.conn.addr)
    (accepts : c.accepts held.conn.addr = true)
    (records : c.Records past (held.lease.host :: held.refused) held.refused)
    (hfound : t.found.balancer.pool = (q.adjust held.lease.host 1).1)
    (hpool : t.left.balancer.pool = t.found.balancer.pool)
    (hstage : t.stage = .awaitingTurn (.check c.round held) ∨
      t.stage = .querying (.check c.round held)) : c.Stands t past := by
  refine .checks tries accepts (records.pass ?_ fun k hk => ?_) hstage (hpool.trans hfound)
  · rcases hstage with he | he <;> rw [Stride.dials?, he]
  · rw [Stride.Quarantines, hpool] at hk
    rw [hk.1] at hk
    cases hk.2

/-- A host has accepted, and the topology is refreshed through its connection. -/
theorem stands_of_accepted (tries : c.Tries held.refused q held.lease.host held.conn.addr)
    (accepts : c.accepts held.conn.addr = true)
    (records : c.Records past (held.lease.host :: held.refused) held.refused)
    (hs : t.found.startRefresh c.caller t.now t.pick (.check c.round held) = (t.left, t.stage))
    (hfound : t.found.balancer.pool = (q.adjust held.lease.host 1).1) : c.Stands t past := by
  have hwaiting := stands_of_waiting tries accepts records hfound
  unfold Scene.startRefresh at hs
  rcases t.found.balancer.startRefresh_cases c.caller t.now with
    ⟨turn, -, -, he⟩ | ⟨-, -, -, he⟩ | ⟨-, he⟩ <;> rw [he] at hs <;> dsimp only at hs
  · obtain ⟨hleft, hstage⟩ := Prod.mk.inj hs
    exact hwaiting (by rw [← hleft]) (.inr hstage.symm)
  · obtain ⟨hleft, hstage⟩ := Prod.mk.inj hs
    exact hwaiting (by rw [← hleft]) (.inl hstage.symm)
  · exact stands_of_unchanged tries accepts records hs hfound hfound

/-- The turn to query has come. -/
theorem stands_of_turn (tries : c.Tries held.refused q held.lease.host held.conn.addr)
    (accepts : c.accepts held.conn.addr = true)
    (records : c.Records past (held.lease.host :: held.refused) held.refused)
    (hs : t.found.turnGranted c.caller t.now t.pick (.check c.round held) = (t.left, t.stage))
    (hfound : t.found.balancer.pool = (q.adjust held.lease.host 1).1) : c.Stands t past := by
  unfold Scene.turnGranted at hs
  rcases t.found.balancer.resumeRefresh_cases c.caller t.now with he | he <;> rw [he] at hs <;>
    dsimp only at hs
  · obtain ⟨hleft, hstage⟩ := Prod.mk.inj hs
    exact stands_of_waiting tries accepts records hfound (by rw [← hleft]) (.inr hstage.symm)
  · exact stands_of_unchanged tries accepts records hs hfound hfound

/-- The members at the start are those listed last. -/
structure Ready (c : Trial) : Prop where
  valid : c.start.balancer.Valid
  members_eq : c.pool.members =
    listing c.listed (c.pool.family.getD .privateAddress) c.start.balancer.settings.defaultPort

/-- The host that was tried answers with the members listed last. -/
theorem stands_of_answered (r : c.Ready)
    (tries : c.Tries held.refused q held.lease.host held.conn.addr)
    (accepts : c.accepts held.conn.addr = true)
    (records : c.Records past (held.lease.host :: held.refused) held.refused) {s : Scene}
    (hs : s.refreshed c.caller t.pick true (.check c.round held) = (t.left, t.stage))
    (hfound : t.found.balancer.pool = (q.adjust held.lease.host 1).1)
    (hpool : s.balancer.pool = ((q.adjust held.lease.host 1).1.apply
      ⟨c.listed, held.conn.addr.host⟩ c.start.balancer.rules t.now).1) : c.Stands t past := by
  obtain ⟨d, m, -, hm, haddr, -⟩ := tries.exists_best
  have hmember : (q.adjust held.lease.host 1).1.members[held.lease.host]? = some m := by
    rw [Pool.members_adjust, tries.lost.members_eq, hm]
  have hnext : (q.adjust held.lease.host 1).1.nextMembers ⟨c.listed, held.conn.addr.host⟩
      c.start.balancer.rules = (q.adjust held.lease.host 1).1.members := by
    rw [← haddr]
    refine Pool.nextMembers_of_member ?_ hmember
    rw [Pool.members_adjust, Pool.family_adjust, tries.lost.members_eq, tries.lost.family_eq]
    exact r.members_eq
  refine stands_of_check tries accepts records hs (fun k hk => ?_) ?_ ?_ (fun k n hn => ?_)
    (fun k hk => ?_) fun hlate k hk => ?_
  · rw [hfound, Pool.isQuarantined_adjust, hk]
  · rw [hpool]
    refine Pool.isSelectable_apply ?_ ?_
    · rw [hnext, Std.ExtTreeMap.mem_iff_isSome_getElem?, hmember]
      rfl
    · rw [Pool.isQuarantined_adjust, tries.not_quarantined]
  · rw [hpool, Pool.members_apply, hnext, Pool.members_adjust, tries.lost.members_eq]
  · rw [hpool]
    refine Pool.getElem?_counts_apply_of_tracked ?_ hn
    rw [hnext]
    exact tries.mem_members r.valid hn
  · by_contra hq
    rw [Bool.not_eq_true, ← Pool.isQuarantined_adjust] at hq
    rw [hpool, Pool.isQuarantined_apply_of_false hq] at hk
    cases hk
  · -- the host has failed in this trial and its stay is not over
    obtain ⟨⟨d, hd, hhost⟩, -⟩ := tries.refuses k hk
    have hout : c.pool.quarantine.since[k]? = none := by
      have hq := (Pool.mem_eligible.mp hd).2.1
      rw [hhost, Pool.isQuarantined, Quarantine.contains_eq, Option.isSome_eq_false_iff] at hq
      exact Option.isNone_iff_eq_none.mp hq
    have hsince : (q.adjust held.lease.host 1).1.quarantine.since[k]? = some c.now := by
      rw [Pool.quarantine_adjust, tries.lost.since_eq, if_pos hk, hout]
      rfl
    rw [hpool]
    refine Pool.isQuarantined_of_since (Pool.since_after hsince (e := .snapshot _ t.now) ?_)
    exact hlate

end Checks

/-! ## A whole trial -/

theorem Begins.stands (h : c.Begins t) : c.Stands t [] := by
  have hrecords : c.Records [] [] [] := ⟨rfl, by simp⟩
  refine stands_of_search (s := c.start) ⟨.refl _ _, by simp, List.nodup_nil⟩ hrecords
    (fun k => ?_) h.reserves h.now_eq
  rw [h.found_eq]
  cases c.start.balancer.pool.isQuarantined k <;> simp

theorem Begins.stays (h : c.Begins t) : c.start.Stays t.left := by
  have hr := h.reserves
  rcases c.start.reserveNext_cases c.round [] t.pick with
    ⟨-, he⟩ | ⟨host, addr, m, -, hm, -, -, -, he⟩ <;> rw [he] at hr
  · rw [← (Prod.mk.inj hr).1]
    exact .refl _
  · rwa [← (Prod.mk.inj hr).1]

/-- Every stride passes on how a trial stands. -/
theorem Stands.step (st : c.Stands last past) (r : c.Ready) (hs : c.start.Stays last.left)
    (h : c.Follows last t) : c.Stands t (last :: past) := by
  obtain ⟨arrival, hw, ha⟩ := h.arrives
  have hplays : t.found.proceed? c.caller t.now t.pick last.stage arrival =
      some (t.left, t.stage) := by
    have hp := h.plays
    rwa [Stride.Plays, hw] at hp
  cases st with
  | @dials q refused lease addr tries records now_eq stage_eq pool_eq =>
    have hnow : t.now = c.now := (h.now_eq _ _ stage_eq).trans now_eq
    have hfound : t.found.balancer.pool = (q.adjust lease.host 1).1 := by rw [h.found_eq, pool_eq]
    rw [stage_eq] at ha hplays
    cases arrival with
    | opened failure =>
      cases failure with
      | none =>
        have haccepts : c.accepts addr = true := (beq_iff_eq.mp ha).symm
        have htried : c.Tries (Held.mk lease { addr } refused).refused q lease.host addr := tries
        exact stands_of_accepted htried haccepts records (Option.some.inj hplays) hfound
      | some e =>
        have hrefuses : c.accepts addr = false := (beq_iff_eq.mp ha).symm
        exact stands_of_refused tries hrefuses records (Option.some.inj hplays) hfound hnow
    | _ => cases ha
  | @checks q held tries accepts records stage_eq pool_eq =>
    have hfound : t.found.balancer.pool = (q.adjust held.lease.host 1).1 := by
      rw [h.found_eq, pool_eq]
    have hsettings : t.found.balancer.rules = c.start.balancer.rules := by
      rw [h.found_eq, hs.rules_eq]
    rcases stage_eq with he | he <;> rw [he] at ha hplays
    · cases arrival with
      | turn => exact stands_of_turn tries accepts records (Option.some.inj hplays) hfound
      | _ => cases ha
    · cases arrival with
      | answered control answer =>
        simp only [arrives, Bool.and_eq_true, Bool.or_eq_true, beq_iff_eq, decide_eq_true_iff] at ha
        obtain ⟨rfl, hfailed | hlisted⟩ := ha
        · obtain ⟨e, rfl⟩ : ∃ e, answer = .error e := by
            cases answer with
            | ok rows => cases hfailed
            | error e => exact ⟨e, rfl⟩
          have hpart := Option.some.inj hplays
          rw [Scene.answered, Balancer.finishRefresh_error] at hpart
          exact stands_of_unchanged tries accepts records hpart hfound hfound
        · have hpart := Option.some.inj hplays
          rw [Scene.answered, Balancer.finishRefresh, hlisted] at hpart
          refine stands_of_answered r tries accepts records hpart hfound ?_
          rw [← hfound, ← hsettings]
          rfl
      | _ => cases ha
  | finds _ _ _ chosen =>
    rw [chosen?_of_arrives ha] at chosen
    cases chosen
  | nobody _ _ _ stage_eq =>
    have hn := chosen?_of_arrives ha
    rw [stage_eq] at hn
    cases hn

theorem Stands.members_eq (st : c.Stands t past) :
    t.left.balancer.pool.members = c.pool.members := by
  cases st with
  | dials tries _ _ _ pool_eq => rw [pool_eq, Pool.members_adjust, tries.lost.members_eq]
  | checks tries _ _ _ pool_eq => rw [pool_eq, Pool.members_adjust, tries.lost.members_eq]
  | finds _ _ _ _ members_eq => exact members_eq
  | nobody tried _ _ _ pool_eq => rw [pool_eq, tried.lost.members_eq]

/-- How a trial stands after every stride. -/
theorem Undisturbed.stands (r : c.Ready) (h : c.Undisturbed (t :: past)) :
    c.start.Stays t.left ∧ c.Stands t past := by
  induction h using along with
  | start t h => exact ⟨h.stays, h.stands⟩
  | next t last past j h ih =>
    have hlast := h.plays.later.toStays
    rw [h.found_eq] at hlast
    exact ⟨ih.1.trans hlast, ih.2.step r ih.1 h⟩

/-! ## The end of a trial -/

/-- What a trial that is not over has dialed so far. -/
theorem Stands.dialed (st : c.Stands t past) {arrival : Arrival}
    (ha : c.arrives t.stage arrival = true) :
    t.stage.balanced = true ∧ Wait.round (some (t.stage, arrival)) = c.round ∧
      t.stage.dialed.Nodup ∧ ∀ k ∈ t.stage.dialed, k ∈ c.pool.members := by
  cases st with
  | dials tries _ _ stage_eq =>
    rw [stage_eq]
    exact ⟨rfl, rfl, tries.nodup_cons, fun k hk => tries.mem_of_mem_cons hk⟩
  | checks tries _ _ stage_eq =>
    rcases stage_eq with he | he <;> rw [he] <;>
      exact ⟨rfl, rfl, tries.nodup_cons, fun k hk => tries.mem_of_mem_cons hk⟩
  | finds _ _ _ chosen =>
    rw [chosen?_of_arrives ha] at chosen
    cases chosen
  | nobody _ _ _ stage_eq =>
    have hn := chosen?_of_arrives ha
    rw [stage_eq] at hn
    cases hn

/-- The waits that are left fall. -/
theorem Follows.waitsLeft_lt (h : c.Follows last t) (hs : c.start.Stays last.left)
    (st : c.Stands last past) (st' : c.Stands t (last :: past)) :
    t.stage.waitsLeft c.round c.start.router.seeds.length c.pool.members.size <
      last.stage.waitsLeft c.round c.start.router.seeds.length c.pool.members.size := by
  obtain ⟨arrival, hw, ha⟩ := h.arrives
  obtain ⟨hbalanced, hround, hnodup, hmem⟩ := st.dialed ha
  have ho := h.plays.sequel
  have hear := Scene.Later.hear t.found c.caller t.now t.wait
  rw [hw] at ho hear
  have hcard : c.pool.members.keys.toFinset.card = c.pool.members.size := by
    rw [List.toFinset_card_of_nodup Std.ExtTreeMap.nodup_keys, Std.ExtTreeMap.length_keys]
  rw [← hs.seeds_eq, ← h.found_eq, ← hear.seeds_eq, ← hcard]
  refine ho.waitsLeft_lt (fun stage' arrival' he => ?_) (Nat.le_of_eq hround) hnodup
    (fun k hk => ?_) fun k hk => ?_
  · cases he
    exact hbalanced
  · rw [List.mem_toFinset, Std.ExtTreeMap.mem_keys]
    exact hmem k hk
  · rw [List.mem_toFinset, Std.ExtTreeMap.mem_keys, ← st'.members_eq]
    exact hk

/-- A trial is over after so many strides. -/
theorem Undisturbed.length_le (r : c.Ready) (h : c.Undisturbed (t :: past)) :
    (t :: past).length +
        t.stage.waitsLeft c.round c.start.router.seeds.length c.pool.members.size ≤
      4 * c.pool.members.size + c.start.router.seeds.length + 1 := by
  induction h using along with
  | start t h =>
    have hr := h.reserves
    rcases c.start.reserveNext_cases c.round [] t.pick with
      ⟨-, he⟩ | ⟨host, addr, m, hchosen, -, -, -, -, he⟩ <;> rw [he] at hr
    · rw [← (Prod.mk.inj hr).2]
      simp only [Stage.waitsLeft, List.length_singleton]
      omega
    · obtain ⟨-, -, pm, hpm, -⟩ := Pool.of_mem_select hchosen
      have hpos : 0 < c.pool.members.size := by
        rw [← Std.ExtTreeMap.length_keys]
        refine List.length_pos_of_mem (a := host) ?_
        exact Std.ExtTreeMap.mem_keys.mpr (Table.mem_iff_exists.mpr ⟨pm, hpm⟩)
      rw [← (Prod.mk.inj hr).2]
      simp only [Stage.waitsLeft, Stage.roundsLeft, Stage.round, Stage.dialed,
        List.length_singleton, Nat.sub_self, Nat.zero_mul]
      omega
  | next t last past j h ih =>
    have hstays := (Undisturbed.stands r j).1
    have hlt := h.waitsLeft_lt hstays (Undisturbed.stands r j).2 (Undisturbed.stands r (j.next h)).2
    rw [List.length_cons]
    omega

/-- A trial that is not over goes on when its wait is over. -/
theorem Undisturbed.exists_next (h : c.Undisturbed (t :: past)) {arrival : Arrival}
    (ha : c.arrives t.stage arrival = true) {now : Instant}
    (hn : ∀ addr purpose, t.stage = .opening addr purpose → now = t.now) (pick : Nat) :
    ∃ left stage, c.Undisturbed
      (⟨some (t.stage, arrival), t.left, now, pick, left, stage⟩ :: t :: past) := by
  obtain ⟨r, hr⟩ : ∃ r, t.left.proceed? c.caller now pick t.stage arrival = some r := by
    unfold arrives at ha
    split at ha
    · rename_i he
      rw [he]
      exact ⟨_, rfl⟩
    · rename_i he
      rw [he]
      exact ⟨_, rfl⟩
    · rename_i he
      rw [he]
      exact ⟨_, rfl⟩
    · cases ha
  exact ⟨r.1, r.2, .next h ⟨rfl, ⟨arrival, rfl, ha⟩, hn, hr⟩⟩

/-- A trial that is not over waits for something. -/
theorem Stands.exists_arrival (st : c.Stands t past) (hn : t.stage.chosen? = none) :
    ∃ arrival, c.arrives t.stage arrival = true := by
  cases st with
  | @dials _ _ _ addr _ _ _ stage_eq =>
    rw [stage_eq]
    cases ha : c.accepts addr with
    | true => exact ⟨.opened none, by simp [arrives, ha]⟩
    | false => exact ⟨.opened (some (.clusterUnavailable .noSeeds)), by simp [arrives, ha]⟩
  | @checks _ held _ _ _ stage_eq =>
    rcases stage_eq with he | he <;> rw [he]
    · exact ⟨.turn, rfl⟩
    · refine ⟨.answered held.conn.addr.host (.error (.clusterUnavailable .noSeeds)), ?_⟩
      simp [arrives, Except.isOk, Except.toBool]
  | finds _ _ _ chosen =>
    rw [hn] at chosen
    cases chosen
  | nobody _ _ _ stage_eq =>
    rw [stage_eq] at hn
    cases hn

/-! ## Whom a trial finds -/

/-- Who accepts has not refused. -/
theorem Tried.not_mem_of_good {refused : List HostKey} {q : Pool} (h : c.Tried refused q)
    {d : Pool.Candidate} (hd : c.Good d) : d.host ∉ refused := by
  intro hk
  obtain ⟨-, m, hm, ha⟩ := hd
  obtain ⟨-, m', hm', ha'⟩ := h.refuses _ hk
  cases hm.symm.trans hm'
  rw [ha] at ha'
  cases ha'

/-- The host that is found is the best of those that accept. -/
theorem Tries.best {refused : List HostKey} {q : Pool} {host : HostKey} {addr : HostAddr}
    (h : c.Tries refused q host addr) (ha : c.accepts addr = true) :
    ∃ d : Pool.Candidate, d.host = host ∧ d.Best c.Good ∧
      (c.pool.members[d.host]?).map (·.addr) = some addr ∧
      (q.adjust host 1).1.counts[host]? = some (addConnections d.count 1) := by
  obtain ⟨d, m, rfl, hm, rfl, hbest⟩ := h.exists_best
  refine ⟨d, rfl, hbest.mono ⟨hbest.mem.1, m, hm, ha⟩ fun d hd => ⟨hd.1, h.not_mem_of_good hd⟩,
    by rw [hm]; rfl, ?_⟩
  have hcount := (Pool.mem_eligible.mp hbest.mem.1).2.2.1
  rw [Pool.getElem?_counts_adjust, h.lost.counts_eq, if_neg h.not_mem, hcount]
  simp [changeCount]

/-- Nobody is left who accepts. -/
theorem Tried.not_good {refused : List HostKey} {q : Pool} (h : c.Tried refused q)
    (v : c.start.balancer.Valid) (hn : q.select refused = []) (d : Pool.Candidate) :
    ¬c.Good d := by
  intro hd
  have hmem := h.lost.mem_eligible.mpr ⟨hd.1, h.not_mem_of_good hd⟩
  refine Pool.select_ne_nil (List.ne_nil_of_mem hmem) (fun e he => ?_) hn
  rw [h.lost.members_eq]
  exact (Pool.Valid.exists_eligible_iff v |>.mp ⟨e, (h.lost.mem_eligible.mp he).1, rfl⟩).1

theorem Ready.of_run {events : List PoolEvent}
    (hr : c.pool = Pool.run c.start.balancer.rules events)
    (hl : c.listed = PoolEvent.lastListed events) : c.Ready where
  valid := by
    have hv : (Pool.run c.start.balancer.rules events).Valid c.start.balancer.rules.defaultPort :=
      Pool.Valid.foldl_after events Pool.Valid.empty
    rw [← hr] at hv
    exact hv
  members_eq := by
    rw [hr, hl]
    exact Pool.members_run c.start.balancer.rules events

/-- What a trial has come to. -/
structure Settles (c : Trial) (t : Stride) (past : List Stride)
    (result : Except RoutingError (Connection × Lease)) : Prop where
  /-- The best of the eligible hosts that accept, with one connection more. -/
  finds : ∀ conn lease, result = .ok (conn, lease) →
    ∃ d : Pool.Candidate, d.host = lease.host ∧ d.Best c.Good ∧
      (c.pool.members[d.host]?).map (·.addr) = some conn.addr ∧
      t.left.balancer.pool.count? lease.host = some (addConnections d.count 1)
  error_eq : ∀ e, result = .error e → e = .clusterUnavailable .noCandidate
  fails_iff : (∃ e, result = .error e) ↔ ∀ d, ¬c.Good d
  /-- Those that were dialed and refused were put in quarantine. -/
  quarantines : ∀ k, (∃ u ∈ t :: past, u.Quarantines k) ↔
    k ∈ dials (t :: past) c.round ∧ c.Refuses k
  /-- They are still there unless the query took longer than a stay. -/
  quarantined : t.now - c.now ≤ c.start.balancer.settings.failedHostTtl →
    ∀ k, c.pool.isQuarantined k = false ∧ t.left.balancer.pool.isQuarantined k = true ↔
      k ∈ dials (t :: past) c.round ∧ c.Refuses k
  counts : ∀ d ∈ c.pool.eligible [],
    (∀ conn lease, result = .ok (conn, lease) → d.host ≠ lease.host) →
      (¬∃ u ∈ t :: past, u.Quarantines d.host) →
        t.left.balancer.pool.count? d.host = some d.count

/-- Who has refused was eligible. -/
theorem Tried.not_quarantined {refused : List HostKey} {q : Pool} (h : c.Tried refused q)
    {k : HostKey} (hk : k ∈ refused) : c.pool.isQuarantined k = false := by
  obtain ⟨⟨d, hd, rfl⟩, -⟩ := h.refuses k hk
  exact (Pool.mem_eligible.mp hd).2.1

/-- The count of a host that has not refused. -/
theorem Tried.count_eq {refused : List HostKey} {q : Pool} (h : c.Tried refused q)
    {d : Pool.Candidate} (hd : d ∈ c.pool.eligible []) (hk : d.host ∉ refused) :
    q.counts[d.host]? = some d.count := by
  rw [h.lost.counts_eq, if_neg hk]
  exact (Pool.mem_eligible.mp hd).2.2.1

theorem settles_of_finds {refused : List HostKey} {q : Pool} {conn : Connection} {lease : Lease}
    (tries : c.Tries refused q lease.host conn.addr) (accepts : c.accepts conn.addr = true)
    (records : c.Records (t :: past) (lease.host :: refused) refused)
    (counts : ∀ (k : HostKey) (n : Nat), (q.adjust lease.host 1).1.counts[k]? = some n →
      t.left.balancer.pool.counts[k]? = some n)
    (settled : ∀ k, t.left.balancer.pool.isQuarantined k = true → q.isQuarantined k = true)
    (stays : t.now - c.now ≤ c.start.balancer.settings.failedHostTtl →
      ∀ k ∈ refused, t.left.balancer.pool.isQuarantined k = true) :
    c.Settles t past (.ok (conn, lease)) := by
  obtain ⟨d, hd, hbest, haddr, hcount⟩ := tries.best accepts
  have hrefused : ∀ k, k ∈ dials (t :: past) c.round ∧ c.Refuses k ↔ k ∈ refused := by
    intro k
    rw [records.dials_eq, List.mem_cons]
    refine ⟨fun ⟨hk, hrefuses⟩ => hk.resolve_left ?_, fun hk => ⟨.inr hk, tries.refuses k hk⟩⟩
    rintro rfl
    obtain ⟨-, m, hm, ha⟩ := hrefuses
    rw [hd, hm] at haddr
    rw [show m.addr = conn.addr from Option.some.inj haddr, accepts] at ha
    cases ha
  refine ⟨fun conn' lease' he => ?_, (fun e he => by cases he), ⟨?_, ?_⟩, fun k => ?_,
    fun hlate k => ?_, fun e he hne hnq => ?_⟩
  · cases he
    exact ⟨d, hd, hbest, haddr, counts _ _ hcount⟩
  · rintro ⟨e, he⟩
    cases he
  · exact fun hn => absurd hbest.mem (hn d)
  · rw [records.quarantines, hrefused]
  · rw [hrefused]
    refine ⟨fun ⟨hout, hin⟩ => ?_, fun hk => ⟨tries.toTried.not_quarantined hk, stays hlate k hk⟩⟩
    refine ((tries.lost.isQuarantined_iff k).mp (settled k hin)).resolve_right fun hq => ?_
    rw [hout] at hq
    cases hq
  · rw [records.quarantines] at hnq
    refine counts _ _ ?_
    rw [Pool.getElem?_counts_adjust, if_neg fun hk => hne _ _ rfl hk.1.symm]
    exact tries.toTried.count_eq he hnq

theorem settles_of_nobody {refused : List HostKey} (v : c.start.balancer.Valid)
    (tried : c.Tried refused t.left.balancer.pool) (records : c.Records (t :: past) refused refused)
    (nobody : t.left.balancer.pool.select refused = []) :
    c.Settles t past (.error (.clusterUnavailable .noCandidate)) := by
  have hrefused : ∀ k, k ∈ dials (t :: past) c.round ∧ c.Refuses k ↔ k ∈ refused := by
    intro k
    rw [records.dials_eq]
    exact ⟨And.left, fun hk => ⟨hk, tried.refuses k hk⟩⟩
  refine ⟨(fun conn lease he => by cases he), (fun e he => by cases he; rfl),
    ⟨fun _ => tried.not_good v nobody, fun _ => ⟨_, rfl⟩⟩, fun k => ?_, fun _ k => ?_,
    fun d hd _ hnq => ?_⟩
  · rw [records.quarantines, hrefused]
  · rw [hrefused, tried.lost.isQuarantined_iff]
    refine ⟨fun ⟨hout, hin⟩ => hin.resolve_right fun hq => ?_,
      fun hk => ⟨tried.not_quarantined hk, .inl hk⟩⟩
    rw [hout] at hq
    cases hq
  · rw [records.quarantines] at hnq
    exact tried.count_eq hd hnq

/-- **Failover.** On every balancer that can be reached, with every address settled to accept or to
refuse, the search for a host in a round that nobody disturbs is over after so many strides. It
finds the best of the eligible hosts that accept, by priority and then by connections, and counts
a connection against it, up to the largest count; it fails exactly if none accepts. The hosts put
in quarantine are those that were dialed and refused, and all other eligible hosts keep their
counts. -/
theorem fails_over {events : List PoolEvent}
    (hr : c.pool = Pool.run c.start.balancer.rules events)
    (hl : c.listed = PoolEvent.lastListed events) (h : c.Undisturbed (t :: past)) :
    (t :: past).length ≤ 4 * c.pool.members.size + c.start.router.seeds.length + 1 ∧
    (t.stage.chosen? = none → (∃ arrival, c.arrives t.stage arrival = true) ∧
      ∀ arrival, c.arrives t.stage arrival = true → ∀ now pick,
        (∀ addr purpose, t.stage = .opening addr purpose → now = t.now) →
          ∃ left stage, c.Undisturbed
            (⟨some (t.stage, arrival), t.left, now, pick, left, stage⟩ :: t :: past)) ∧
    ∀ result, t.stage.chosen? = some result → c.Settles t past result := by
  have ready := Ready.of_run hr hl
  obtain ⟨-, st⟩ := h.stands ready
  refine ⟨Nat.le_trans (Nat.le_add_right ..) (h.length_le ready), fun hn =>
    ⟨st.exists_arrival hn, fun arrival ha now pick hnow => h.exists_next ha hnow pick⟩,
    fun result hresult => ?_⟩
  cases st with
  | dials _ _ _ stage_eq =>
    rw [stage_eq] at hresult
    cases hresult
  | checks _ _ _ stage_eq => rcases stage_eq with he | he <;> rw [he] at hresult <;> cases hresult
  | finds tries accepts records chosen _ counts settled stays =>
    cases hresult.symm.trans chosen
    exact settles_of_finds tries accepts records counts settled stays
  | nobody tried records nobody stage_eq pool_eq =>
    rw [stage_eq] at hresult
    cases hresult
    subst pool_eq
    exact settles_of_nobody ready.valid tried records nobody

/-! ## Trials replayed -/

/-- A trial goes on for as long as what it waits for arrives. -/
def replay (c : Trial) : List Arrival → List Stride → List Stride
  | arrival :: arrivals, last :: past =>
    if c.arrives last.stage arrival then
      match last.left.proceed? c.caller last.now 0 last.stage arrival with
      | some (left, stage) =>
        c.replay arrivals
          (⟨some (last.stage, arrival), last.left, last.now, 0, left, stage⟩ :: last :: past)
      | none => last :: past
    else last :: past
  | _, j => j

/-- A trial from its start. -/
def replayFrom (c : Trial) (arrivals : List Arrival) : List Stride :=
  let (left, stage) := c.start.reserveNext c.round [] 0
  c.replay arrivals [⟨none, c.start, c.now, 0, left, stage⟩]

theorem undisturbed_replay (arrivals : List Arrival) :
    ∀ {j : List Stride}, c.Undisturbed j → c.Undisturbed (c.replay arrivals j) := by
  induction arrivals with
  | nil =>
    intro j h
    cases j <;> exact h
  | cons arrival arrivals ih =>
    intro j h
    match j, h with
    | last :: past, h =>
      unfold replay
      split
      · rename_i ha
        cases hr : last.left.proceed? c.caller last.now 0 last.stage arrival with
        | none => exact h
        | some r => exact ih (.next h ⟨rfl, ⟨arrival, rfl, ha⟩, fun _ _ _ => rfl, hr⟩)
      · exact h

theorem undisturbed_replayFrom (c : Trial) (arrivals : List Arrival) :
    c.Undisturbed (c.replayFrom arrivals) :=
  undisturbed_replay arrivals (.start ⟨rfl, rfl, rfl, rfl⟩)

/-- What has happened to a balancer of three hosts, of which `b` has a connection. -/
def threeHosts : List PoolEvent :=
  [.snapshot ⟨[.ofHost "a", .ofHost "b", .ofHost "c"], "a"⟩ 0, .adjust "b" 1]

/-- The search for one of three hosts, of which `a` refuses. -/
def firstRefuses : Trial where
  caller := 0
  round := 1
  start :=
    { router := { seeds := [⟨"a", standardPort⟩], connectSecs := 5, balancer := some 0 }
      id := 0
      balancer := { preference := none, settings := {}, pool := Pool.run {} threeHosts }
      ledger := {} }
  now := 1
  accepts addr := addr.host != "a"
  listed := PoolEvent.lastListed threeHosts

/-- After the refusal the query of the check fails. -/
def firstRefusesStrides : List Stride :=
  firstRefuses.replayFrom [.opened (some (.nodeUnreachable "a" .refused)), .opened none,
    .answered "c" (.error (.topologyQuery .refused))]

/-- The refusal puts `a` in quarantine, and `c` is preferred to `b`, which has a connection. -/
theorem fails_over_firstRefuses :
    firstRefuses.pool = Pool.run firstRefuses.start.balancer.rules threeHosts ∧
    firstRefuses.listed = PoolEvent.lastListed threeHosts ∧
    ∃ t past, firstRefusesStrides = t :: past ∧ firstRefuses.Undisturbed (t :: past) ∧
      t.stage.chosen? = some (.ok ({ addr := ⟨"c", standardPort⟩ }, ⟨0, "c"⟩)) ∧
      (∃ d : Pool.Candidate, d.host = "c" ∧ d.Best firstRefuses.Good) ∧
      (∃ u ∈ t :: past, u.Quarantines "a") ∧ ¬∃ u ∈ t :: past, u.Quarantines "b" := by
  have hj : firstRefuses.Undisturbed firstRefusesStrides := undisturbed_replayFrom firstRefuses _
  have hend : firstRefusesStrides.head?.map (·.stage.chosen?) =
      some (some (.ok ({ addr := ⟨"c", standardPort⟩ }, ⟨0, "c"⟩))) := by decide +kernel
  have hdials : dials firstRefusesStrides firstRefuses.round = ["c", "a"] := by decide +kernel
  generalize firstRefusesStrides = j at hj hend hdials ⊢
  obtain - | ⟨t, past⟩ := j
  · cases hend
  have hchosen := Option.some.inj hend
  have hsettles := (fails_over rfl rfl hj).2.2 _ hchosen
  have hrefuses : firstRefuses.Refuses "a" := by
    refine ⟨⟨⟨"a", 0, .tier 1⟩, ?_, rfl⟩, ⟨⟨"a", standardPort⟩, ⟨"", "", ""⟩⟩, ?_, ?_⟩ <;>
      decide +kernel
  obtain ⟨d, hd, hbest, -⟩ := hsettles.finds _ _ rfl
  refine ⟨rfl, rfl, t, past, rfl, hj, hchosen, ⟨d, hd, hbest⟩, ?_, ?_⟩
  · rw [hsettles.quarantines, hdials]
    exact ⟨by decide, hrefuses⟩
  · rw [hsettles.quarantines, hdials]
    rintro ⟨hb, -⟩
    revert hb
    decide

/-- What has happened to a balancer of one host that has as many connections as can be counted. -/
def fullHost : List PoolEvent :=
  [.snapshot ⟨[.ofHost "a"], "a"⟩ 0, .adjust "a" Text.maxSigned, .adjust "a" Text.maxSigned,
    .adjust "a" 1]

/-- The search for the only host, which accepts. -/
def fullTrial : Trial where
  caller := 0
  round := 1
  start :=
    { router := { seeds := [⟨"a", standardPort⟩], connectSecs := 5, balancer := some 0 }
      id := 0
      balancer := { preference := none, settings := {}, pool := Pool.run {} fullHost }
      ledger := {} }
  now := 1
  accepts _ := true
  listed := PoolEvent.lastListed fullHost

/-- The largest count gets no higher: the host that is found has the connections that it had. -/
theorem fullTrial_count_same : ∃ t past,
    fullTrial.Undisturbed (t :: past) ∧
    fullTrial.pool = Pool.run fullTrial.start.balancer.rules fullHost ∧
    fullTrial.listed = PoolEvent.lastListed fullHost ∧
    t.stage.chosen? = some (.ok ({ addr := ⟨"a", standardPort⟩ }, ⟨0, "a"⟩)) ∧
    fullTrial.pool.count? "a" = some Text.maxUnsigned ∧
    t.left.balancer.pool.count? "a" ≠ some (Text.maxUnsigned + 1) := by
  have hj := undisturbed_replayFrom fullTrial [.opened none]
  have hend : (fullTrial.replayFrom [.opened none]).head?.map
      (fun t => (t.stage.chosen?, t.left.balancer.pool.count? "a")) =
      some (some (.ok ({ addr := ⟨"a", standardPort⟩ }, ⟨0, "a"⟩)), some Text.maxUnsigned) := by
    decide +kernel
  generalize fullTrial.replayFrom [.opened none] = j at hj hend
  obtain - | ⟨t, past⟩ := j
  · cases hend
  simp only [List.head?_cons, Option.map_some, Option.some.injEq, Prod.mk.injEq] at hend
  refine ⟨t, past, hj, rfl, rfl, hend.1, by decide +kernel, ?_⟩
  rw [hend.2]
  decide

end Trial

end ConnectionRouter
