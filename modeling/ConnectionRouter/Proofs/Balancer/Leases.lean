import ConnectionRouter.Balancer.Alone
import ConnectionRouter.Proofs.Balancer.Validity
import ConnectionRouter.Proofs.Table
import Mathlib.Algebra.Group.Nat.Defs
import Mathlib.Data.List.Induction
import Mathlib.Logic.Function.Basic

/-!
# Leases and tracked counts

A balancer by itself goes through a list of events: leases are taken and given back, snapshots come
in, hosts fail, the clock moves (`LoneBalancer.run`). A failure forgets the count of its host, and
with it the unit of every lease on the host that is out. Such a lease has lapsed; the others are
current (`LeaseHistory`).

One event moves the tracked count of a host, its current leases and all its leases in one of five
ways (`Moves`, `moves_after`). From these follow by induction over the events:

* the tracked count never exceeds the current leases (`books_le`);
* it equals them while no lapsed lease is given back at a positive count
  (`Undisturbed.count_eq`).
-/

namespace ConnectionRouter

/-- What happens to a balancer whose leases are known by names. -/
inductive LeaseEvent
  /-- A lease is taken; `pick` breaks a tie. -/
  | reserve (name : String) (excluding : List HostKey) (pick : Nat)
  | release (name : String)
  /-- Any members at all are listed. -/
  | snapshot (s : Snapshot)
  /-- A call of refresh, at whatever stage it stands, takes its next step. -/
  | refresh (call : RefreshCall)
  | markFailed (host : HostKey)
  | forceRefresh
  | advance (duration : Duration)

def LeaseEvent.isReserve : LeaseEvent → Bool
  | .reserve .. => true
  | _ => false

namespace LoneBalancer

def fresh (preference : Option Preference) (settings : BalancerSettings) : LoneBalancer where
  balancer := { preference, settings }

def applySnapshot (l : LoneBalancer) (s : Snapshot) : LoneBalancer :=
  { l with balancer := l.balancer.applySnapshot s l.now }

/-- The balancer after an event. A name that is in use is not given to another lease. -/
def after (l : LoneBalancer) : LeaseEvent → LoneBalancer
  | .reserve name excluding pick =>
    if l.leases.contains name then l else (l.reserve name excluding pick).1
  | .release name => (l.release name).1
  | .snapshot s => l.applySnapshot s
  | .refresh call => ((l.resume? call).map (·.1)).getD l
  | .markFailed host => l.markFailed host
  | .forceRefresh => l.forceRefresh
  | .advance duration => { l with now := l.now + duration }

/-- A fresh balancer after a list of events. -/
def run (preference : Option Preference) (settings : BalancerSettings)
    (events : List LeaseEvent) : LoneBalancer :=
  events.foldl after (fresh preference settings)

/-- The leases on a host that are out. -/
def leasesOn (l : LoneBalancer) (host : HostKey) : Nat :=
  l.leases.sumBy fun _ h => if h = host then 1 else 0

/-- The connections counted against a host. -/
def countOf (l : LoneBalancer) (host : HostKey) : Nat := l.balancer.pool.countOf host

/-! ## The parts of an event -/

@[simp] theorem leases_giveBack (l : LoneBalancer) (host : HostKey) :
    (l.giveBack host).leases = l.leases := rfl

theorem release_of_getElem? {l : LoneBalancer} {name : String} {host : HostKey}
    (h : l.leases[name]? = some host) :
    (l.release name).1 = { l with leases := l.leases.erase name }.giveBack host := by
  simp [release, h]

@[simp] theorem leases_release (l : LoneBalancer) (name : String) :
    (l.release name).1.leases = l.leases.erase name := by
  cases h : l.leases[name]? with
  | none => simp [release, h, Table.erase_of_getElem?_eq_none h]
  | some host => rw [release_of_getElem? h, leases_giveBack]

/-- A lease that is given back takes a connection from the count of its host. -/
theorem countOf_release {l : LoneBalancer} (hv : l.balancer.Valid) {name : String} {host : HostKey}
    (h : l.leases[name]? = some host) (k : HostKey) :
    (l.release name).1.countOf k = if host = k then l.countOf k - 1 else l.countOf k := by
  rw [release_of_getElem? h]
  exact Pool.Valid.countOf_release hv host k

/-- A lease under a free name is taken on a host to which a connection is added, or there is no
candidate. -/
theorem reserve_cases {l : LoneBalancer} {name : String} (h : l.leases[name]? = none)
    (excluding : List HostKey) (pick : Nat) :
    (l.reserve name excluding pick).1 = l ∨
      ∃ host, (l.reserve name excluding pick).1.leases = l.leases.insert name host ∧
        (l.reserve name excluding pick).1.balancer = (l.balancer.reserve excluding pick).1 ∧
        ∀ k, (l.reserve name excluding pick).1.countOf k =
          if host = k then addConnections (l.countOf k) 1 else l.countOf k := by
  rcases Pool.countOf_reserve l.balancer.pool excluding pick with he | ⟨host, addr, he, hc⟩
  · exact .inl (by simp [reserve, Balancer.reserve, he])
  · refine .inr ⟨host, ?_⟩
    have hr : (l.reserve name excluding pick).1 =
        { l.update (l.balancer.reserve excluding pick).1
            (l.balancer.reserve excluding pick).2.2 with
          leases := l.leases.insert name host } := by
      simp [reserve, Balancer.reserve, he, h]
    rw [hr]
    exact ⟨rfl, rfl, hc⟩

/-- A step of a refresh gives the pool a snapshot or leaves it alone, and takes no lease. -/
theorem resume?_cases {l l' : LoneBalancer} {c c' : RefreshCall}
    (h : l.resume? c = some (l', c')) :
    l'.leases = l.leases ∧ ∃ turn, l'.balancer = { l.balancer with turn := turn } ∨
      ∃ s, l'.balancer = { l.balancer.applySnapshot s l.now with turn := turn } := by
  unfold resume? at h
  split at h
  · cases h
    obtain ⟨turn, ht⟩ := l.balancer.startRefresh_eq c.caller l.now
    exact ⟨rfl, turn, .inl ht⟩
  · split at h
    · cases h
      obtain ⟨turn, ht⟩ := l.balancer.resumeRefresh_eq c.caller l.now
      exact ⟨rfl, turn, .inl ht⟩
    · cases h
  · split at h
    · cases h
    · split at h
      · cases h
      · cases h
        exact ⟨rfl, l.balancer.finishRefresh_eq c.caller l.now c.control c.answer⟩
  · cases h

theorem valid_after {l : LoneBalancer} (h : l.balancer.Valid) (e : LeaseEvent) :
    (l.after e).balancer.Valid := by
  cases e with
  | reserve name excluding pick =>
    simp only [after]
    split
    · exact h
    · rename_i hn
      have hn' : l.leases[name]? = none := Std.ExtTreeMap.getElem?_eq_none (by simpa using hn)
      rcases reserve_cases hn' excluding pick with he | ⟨host, -, hb, -⟩
      · rwa [he]
      · rw [hb]
        exact h.reserve excluding pick
  | release name =>
    simp only [after, release]
    split
    · exact h
    · exact h.release _
  | snapshot s => exact h.applySnapshot s l.now
  | refresh call =>
    simp only [after]
    cases hr : l.resume? call with
    | none => exact h
    | some r =>
      obtain ⟨-, turn, hb | ⟨s, hb⟩⟩ := resume?_cases hr
      · simpa [hb] using h.withTurn turn
      · simpa [hb] using (h.applySnapshot s l.now).withTurn turn
  | markFailed host => exact h.markFailed host l.now
  | forceRefresh => exact h.forceRefresh
  | advance duration => exact h

theorem run_append (preference : Option Preference) (settings : BalancerSettings)
    (events : List LeaseEvent) (e : LeaseEvent) :
    run preference settings (events ++ [e]) = (run preference settings events).after e := by
  simp [run]

theorem valid_run (preference : Option Preference) (settings : BalancerSettings)
    (events : List LeaseEvent) : (run preference settings events).balancer.Valid := by
  induction events using List.reverseRecOn with
  | nil => exact Balancer.Valid.fresh preference settings
  | append_singleton events e ih =>
    rw [run_append]
    exact valid_after ih e

end LoneBalancer

/-- A balancer by itself with the names of the leases that have lapsed: their host failed while
they were out. -/
structure LeaseHistory where
  lone : LoneBalancer
  lapsed : String → Bool := fun _ => false

namespace LeaseHistory

/-- The history after an event. -/
def after (t : LeaseHistory) (e : LeaseEvent) : LeaseHistory where
  lone := t.lone.after e
  lapsed := match e with
    | .reserve name .. =>
      if t.lone.leases.contains name then t.lapsed else Function.update t.lapsed name false
    | .markFailed host => fun name => t.lapsed name || t.lone.leases[name]? == some host
    | _ => t.lapsed

/-- The history of a fresh balancer. -/
def run (preference : Option Preference) (settings : BalancerSettings)
    (events : List LeaseEvent) : LeaseHistory :=
  events.foldl after { lone := .fresh preference settings }

/-- The leases on a host that are out and have not lapsed. -/
def currentOn (t : LeaseHistory) (host : HostKey) : Nat :=
  t.lone.leases.sumBy fun name h => if h = host ∧ t.lapsed name = false then 1 else 0

variable (preference : Option Preference) (settings : BalancerSettings)

theorem run_append (events : List LeaseEvent) (e : LeaseEvent) :
    run preference settings (events ++ [e]) = (run preference settings events).after e := by
  simp [run]

theorem lone_run (events : List LeaseEvent) :
    (run preference settings events).lone = LoneBalancer.run preference settings events := by
  induction events using List.reverseRecOn with
  | nil => rfl
  | append_singleton events e ih =>
    rw [run_append, LoneBalancer.run_append, ← ih]
    rfl

/-! ## One event and one host -/

/-- What the books say of a host. -/
structure Books where
  count : Nat
  current : Nat
  leases : Nat

/-- The tracked count of a host, its current leases and all its leases. -/
def books (t : LeaseHistory) (host : HostKey) : Books where
  count := t.lone.countOf host
  current := t.currentOn host
  leases := t.lone.leasesOn host

/-- How an event moves the books of a host. -/
inductive Moves (t : LeaseHistory) (host : HostKey) : LeaseEvent → Books → Books → Prop
  | rest {e : LeaseEvent} {b : Books} : Moves t host e b b
  | taken {name : String} {excluding : List HostKey} {pick c u n : Nat} :
    Moves t host (.reserve name excluding pick) ⟨c, u, n⟩ ⟨addConnections c 1, u + 1, n + 1⟩
  | returned {name : String} {c u n : Nat} :
    Moves t host (.release name) ⟨c, u + 1, n + 1⟩ ⟨c - 1, u, n⟩
  /-- A lapsed lease is given back: the count falls, though the unit of the lease is gone. -/
  | lapsedReturned {name : String} {c u n : Nat} (lease : t.lone.leases[name]? = some host)
      (lapsed : t.lapsed name = true) : Moves t host (.release name) ⟨c, u, n + 1⟩ ⟨c - 1, u, n⟩
  | failed {c u n : Nat} : Moves t host (.markFailed host) ⟨c, u, n⟩ ⟨0, 0, n⟩

/-- An event that leaves leases, tracked counts and marks alone moves no books. -/
theorem Moves.of_eq (t t' : LeaseHistory) (hl : t'.lone.leases = t.lone.leases)
    (hc : ∀ k, t'.lone.countOf k = t.lone.countOf k) (ht : t'.lapsed = t.lapsed)
    (host : HostKey) (e : LeaseEvent) : Moves t host e (t.books host) (t'.books host) := by
  have hb : t'.books host = t.books host := by
    simp only [books, hc, currentOn, hl, ht, LoneBalancer.leasesOn]
  rw [hb]
  exact .rest

theorem moves_reserve (t : LeaseHistory) (host : HostKey) (name : String)
    (excluding : List HostKey) (pick : Nat) :
    Moves t host (.reserve name excluding pick) (t.books host)
      ((t.after (.reserve name excluding pick)).books host) := by
  by_cases hn : t.lone.leases.contains name
  · refine .of_eq t (t.after _) ?_ ?_ ?_ host _ <;> simp [after, LoneBalancer.after, hn]
  · have hn' : t.lone.leases[name]? = none := Std.ExtTreeMap.getElem?_eq_none (by simpa using hn)
    -- the name is free, so its mark touches no lease that is out
    have hcur : ∀ host, t.lone.leases.sumBy (fun name' h => if h = host ∧
        Function.update t.lapsed name false name' = false then 1 else 0) = t.currentOn host := by
      intro host
      refine Table.sumBy_congr fun name' h hh => ?_
      have hne : name' ≠ name := by
        rintro rfl
        rw [hn'] at hh
        cases hh
      rw [Function.update_of_ne hne]
    have hl : (t.after (.reserve name excluding pick)).lone =
        (t.lone.reserve name excluding pick).1 := by simp [after, LoneBalancer.after, hn]
    have ht : (t.after (.reserve name excluding pick)).lapsed =
        Function.update t.lapsed name false := by simp [after, hn]
    rcases LoneBalancer.reserve_cases hn' excluding pick with he | ⟨g, hleases, -, hc⟩
    · have hb : (t.after (.reserve name excluding pick)).books host = t.books host := by
        simp only [books, currentOn, hl, ht, he, hcur]
      rw [hb]
      exact .rest
    · have hb : (t.after (.reserve name excluding pick)).books host =
          ⟨if g = host then addConnections (t.lone.countOf host) 1 else t.lone.countOf host,
            (if g = host then 1 else 0) + t.currentOn host,
            (if g = host then 1 else 0) + t.lone.leasesOn host⟩ := by
        simp only [books, currentOn, LoneBalancer.leasesOn, hl, ht, hleases, hc,
          Table.sumBy_insert_of_none _ hn', hcur, Function.update_self, and_true]
      rw [hb]
      by_cases hg : g = host
      · simp only [hg, if_true, Nat.add_comm 1]
        exact .taken
      · simp only [hg, if_false, Nat.zero_add]
        exact .rest

/-- A lease that is given back is current no more; if it has lapsed, it was not current before. -/
theorem currentOn_release {t : LeaseHistory} {name : String} {g : HostKey}
    (h : t.lone.leases[name]? = some g) (host : HostKey) :
    (if g = host ∧ t.lapsed name = false then 1 else 0) +
      (t.after (.release name)).currentOn host = t.currentOn host := by
  rw [currentOn, show (t.after (.release name)).lone = (t.lone.release name).1 from rfl,
    LoneBalancer.leases_release]
  exact Table.sumBy_erase_add (fun name h => if h = host ∧ t.lapsed name = false then 1 else 0) h

theorem moves_release {t : LeaseHistory} (h : t.lone.balancer.Valid) (host : HostKey)
    (name : String) :
    Moves t host (.release name) (t.books host) ((t.after (.release name)).books host) := by
  cases hn : t.lone.leases[name]? with
  | none =>
    refine .of_eq t (t.after _) ?_ ?_ ?_ host _ <;>
      simp [after, LoneBalancer.after, LoneBalancer.release, hn]
  | some g =>
    have hc := LoneBalancer.countOf_release h hn host
    have hn1 : (if g = host then 1 else 0) + (t.lone.release name).1.leasesOn host =
        t.lone.leasesOn host := by
      rw [LoneBalancer.leasesOn, LoneBalancer.leases_release]
      exact Table.sumBy_erase_add (fun _ h => if h = host then 1 else 0) hn
    have hu1 := currentOn_release hn host
    have hb : (t.after (.release name)).books host =
        ⟨(t.lone.release name).1.countOf host, (t.after (.release name)).currentOn host,
          (t.lone.release name).1.leasesOn host⟩ := rfl
    rw [hb, books, hc, ← hn1, ← hu1]
    by_cases hg : g = host
    · subst hg
      cases hl : t.lapsed name with
      | false =>
        simp only [true_and, if_true, Nat.add_comm 1]
        exact .returned
      | true =>
        simp only [if_true, Nat.add_comm 1, and_false, Bool.true_eq_false, if_false, Nat.zero_add]
        exact .lapsedReturned hn hl
    · simp only [hg, false_and, if_false, Nat.zero_add]
      exact .rest

theorem moves_markFailed (t : LeaseHistory) (host g : HostKey) :
    Moves t host (.markFailed g) (t.books host) ((t.after (.markFailed g)).books host) := by
  have hc : (t.lone.markFailed g).countOf host = if g = host then 0 else t.lone.countOf host :=
    Pool.countOf_markFailed ..
  have hu : (t.after (.markFailed g)).currentOn host =
      if g = host then 0 else t.currentOn host := by
    split
    · rename_i hg
      subst hg
      rw [← Table.sumBy_zero t.lone.leases]
      refine Table.sumBy_congr fun name h hh => ?_
      have hh : t.lone.leases[name]? = some h := hh
      by_cases hg : h = g <;> simp [after, hh, hg]
    · rename_i hg
      refine Table.sumBy_congr fun name h hh => ?_
      have hh : t.lone.leases[name]? = some h := hh
      by_cases hh' : h = host
      · simp [after, hh, hh', Ne.symm hg]
      · simp [hh']
  have hb : (t.after (.markFailed g)).books host =
      ⟨(t.lone.markFailed g).countOf host, (t.after (.markFailed g)).currentOn host,
        t.lone.leasesOn host⟩ := rfl
  rw [hb, hc, hu]
  by_cases hg : g = host
  · subst hg
    simp only [if_true]
    exact .failed
  · simp only [hg, if_false]
    exact .rest

theorem countOf_refresh (l : LoneBalancer) (call : RefreshCall) (k : HostKey) :
    (l.after (.refresh call)).countOf k = l.countOf k := by
  simp only [LoneBalancer.after]
  cases hr : l.resume? call with
  | none => rfl
  | some r =>
    obtain ⟨-, turn, hb | ⟨s, hb⟩⟩ := LoneBalancer.resume?_cases hr
    · simp [LoneBalancer.countOf, hb]
    · simp only [Option.map_some, Option.getD_some, LoneBalancer.countOf, hb]
      exact Pool.countOf_apply ..

theorem leases_refresh (l : LoneBalancer) (call : RefreshCall) :
    (l.after (.refresh call)).leases = l.leases := by
  simp only [LoneBalancer.after]
  cases hr : l.resume? call with
  | none => rfl
  | some r => exact (LoneBalancer.resume?_cases hr).1

/-- One event moves the books of a host in one of the five ways. -/
theorem moves_after {t : LeaseHistory} (h : t.lone.balancer.Valid) (host : HostKey)
    (e : LeaseEvent) : Moves t host e (t.books host) ((t.after e).books host) := by
  cases e with
  | reserve name excluding pick => exact moves_reserve t host name excluding pick
  | release name => exact moves_release h host name
  | markFailed g => exact moves_markFailed t host g
  | snapshot s =>
    exact .of_eq t (t.after (.snapshot s)) rfl (fun k => Pool.countOf_apply ..) rfl host _
  | refresh call =>
    exact .of_eq t (t.after (.refresh call)) (leases_refresh t.lone call)
      (countOf_refresh t.lone call) rfl host _
  | forceRefresh => exact .of_eq t (t.after .forceRefresh) rfl (fun k => rfl) rfl host _
  | advance duration =>
    exact .of_eq t (t.after (.advance duration)) rfl (fun k => rfl) rfl host _

/-! ## Whole runs -/

theorem valid_run (events : List LeaseEvent) :
    (run preference settings events).lone.balancer.Valid := by
  rw [lone_run]
  exact LoneBalancer.valid_run preference settings events

theorem moves_run (events : List LeaseEvent) (e : LeaseEvent) (host : HostKey) :
    Moves (run preference settings events) host e ((run preference settings events).books host)
      ((run preference settings (events ++ [e])).books host) := by
  rw [run_append]
  exact moves_after (valid_run preference settings events) host e

/-- The tracked count of a host is at most its current leases. -/
theorem books_le (events : List LeaseEvent) (host : HostKey) :
    ((run preference settings events).books host).count ≤
      ((run preference settings events).books host).current := by
  induction events using List.reverseRecOn with
  | nil => simp [run, books, LoneBalancer.countOf, LoneBalancer.fresh, currentOn]
  | append_singleton events e ih =>
    have hm := moves_run preference settings events e host
    generalize (run preference settings events).books host = b at ih hm
    generalize (run preference settings (events ++ [e])).books host = b' at hm
    cases hm with
    | rest => exact ih
    | @taken _ _ _ c _ _ =>
      have hc : addConnections c 1 ≤ c + 1 := Nat.min_le_left ..
      simp only at ih ⊢
      omega
    | _ => simp only at ih ⊢; omega

/-- The current leases of a host are among its leases. -/
theorem current_le_leases (t : LeaseHistory) (host : HostKey) :
    (t.books host).current ≤ (t.books host).leases := by
  simp only [books, currentOn, LoneBalancer.leasesOn]
  refine Table.sumBy_le_sumBy fun name h => ?_
  by_cases hh : h = host
  · simp only [hh, true_and, if_true]
    split <;> omega
  · simp [hh]

theorem leases_le_reserves (events : List LeaseEvent) (host : HostKey) :
    ((run preference settings events).books host).leases ≤ events.countP LeaseEvent.isReserve := by
  induction events using List.reverseRecOn with
  | nil => simp [run, books, LoneBalancer.fresh, LoneBalancer.leasesOn]
  | append_singleton events e ih =>
    have hm := moves_run preference settings events e host
    rw [List.countP_append]
    generalize (run preference settings events).books host = b at ih hm
    generalize (run preference settings (events ++ [e])).books host = b' at hm
    cases hm with
    | rest => omega
    | taken => simpa [LeaseEvent.isReserve] using ih
    | _ => simp only at ih ⊢; omega

/-- No lapsed lease on the host is given back while connections are counted against the host. -/
def Undisturbed (host : HostKey) (events : List LeaseEvent) : Prop :=
  ∀ before name rest, events = before ++ .release name :: rest →
    (run preference settings before).lone.leases[name]? = some host →
    (run preference settings before).lapsed name = true →
    (run preference settings before).lone.countOf host = 0

/-- The host fails only while no lease on it is out. -/
def FailsIdle (host : HostKey) (events : List LeaseEvent) : Prop :=
  ∀ before rest, events = before ++ .markFailed host :: rest →
    (LoneBalancer.run preference settings before).leasesOn host = 0

variable {preference settings}

theorem Undisturbed.of_prefix {host : HostKey} {before events : List LeaseEvent}
    (h : Undisturbed preference settings host events) (hp : before <+: events) :
    Undisturbed preference settings host before := by
  obtain ⟨after, rfl⟩ := hp
  exact fun start name rest he => h start name (rest ++ after) (by simp [he])

theorem FailsIdle.of_prefix {host : HostKey} {before events : List LeaseEvent}
    (h : FailsIdle preference settings host events) (hp : before <+: events) :
    FailsIdle preference settings host before := by
  obtain ⟨after, rfl⟩ := hp
  exact fun start rest he => h start (rest ++ after) (by simp [he])

/-- One more connection is counted in full while there are fewer than the largest count. -/
theorem addConnections_one {c : Nat} (h : c + 1 < 2 ^ 64) : addConnections c 1 = c + 1 := by
  have hm : Text.maxUnsigned = 2 ^ 64 - 1 := rfl
  rw [addConnections, hm]
  omega

/-- An undisturbed host has exactly its current leases counted against it. -/
theorem Undisturbed.count_eq {host : HostKey} {events : List LeaseEvent}
    (h : Undisturbed preference settings host events)
    (hn : events.countP LeaseEvent.isReserve < 2 ^ 64) :
    ((run preference settings events).books host).count =
      ((run preference settings events).books host).current := by
  induction events using List.reverseRecOn with
  | nil => simp [run, books, LoneBalancer.countOf, LoneBalancer.fresh, currentOn]
  | append_singleton events e ih =>
    have hm := moves_run preference settings events e host
    have hle := current_le_leases (run preference settings (events ++ [e])) host
    have hres := leases_le_reserves preference settings (events ++ [e]) host
    have hlast := h events
    have ih := ih (h.of_prefix (List.prefix_append ..)) (Nat.lt_of_le_of_lt (by simp) hn)
    have hcount : (run preference settings events).lone.countOf host =
        ((run preference settings events).books host).count := rfl
    rw [hcount] at hlast
    generalize (run preference settings events).books host = b at ih hm hlast
    generalize (run preference settings (events ++ [e])).books host = b' at hm hle hres
    cases hm with
    | rest => exact ih
    | taken =>
      simp only at ih hres hle ⊢
      rw [addConnections_one (by omega), ih]
    | returned => simp only at ih ⊢; omega
    | lapsedReturned hlease hlapsed =>
      have hzero := hlast _ [] rfl hlease hlapsed
      simp only at ih hzero ⊢
      omega
    | failed => rfl

/-- A host that fails only while it is idle has all its leases current and counted. -/
theorem FailsIdle.books_eq {host : HostKey} {events : List LeaseEvent}
    (h : FailsIdle preference settings host events)
    (hn : events.countP LeaseEvent.isReserve < 2 ^ 64) :
    ((run preference settings events).books host).count =
        ((run preference settings events).books host).leases ∧
      ((run preference settings events).books host).current =
        ((run preference settings events).books host).leases := by
  induction events using List.reverseRecOn with
  | nil => simp [run, books, LoneBalancer.countOf, LoneBalancer.fresh, currentOn,
      LoneBalancer.leasesOn]
  | append_singleton events e ih =>
    have hm := moves_run preference settings events e host
    have hle := current_le_leases (run preference settings (events ++ [e])) host
    have hres := leases_le_reserves preference settings (events ++ [e]) host
    have hlast := h events
    have ih := ih (h.of_prefix (List.prefix_append ..)) (Nat.lt_of_le_of_lt (by simp) hn)
    have hleases : (LoneBalancer.run preference settings events).leasesOn host =
        ((run preference settings events).books host).leases := by rw [← lone_run]; rfl
    rw [hleases] at hlast
    generalize (run preference settings events).books host = b at ih hm hlast
    generalize (run preference settings (events ++ [e])).books host = b' at hm hle hres
    cases hm with
    | rest => exact ih
    | taken =>
      simp only at ih hres hle ⊢
      rw [addConnections_one (by omega)]
      omega
    | returned => simp only at ih ⊢; omega
    -- all leases were current, so none that has lapsed can come back
    | lapsedReturned => simp only at ih hle ⊢; omega
    | failed =>
      have hzero := hlast [] rfl
      simp only at hzero ⊢
      omega

end LeaseHistory

end ConnectionRouter
