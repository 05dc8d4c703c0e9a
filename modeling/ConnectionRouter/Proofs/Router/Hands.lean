import ConnectionRouter.Proofs.Balancer.Account
import ConnectionRouter.Proofs.Balancer.Turn
import ConnectionRouter.Router.Request

/-!
# What a request holds

A request has at most one connection and one lease in its hands (`Stage.hand`), and uses the control
connection of its router in one of four ways (`Stage.use`). What a caller does is a trade:

* between its hand and the control connection, where no connection is lost or made up and no other
  caller loses its standing (`Router.Trade`);
* between its hand and the account of the balancer, where every lease is a reservation that has not
  been given back and counts stay below the leases (`Balancer.Trade`);
* with a whole scene (`Scene.Trade`).

Every elementary change is a trade, and the parts of a request are put together from them.
-/

namespace ConnectionRouter

/-- The connection and the lease that somebody holds. -/
structure Hand where
  conn : Option Connection := none
  lease : Option Lease := none
  deriving DecidableEq

/-- How a task uses the control connection of its router. -/
inductive ControlUse
  | away
  /-- Waits for it, or has just been given it. -/
  | queued
  | inUse
  /-- Looks for another one after the old one is gone. -/
  | replacing
  deriving DecidableEq

/-- The control connection, if there is one and it is of a kind. -/
def Router.controls (r : Router) (kind : Connection → Bool) : Nat := r.control.toList.countP kind

/-- How a caller stands at the turn of a router while it uses the control connection so. -/
def Router.Stands (r : Router) (caller : Caller) : ControlUse → Prop
  | .away => caller ∉ r.turn.members
  | .queued => caller ∈ r.turn.members
  | .inUse => r.turn.holder = some caller
  | .replacing => r.turn.holder = some caller ∧ r.control = none

def RoutedConnection.hand (c : RoutedConnection) : Hand := ⟨some c.conn, c.lease⟩

namespace RefreshPurpose

def use : RefreshPurpose → ControlUse
  | cached _ => .inUse
  | fresh .. => .replacing
  | check .. => .away

def hand : RefreshPurpose → Hand
  | cached _ => {}
  | fresh _ conn => ⟨some conn, none⟩
  | check _ held => ⟨some held.conn, some held.lease⟩

end RefreshPurpose

namespace OpenPurpose

def use : OpenPurpose → ControlUse
  | control .. => .replacing
  | data .. | seed _ => .away

def lease? : OpenPurpose → Option Lease
  | data _ lease _ => some lease
  | control .. | seed _ => none

end OpenPurpose

namespace ClosePurpose

def use : ClosePurpose → ControlUse
  | stale _ => .replacing
  | rejected .. | preempted .. => .away

def lease? : ClosePurpose → Option Lease
  | stale _ => none
  | rejected _ lease _ | preempted _ lease => some lease

end ClosePurpose

namespace Stage

def use : Stage → ControlUse
  | awaitingControl _ => .queued
  | awaitingTurn purpose | querying purpose => purpose.use
  | opening _ purpose => purpose.use
  | closing _ purpose => purpose.use
  | finished _ => .away

def hand : Stage → Hand
  | awaitingControl _ => {}
  | awaitingTurn purpose | querying purpose => purpose.hand
  | opening _ purpose => ⟨none, purpose.lease?⟩
  | closing conn purpose => ⟨some conn, purpose.lease?⟩
  | finished (.ok c) => c.hand
  | finished (.error _) => {}

/-- The request works with a balancer and is not over. -/
def balanced : Stage → Bool
  | opening _ (.seed _) | finished _ => false
  | _ => true

end Stage

/-! ## Trades with a router -/

namespace Router

/-- What a caller does with a router and the connection in its hand. -/
structure Trade (caller : Caller) (r : Router) (conn : Option Connection) (r' : Router)
    (conn' : Option Connection) : Prop where
  balancer_eq : r'.balancer = r.balancer
  /-- Connections change hands only. -/
  conns : ∀ kind, r'.controls kind + conn'.toList.countP kind =
    r.controls kind + conn.toList.countP kind
  nodup : r.turn.members.Nodup → r'.turn.members.Nodup
  others : ∀ c, c ≠ caller → ∀ use, r.Stands c use → r'.Stands c use

namespace Trade

variable {caller : Caller} {r r' r'' : Router} {conn conn' conn'' : Option Connection}

theorem refl (caller : Caller) (r : Router) (conn : Option Connection) :
    Trade caller r conn r conn :=
  ⟨rfl, fun _ => rfl, fun hn => hn, fun _ _ _ hs => hs⟩

theorem trans (t : Trade caller r conn r' conn') (t' : Trade caller r' conn' r'' conn'') :
    Trade caller r conn r'' conn'' where
  balancer_eq := t'.balancer_eq.trans t.balancer_eq
  conns kind := (t'.conns kind).trans (t.conns kind)
  nodup hn := t'.nodup (t.nodup hn)
  others c hc use hs := t'.others c hc use (t.others c hc use hs)

/-- The caller leaves the turn. -/
theorem leave (caller : Caller) (r : Router) (conn : Option Connection) :
    Trade caller r conn { r with turn := r.turn.leave caller } conn where
  balancer_eq := rfl
  conns _ := rfl
  nodup hn := Turn.nodup_members_leave hn caller
  others c hc use hs := by
    cases use with
    | away => exact fun hm => hs ((Turn.mem_members_leave hc).mp hm)
    | queued => exact (Turn.mem_members_leave hc).mpr hs
    | inUse => exact Turn.holder_leave_of_ne hs hc
    | replacing => exact ⟨Turn.holder_leave_of_ne hs.1 hc, hs.2⟩

/-- The caller takes the free turn. -/
theorem take {turn : Turn} (ht : r.turn.take? caller = some turn) (hs : r.Stands caller .away)
    (conn : Option Connection) : Trade caller r conn { r with turn := turn } conn where
  balancer_eq := rfl
  conns _ := rfl
  nodup hn := Turn.nodup_members_take hn hs ht
  others c hc use hs := by
    -- the turn was free, so that no other caller held it
    have hfree := (Turn.take?_eq_some ht).1
    cases use with
    | away => exact fun hm => hs ((Turn.mem_members_take ht hc).mp hm)
    | queued => exact (Turn.mem_members_take ht hc).mpr hs
    | inUse => rw [Stands, hfree] at hs; cases hs
    | replacing => rw [Stands, hfree] at hs; cases hs.1

/-- The caller joins the queue. -/
theorem wait (hs : r.Stands caller .away) (conn : Option Connection) :
    Trade caller r conn { r with turn := r.turn.wait caller } conn where
  balancer_eq := rfl
  conns _ := rfl
  nodup hn := Turn.nodup_members_wait hn hs
  others c hc use hs := by
    cases use with
    | away => exact fun hm => hs ((Turn.mem_members_wait hc).mp hm)
    | queued => exact (Turn.mem_members_wait hc).mpr hs
    | inUse => exact hs
    | replacing => exact hs

/-- The control connection is taken away. -/
theorem takeControl {c : Connection} (hc : r.control = some c) :
    Trade caller r none { r with control := none } (some c) where
  balancer_eq := rfl
  conns kind := by simp [controls, hc]
  nodup hn := hn
  others d hd use hs := by
    cases use with
    | replacing => exact ⟨hs.1, rfl⟩
    | _ => exact hs

/-- The holder of the turn puts a control connection in the place of none. -/
theorem putControl (hs : r.Stands caller .replacing) (c : Connection) :
    Trade caller r (some c) { r with control := some c } none where
  balancer_eq := rfl
  conns kind := by simp [controls, hs.2]
  nodup hn := hn
  others d hd use hs' := by
    cases use with
    | replacing =>
      rw [Stands, hs.1] at hs'
      exact absurd (Option.some.inj hs'.1).symm hd
    | _ => exact hs'

end Trade

/-- A caller that leaves the turn is away. -/
theorem stands_leave {r : Router} (hn : r.turn.members.Nodup) (caller : Caller) :
    ({ r with turn := r.turn.leave caller } : Router).Stands caller .away :=
  Turn.not_mem_members_leave hn caller

end Router

/-! ## Trades with a balancer -/

namespace Balancer

/-- What is done with a balancer and a lease of it. -/
structure Trade (b : Balancer) (lease : Option Lease) (b' : Balancer) (lease' : Option Lease) :
    Prop where
  /-- Every lease was reserved and has not been given back. -/
  account : b'.taken + b.returned + lease.toList.length =
    b.taken + b'.returned + lease'.toList.length
  /-- With `n` leases of others on a host, counts stay below the leases. -/
  counts : b.Valid → ∀ host n, b.pool.countOf host ≤ n + lease.toList.countP (·.host = host) →
    b'.pool.countOf host ≤ n + lease'.toList.countP (·.host = host)
  valid : b.Valid → b'.Valid

namespace Trade

variable {b b' b'' : Balancer} {lease lease' lease'' : Option Lease}

theorem trans (t : Trade b lease b' lease') (t' : Trade b' lease' b'' lease'') :
    Trade b lease b'' lease'' where
  account := by
    have h1 := t.account
    have h2 := t'.account
    omega
  counts hv host n hn := t'.counts (t.valid hv) host n (t.counts hv host n hn)
  valid hv := t'.valid (t.valid hv)

theorem of_keeps (h : b.Keeps b') (lease : Option Lease) : Trade b lease b' lease where
  account := by rw [h.taken_eq, h.returned_eq]
  counts _ host _ hn := Nat.le_trans (h.countOf_le host) hn
  valid := h.valid

theorem refl (b : Balancer) (lease : Option Lease) : Trade b lease b lease :=
  of_keeps (.refl b) lease

/-- A lease is given back. -/
theorem release (b : Balancer) (lease : Lease) :
    Trade b (some lease) (b.release lease.host).1 none where
  account := by
    simp only [taken_release, returned_release, Option.toList_some, Option.toList_none,
      List.length_singleton, List.length_nil]
    omega
  counts hv host n hn := by
    rw [Balancer.release_account hv lease.host host]
    by_cases hh : lease.host = host
    · simp [hh] at hn ⊢
      omega
    · simpa [hh] using hn
  valid hv := hv.release lease.host

/-- A reservation that finds a host makes a lease. -/
theorem reserve (b : Balancer) (id : BalancerId) {excluding : List HostKey} {pick : Nat}
    {host : HostKey} {addr : HostAddr}
    (hr : (b.reserve excluding pick).2.1 = some (host, addr)) :
    Trade b none (b.reserve excluding pick).1 (some ⟨id, host⟩) := by
  rcases b.reserve_account excluding pick with ⟨hn, -⟩ | ⟨g, a, hg, ht, hret, hc⟩
  · rw [hn] at hr
    cases hr
  · rw [hg] at hr
    cases hr
    refine ⟨?_, fun _ k n hk => ?_, fun hv => hv.reserve excluding pick⟩
    · simp only [ht, hret, Option.toList_none, Option.toList_some, List.length_nil,
        List.length_singleton]
      omega
    · have hle := hc k
      simp only [Option.toList_none, List.countP_nil, Nat.add_zero, Option.toList_some,
        List.countP_singleton, decide_eq_true_eq] at hk ⊢
      omega

end Trade

end Balancer

/-! ## Trades with a scene -/

namespace Scene

/-- What a caller does with a scene and its hand. -/
structure Trade (caller : Caller) (s : Scene) (h : Hand) (s' : Scene) (h' : Hand) : Prop where
  id_eq : s'.id = s.id
  router : s.router.Trade caller h.conn s'.router h'.conn
  balancer : s.balancer.Trade h.lease s'.balancer h'.lease
  own : (∀ l ∈ h.lease, l.balancer = s.id) → ∀ l ∈ h'.lease, l.balancer = s.id

namespace Trade

variable {caller : Caller} {s s' s'' : Scene} {h h' h'' : Hand}

theorem refl (caller : Caller) (s : Scene) (h : Hand) : Trade caller s h s h :=
  ⟨rfl, .refl .., .refl .., fun ho => ho⟩

theorem trans (t : Trade caller s h s' h') (t' : Trade caller s' h' s'' h'') :
    Trade caller s h s'' h'' where
  id_eq := t'.id_eq.trans t.id_eq
  router := t.router.trans t'.router
  balancer := t.balancer.trans t'.balancer
  own ho := by
    have ho' := t'.own (by rw [t.id_eq]; exact t.own ho)
    rwa [t.id_eq] at ho'

/-- A trade with the router alone. -/
theorem of_router (s : Scene) {r : Router} {conn conn' : Option Connection}
    (t : s.router.Trade caller conn r conn') (lease : Option Lease) :
    Trade caller s ⟨conn, lease⟩ { s with router := r } ⟨conn', lease⟩ :=
  ⟨rfl, t, .refl .., fun ho => ho⟩

/-- A trade with the balancer alone; what is counted besides does not matter. -/
theorem of_balancer (caller : Caller) (s : Scene) {b : Balancer} {lease : Option Lease}
    (t : s.balancer.Trade lease b none) (l : Ledger) (conn : Option Connection) :
    Trade caller s ⟨conn, lease⟩ { s with balancer := b, ledger := l } ⟨conn, none⟩ :=
  ⟨rfl, .refl .., t, fun _ => by simp⟩

/-- A change of the balancer that leaves its account alone. -/
theorem of_keeps (caller : Caller) (s : Scene) {b : Balancer} (hk : s.balancer.Keeps b)
    (l : Ledger) (h : Hand) : Trade caller s h { s with balancer := b, ledger := l } h :=
  ⟨rfl, .refl .., .of_keeps hk _, fun ho => ho⟩

theorem count (caller : Caller) (s : Scene) (m : Metric) (h : Hand) :
    Trade caller s h (s.count m) h := of_keeps caller s (.refl _) _ h

theorem release (caller : Caller) (s : Scene) (lease : Lease) (conn : Option Connection) :
    Trade caller s ⟨conn, some lease⟩ (s.release lease) ⟨conn, none⟩ :=
  of_balancer caller s (.release s.balancer lease) _ conn

/-- A lease is given back and its host is quarantined. -/
theorem failHost (caller : Caller) (s : Scene) (lease : Lease) (now : Instant)
    (conn : Option Connection) :
    Trade caller s ⟨conn, some lease⟩ (s.failHost lease now) ⟨conn, none⟩ :=
  (release caller s lease conn).trans (of_keeps caller (s.release lease)
    ((Balancer.Keeps.markFailed _ lease.host now).trans (.forceRefresh _)) _ _)

/-- A reservation that finds a host puts a lease into the hand. -/
theorem reserve (caller : Caller) (s : Scene) {refused : List HostKey} {pick : Nat}
    {host : HostKey} {addr : HostAddr}
    (hr : (s.balancer.reserve refused pick).2.1 = some (host, addr)) (l : Ledger) :
    Trade caller s {} { s with balancer := (s.balancer.reserve refused pick).1, ledger := l }
      ⟨none, some ⟨s.id, host⟩⟩ :=
  ⟨rfl, .refl .., .reserve s.balancer s.id hr, fun _ => by simp⟩

theorem leaveControl (caller : Caller) (s : Scene) (h : Hand) :
    Trade caller s h (s.leaveControl caller) h := of_router s (.leave ..) h.lease

end Trade

end Scene

end ConnectionRouter
