import ConnectionRouter.Proofs.Cluster.OpenConnections
import ConnectionRouter.Proofs.Router.Parts
import ConnectionRouter.Router.Change
import ConnectionRouter.Router.Shutdown

/-!
# Trades with a world

A task trades with a world what it trades with the scene of its router, and connections with the
network (`World.Trade`). The numbers of open connections follow the connections that are held, and
nobody holds a closed one; the accounts of the balancers follow the leases; and what other tasks
rely on at the routers stays.

* `Trade.refl`, `Trade.trans`, and the trade of every change of a world.
* `Router.Follows`: what a trade leaves to the other callers of a router.
-/

namespace ConnectionRouter

/-! ## What two worlds have in one place -/

section Rel

variable {α : Type} {R R' R'' : α → α → Prop} {o o' o'' : Option α} {a : α}

theorem rel_self (h : ∀ a, R a a) (o : Option α) : Option.Rel R o o := by
  cases o with
  | none => exact .none
  | some a => exact .some (h a)

theorem rel_trans (h : ∀ {a b c}, R a b → R' b c → R'' a c) (hr : Option.Rel R o o')
    (hr' : Option.Rel R' o' o'') : Option.Rel R'' o o'' := by
  cases hr with
  | none => cases hr' with | none => exact .none
  | some hab => cases hr' with | some hbc => exact .some (h hab hbc)

theorem exists_of_rel_some (hr : Option.Rel R o (some a)) : ∃ b, o = some b ∧ R b a := by
  cases hr with
  | some h => exact ⟨_, rfl, h⟩

theorem exists_of_some_rel (hr : Option.Rel R (some a) o) : ∃ b, o = some b ∧ R a b := by
  cases hr with
  | some h => exact ⟨_, rfl, h⟩

theorem isSome_eq_of_rel (hr : Option.Rel R o o') : o'.isSome = o.isSome := by
  cases hr <;> rfl

end Rel

/-! ## Trades -/

/-- The lease in the hand, if it is of a balancer. -/
def Hand.leaseOf (h : Hand) (id : BalancerId) : Option Lease := h.lease.filter (·.balancer = id)

theorem Hand.leaseOf_self {h : Hand} {id : BalancerId} (ho : ∀ l ∈ h.lease, l.balancer = id) :
    h.leaseOf id = h.lease := by
  cases hl : h.lease with
  | none => simp [leaseOf, hl]
  | some l => simp [leaseOf, hl, ho l (by simp [hl])]

theorem Hand.leaseOf_of_ne {h : Hand} {id j : BalancerId} (ho : ∀ l ∈ h.lease, l.balancer = id)
    (hj : id ≠ j) : h.leaseOf j = none :=
  Option.filter_eq_none_iff.mpr fun l hl => by simp [ho l hl, hj]

/-- The router works with the same balancer, and the callers of a kind stand as they stood. -/
structure Router.Follows (callers : Caller → Prop) (r r' : Router) : Prop where
  balancer_eq : r'.balancer = r.balancer
  nodup : r.turn.members.Nodup → r'.turn.members.Nodup
  stands : ∀ c, callers c → ∀ use, r.Stands c use → r'.Stands c use

namespace Router.Follows

variable {callers callers' : Caller → Prop} {r r' r'' : Router}

theorem refl (callers : Caller → Prop) (r : Router) : Follows callers r r :=
  ⟨rfl, fun hn => hn, fun _ _ _ hs => hs⟩

theorem trans (f : Follows callers r r') (f' : Follows callers r' r'') : Follows callers r r'' :=
  ⟨f'.balancer_eq.trans f.balancer_eq, fun hn => f'.nodup (f.nodup hn),
    fun c hc use hs => f'.stands c hc use (f.stands c hc use hs)⟩

theorem mono (f : Follows callers r r') (h : ∀ c, callers' c → callers c) :
    Follows callers' r r' := ⟨f.balancer_eq, f.nodup, fun c hc => f.stands c (h c hc)⟩

theorem of_trade {caller : Caller} {conn conn' : Option Connection}
    (t : r.Trade caller conn r' conn') : Follows (· ≠ caller) r r' :=
  ⟨t.balancer_eq, t.nodup, t.others⟩

end Router.Follows

theorem Registry.balancer?_put (r : Registry) (id j : BalancerId) (b : Balancer) :
    (r.put id b).balancer? j =
      if id = j then (r.balancer? j).map fun _ => b else r.balancer? j := by
  simp only [put, balancer?, List.getElem?_modify]
  split
  · cases r.entries[j]? <;> rfl
  · simp

namespace World

/-- The open connections to a member. -/
def openTo (w : World) (member : HostKey) : Nat := w.network.cluster.openTo member

/-- The control connections of a kind. -/
def controls (w : World) (kind : Connection → Bool) : Nat :=
  w.routers.sumBy fun _ r => r.controls kind

/-- The connections of a kind that are in a hand or kept by a router. -/
def heldWith (w : World) (h : Hand) (kind : Connection → Bool) : Nat :=
  w.controls kind + h.conn.toList.countP kind

/-- What a caller of a router does with a world and its hand. -/
structure Trade (name : String) (caller : Caller) (w : World) (h : Hand) (w' : World) (h' : Hand) :
    Prop where
  /-- With `n` connections of others to a member, as many are open as are held. -/
  opens : ∀ member n, w.openTo member = n + w.heldWith h (·.opens member) →
    w'.openTo member = n + w'.heldWith h' (·.opens member)
  closed : w.heldWith h (·.closed) = 0 → w'.heldWith h' (·.closed) = 0
  balancers : ∀ id, Option.Rel (fun b b' => b.Trade (h.leaseOf id) b' (h'.leaseOf id))
    (w.registry.balancer? id) (w'.registry.balancer? id)
  routers : ∀ k, Option.Rel (Router.Follows fun c => k = name → c ≠ caller)
    w.routers[k]? w'.routers[k]?
  /-- A new lease is of a balancer that there is. -/
  known : ∀ l ∈ h'.lease, l ∈ h.lease ∨ (w.registry.balancer? l.balancer).isSome = true

theorem scene?_eq_some {w : World} {name : String} {s : Scene} (h : w.scene? name = some s) :
    w.routers[name]? = some s.router ∧ s.router.balancer = some s.id ∧
      w.registry.balancer? s.id = some s.balancer := by
  simp only [scene?, Option.bind_eq_bind, Option.bind_eq_some_iff, Option.pure_def,
    Option.some.injEq] at h
  obtain ⟨r, hr, id, hid, b, hb, rfl⟩ := h
  exact ⟨hr, hid, hb⟩

/-- A scene that was put back is seen again. -/
theorem scene?_setScene {w : World} {name : String} {s s' : Scene} (hs : w.scene? name = some s)
    (hid : s'.id = s.id) (hb : s'.router.balancer = some s'.id) :
    (w.setScene name s').scene? name = some s' := by
  obtain ⟨-, -, hreg⟩ := scene?_eq_some hs
  have hput : (w.registry.put s'.id s'.balancer).balancer? s'.id = some s'.balancer := by
    rw [Registry.balancer?_put, if_pos rfl, hid, hreg]
    rfl
  simp [scene?, setScene, hb, hput]

namespace Trade

variable {name : String} {caller : Caller} {w w' w'' : World} {h h' h'' : Hand}

theorem isSome_balancer?_eq (t : Trade name caller w h w' h') (id : BalancerId) :
    (w'.registry.balancer? id).isSome = (w.registry.balancer? id).isSome :=
  isSome_eq_of_rel (t.balancers id)

theorem trans (t : Trade name caller w h w' h') (t' : Trade name caller w' h' w'' h'') :
    Trade name caller w h w'' h'' where
  opens member n hn := t'.opens member n (t.opens member n hn)
  closed hc := t'.closed (t.closed hc)
  balancers id := rel_trans (fun hb hb' => hb.trans hb') (t.balancers id) (t'.balancers id)
  routers k := rel_trans (fun hr hr' => hr.trans hr') (t.routers k) (t'.routers k)
  known l hl := by
    rcases t'.known l hl with hl' | hl'
    · exact t.known l hl'
    · rw [t.isSome_balancer?_eq] at hl'
      exact .inr hl'

/-- A change of the network that touches neither routers nor balancers. -/
theorem of_network (w w' : World) (hr : w'.routers = w.routers) (hg : w'.registry = w.registry)
    {conn conn' : Option Connection} {lease : Option Lease}
    (ho : ∀ member n, w.openTo member = n + conn.toList.countP (·.opens member) →
      w'.openTo member = n + conn'.toList.countP (·.opens member))
    (hc : conn.toList.countP (·.closed) = 0 → conn'.toList.countP (·.closed) = 0) :
    Trade name caller w ⟨conn, lease⟩ w' ⟨conn', lease⟩ where
  opens member n hn := by
    simp only [heldWith, controls, hr] at hn ⊢
    rw [← Nat.add_assoc] at hn ⊢
    exact ho member _ hn
  closed h0 := by
    simp only [heldWith, controls, hr, Nat.add_eq_zero_iff] at h0 ⊢
    exact ⟨h0.1, hc h0.2⟩
  balancers id := by
    rw [hg]
    exact rel_self (fun b => .refl b _) _
  routers k := by
    rw [hr]
    exact rel_self (Router.Follows.refl _) _
  known l hl := .inl hl

/-- A change that touches neither routers nor balancers nor open connections. -/
theorem of_eq (w w' : World) (hr : w'.routers = w.routers) (hg : w'.registry = w.registry)
    (ho : ∀ member, w'.openTo member = w.openTo member) (h : Hand) : Trade name caller w h w' h :=
  of_network w w' hr hg (fun member _ hn => (ho member).trans hn) fun hc => hc

theorem refl (name : String) (caller : Caller) (w : World) (h : Hand) : Trade name caller w h w h :=
  of_eq w w rfl rfl (fun _ => rfl) h

/-- A connection is let go. -/
theorem drop (name : String) (caller : Caller) (w : World) (conn : Option Connection)
    (lease : Option Lease) :
    Trade name caller w ⟨conn, lease⟩ (w.drop conn.toList) ⟨none, lease⟩ := by
  refine of_network w (w.drop conn.toList) rfl rfl (fun member n hn => ?_) fun _ => by simp
  cases conn with
  | none => exact hn
  | some c =>
    have hd : (w.drop [c]).openTo member = w.openTo member - if c.opens member then 1 else 0 :=
      Network.openTo_drop ..
    rw [Option.toList_some, hd, hn]
    simp

/-- A connect brings a connection or nothing. -/
theorem connect (name : String) (caller : Caller) (w : World) (addr : HostAddr)
    (lease : Option Lease) :
    Trade name caller w ⟨none, lease⟩ { w with network := (w.network.connect addr).1 }
      ⟨(w.network.connect addr).2.toOption, lease⟩ := by
  refine of_network w { w with network := (w.network.connect addr).1 } rfl rfl
    (fun member n hn => ?_) fun _ => ?_
  · have hc := w.network.openTo_connect addr member
    have hw : w.network.cluster.openTo member = n := hn
    rw [hw] at hc
    exact hc
  · cases hr : (w.network.connect addr).2 with
    | error e => rfl
    | ok conn => simp [Except.toOption, Network.closed_of_connect hr]

/-- A trade with the router that is put under its name again. -/
theorem routers_insert {t : Table Router} {r r' : Router} {conn conn' : Option Connection}
    (hr : t[name]? = some r) (ht : r.Trade caller conn r' conn') (k : String) :
    Option.Rel (Router.Follows fun c => k = name → c ≠ caller) t[k]? (t.insert name r')[k]? := by
  rw [Std.ExtTreeMap.getElem?_insert]
  by_cases hk : name = k
  · subst hk
    rw [if_pos (by simp), hr]
    exact .some ((Router.Follows.of_trade ht).mono fun c hc => hc rfl)
  · rw [if_neg (by simpa using hk)]
    exact rel_self (Router.Follows.refl _) _

/-- A trade with the router leaves the connections that are held as they are. -/
theorem controls_insert {t : Table Router} {r r' : Router} {conn conn' : Option Connection}
    (hr : t[name]? = some r) (ht : r.Trade caller conn r' conn') (kind : Connection → Bool) :
    (Table.sumBy (t.insert name r') fun _ r => r.controls kind) + conn'.toList.countP kind =
      (t.sumBy fun _ r => r.controls kind) + conn.toList.countP kind := by
  have hsum := Table.sumBy_insert_add (fun _ r => r.controls kind) hr r'
  have hconn := ht.conns kind
  omega

/-- A trade with the balancer that is put in its place again. -/
theorem balancers_put {reg : Registry} {id : BalancerId} {b b' : Balancer}
    (hb : reg.balancer? id = some b) (t : b.Trade h.lease b' h'.lease)
    (ho : ∀ l ∈ h.lease, l.balancer = id) (ho' : ∀ l ∈ h'.lease, l.balancer = id)
    (j : BalancerId) : Option.Rel (fun b b' => b.Trade (h.leaseOf j) b' (h'.leaseOf j))
      (reg.balancer? j) ((reg.put id b').balancer? j) := by
  rw [Registry.balancer?_put]
  by_cases hj : id = j
  · rw [if_pos hj, ← hj, hb, Hand.leaseOf_self ho, Hand.leaseOf_self ho']
    exact .some t
  · rw [if_neg hj, Hand.leaseOf_of_ne ho hj, Hand.leaseOf_of_ne ho' hj]
    exact rel_self (fun b => .refl b _) _

/-- A trade with the scene of the router. -/
theorem setScene {s s' : Scene} (hs : w.scene? name = some s)
    (t : Scene.Trade caller s h s' h') (ho : ∀ l ∈ h.lease, l.balancer = s.id) :
    Trade name caller w h (w.setScene name s') h' := by
  obtain ⟨hr, -, hb⟩ := scene?_eq_some hs
  have hheld : ∀ kind, (w.setScene name s').heldWith h' kind = w.heldWith h kind :=
    controls_insert hr t.router
  refine ⟨fun member n hn => ?_, fun hc => ?_, fun id => ?_, routers_insert hr t.router,
    fun l hl => .inr (by rw [t.own ho l hl, hb]; rfl)⟩
  · rw [hheld]
    exact hn
  · rw [hheld]
    exact hc
  · simp only [World.setScene, t.id_eq]
    exact balancers_put hb t.balancer ho (t.own ho) id

/-- A trade with the router alone. -/
theorem withRouter {r : Router} {f : Router → Router} {conn conn' : Option Connection}
    (hr : w.routers[name]? = some r) (t : r.Trade caller conn (f r) conn') (lease : Option Lease) :
    Trade name caller w ⟨conn, lease⟩ (w.withRouter name f) ⟨conn', lease⟩ := by
  have hheld : ∀ kind, (w.withRouter name f).heldWith ⟨conn', lease⟩ kind =
      w.heldWith ⟨conn, lease⟩ kind := by
    intro kind
    simp only [heldWith, controls, World.withRouter, Table.modify_of_getElem? hr]
    exact controls_insert hr t kind
  refine ⟨fun member n hn => ?_, fun hc => ?_, fun id => ?_, fun k => ?_, fun l hl => .inl hl⟩
  · rw [hheld]
    exact hn
  · rw [hheld]
    exact hc
  · exact rel_self (fun b => .refl b _) _
  · simp only [World.withRouter, Table.modify_of_getElem? hr]
    exact routers_insert hr t k

/-- A trade with a balancer alone. -/
theorem withBalancer {id : BalancerId} {b : Balancer} {f : Balancer → Balancer × Option Metric}
    {lease lease' : Option Lease} (hb : w.registry.balancer? id = some b)
    (t : b.Trade lease (f b).1 lease') (ho : ∀ l ∈ lease, l.balancer = id)
    (ho' : ∀ l ∈ lease', l.balancer = id) (conn : Option Connection) :
    Trade name caller w ⟨conn, lease⟩ (w.withBalancer id f) ⟨conn, lease'⟩ := by
  have hw : w.withBalancer id f =
      { w with registry := w.registry.put id (f b).1, ledger := w.ledger.note (f b).2 } := by
    simp only [World.withBalancer, hb]
  rw [hw]
  exact ⟨fun _ _ hn => hn, fun hc => hc, balancers_put hb t ho ho',
    fun k => rel_self (Router.Follows.refl _) _, fun l hl => .inr (by rw [ho' l hl, hb]; rfl)⟩

/-- A lease is given back. -/
theorem release {lease : Lease} {b : Balancer} (hb : w.registry.balancer? lease.balancer = some b)
    (conn : Option Connection) :
    Trade name caller w ⟨conn, some lease⟩ (w.release lease) ⟨conn, none⟩ :=
  withBalancer hb (.release b lease) (by simp) (by simp) conn

/-- A change of a balancer that leaves its account alone. -/
theorem withBalancer_of_keeps {f : Balancer → Balancer × Option Metric}
    (hk : ∀ b : Balancer, b.Keeps (f b).1) (id : BalancerId) :
    Trade name caller w {} (w.withBalancer id f) {} := by
  cases hb : w.registry.balancer? id with
  | none =>
    simp only [World.withBalancer, hb]
    exact .refl ..
  | some b => exact withBalancer hb (.of_keeps (hk b) none) (by simp) (by simp) none

end Trade

end World

end ConnectionRouter
