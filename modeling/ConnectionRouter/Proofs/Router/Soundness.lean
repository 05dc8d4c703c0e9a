import ConnectionRouter.Proofs.Router.Shutdowns
import ConnectionRouter.Scenario.Basic
import Mathlib.Data.List.Perm.Basic

/-!
# Sound worlds

A world is sound for the parties at work in it and the hands of everybody else (`World.Sound`) if

* the accounts are right (`World.Accounts`): as many connections are open to a member as routers
  keep and hands hold, no closed one is held, every balancer has as many reservations out as there
  are leases of it, and never more connections counted against a host than leases on it;
* every party finds what it relies on, and nobody but a party stands at the turn of its router.

A trade of a party or of another hand keeps a world sound, and so do parties that join and leave.
-/

namespace ConnectionRouter

/-- The connections in hands. -/
def connsOf (hands : List Hand) : List Connection := hands.filterMap Hand.conn

/-- The leases in hands. -/
def leasesOf (hands : List Hand) : List Lease := hands.filterMap Hand.lease

theorem connsOf_cons (h : Hand) (hands : List Hand) :
    connsOf (h :: hands) = h.conn.toList ++ connsOf hands := by
  cases hc : h.conn <;> simp [connsOf, hc]

theorem leasesOf_cons (h : Hand) (hands : List Hand) :
    leasesOf (h :: hands) = h.lease.toList ++ leasesOf hands := by
  cases hl : h.lease <;> simp [leasesOf, hl]

/-- The account of a balancer agrees with its leases that are out. -/
structure Balancer.Accounts (b : Balancer) (leases : List Lease) : Prop where
  valid : b.Valid
  taken_eq : b.taken = b.returned + leases.length
  countOf_le : ∀ host, b.pool.countOf host ≤ leases.countP (·.host = host)

theorem Balancer.Accounts.trade {b b' : Balancer} {lease lease' : Option Lease}
    {leases : List Lease} (a : b.Accounts (lease.toList ++ leases))
    (t : b.Trade lease b' lease') : b'.Accounts (lease'.toList ++ leases) where
  valid := t.valid a.valid
  taken_eq := by
    have h1 := a.taken_eq
    have h2 := t.account
    rw [List.length_append] at h1 ⊢
    omega
  countOf_le host := by
    have h1 := a.countOf_le host
    rw [List.countP_append, Nat.add_comm] at h1 ⊢
    exact t.counts a.valid host _ h1

namespace World

/-- The accounts of a world agree with what is in hands. -/
structure Accounts (w : World) (hands : List Hand) : Prop where
  opens : ∀ member,
    w.openTo member = w.controls (·.opens member) + (connsOf hands).countP (·.opens member)
  closed : w.controls (·.closed) + (connsOf hands).countP (·.closed) = 0
  balancers : ∀ id b, w.registry.balancer? id = some b →
    b.Accounts ((leasesOf hands).filter (·.balancer = id))
  known : ∀ l ∈ leasesOf hands, (w.registry.balancer? l.balancer).isSome = true

namespace Accounts

variable {w w' : World} {hands hands' : List Hand} {h h' : Hand} {name : String} {caller : Caller}

theorem perm (a : w.Accounts hands) (hp : hands.Perm hands') : w.Accounts hands' where
  opens member := by
    rw [a.opens, connsOf, (hp.filterMap _).countP_eq]
    rfl
  closed := by
    have hc := a.closed
    rwa [connsOf, (hp.filterMap _).countP_eq] at hc
  balancers id b hb := by
    have hperm := (hp.filterMap Hand.lease).filter (·.balancer = id)
    have ha := a.balancers id b hb
    exact ⟨ha.valid, by rw [ha.taken_eq]; exact congrArg _ hperm.length_eq,
      fun host => Nat.le_trans (ha.countOf_le host) (Nat.le_of_eq (hperm.countP_eq _))⟩
  known l hl := a.known l ((hp.filterMap _).mem_iff.mpr hl)

/-- An empty hand does not matter. -/
theorem empty_iff : w.Accounts ({} :: hands) ↔ w.Accounts hands := by
  have hc : connsOf ({} :: hands) = connsOf hands := rfl
  have hl : leasesOf ({} :: hands) = leasesOf hands := rfl
  exact ⟨fun a => ⟨hc ▸ a.opens, hc ▸ a.closed, hl ▸ a.balancers, hl ▸ a.known⟩,
    fun a => ⟨hc ▸ a.opens, hc ▸ a.closed, hl ▸ a.balancers, hl ▸ a.known⟩⟩

/-- A trade of one hand keeps the accounts right. -/
theorem trade (a : w.Accounts (h :: hands)) (t : w.Trade name caller h w' h') :
    w'.Accounts (h' :: hands) where
  opens member := by
    have ho := a.opens member
    rw [connsOf_cons, List.countP_append] at ho ⊢
    have ht := t.opens member ((connsOf hands).countP (·.opens member))
    simp only [heldWith] at ht
    omega
  closed := by
    have hc := a.closed
    rw [connsOf_cons, List.countP_append] at hc ⊢
    have ht := t.closed
    simp only [heldWith] at ht
    omega
  balancers id b' hb' := by
    have hrel := t.balancers id
    rw [hb'] at hrel
    obtain ⟨b, hb, ht⟩ := exists_of_rel_some hrel
    have hacc := a.balancers id b hb
    rw [leasesOf_cons, List.filter_append, ← Option.toList_filter] at hacc ⊢
    exact hacc.trade ht
  known l hl := by
    rw [t.isSome_balancer?_eq]
    rw [leasesOf_cons, List.mem_append, Option.mem_toList] at hl
    rcases hl with hl | hl
    · rcases t.known l hl with hold | hnew
      · exact a.known l (by rw [leasesOf_cons]; simp [Option.mem_def.mp hold])
      · exact hnew
    · exact a.known l (by rw [leasesOf_cons]; simp [hl])

end Accounts

/-- The accounts are right, and the parties are those that stand at the routers. -/
structure Sound (w : World) (parties : List Party) (loose : List Hand) : Prop where
  accounts : w.Accounts (parties.map Party.hand ++ loose)
  nobodyTwice : w.NobodyTwice
  fits : ∀ p ∈ parties, p.Fits w
  callers : (parties.map Party.caller).Nodup
  absent : ∀ (k : String) (r : Router) (c : Caller), w.routers[k]? = some r →
    (∀ p ∈ parties, p.router = k → p.caller ≠ c) → r.Stands c .away

namespace Sound

variable {w w' : World} {p p' : Party} {parties parties' : List Party} {h h' : Hand}
  {loose loose' : List Hand} {name : String} {caller : Caller}

theorem perm (s : w.Sound parties loose) (hp : parties.Perm parties') (hl : loose.Perm loose') :
    w.Sound parties' loose' where
  accounts := s.accounts.perm ((hp.map _).append hl)
  nobodyTwice := s.nobodyTwice
  fits p hmem := s.fits p (hp.mem_iff.mpr hmem)
  callers := (hp.map _).nodup_iff.mp s.callers
  absent k r c hr hc := s.absent k r c hr fun p hmem => hc p (hp.mem_iff.mp hmem)

/-- A caller without work joins the parties. -/
theorem join (s : w.Sound parties loose) {r : Router} (hr : w.routers[name]? = some r)
    (hc : caller ∉ parties.map Party.caller) :
    w.Sound (⟨name, caller, .away, {}, false⟩ :: parties) loose where
  accounts := Accounts.empty_iff.mpr s.accounts
  nobodyTwice := s.nobodyTwice
  fits p hmem := by
    rcases List.mem_cons.mp hmem with rfl | hmem
    · refine ⟨by simp, by simp, r, hr, s.absent name r caller hr fun q hq _ he => hc ?_⟩
      exact List.mem_map.mpr ⟨q, hq, he⟩
    · exact s.fits p hmem
  callers := List.nodup_cons.mpr ⟨hc, s.callers⟩
  absent k r c hr hne := s.absent k r c hr fun p hmem => hne p (List.mem_cons_of_mem _ hmem)

/-- A party that does not use the control connection leaves, with what is in its hand. -/
theorem leave (s : w.Sound (p :: parties) loose) (hu : p.use = .away) :
    w.Sound parties (p.hand :: loose) where
  accounts := s.accounts.perm List.perm_middle.symm
  nobodyTwice := s.nobodyTwice
  fits q hmem := s.fits q (List.mem_cons_of_mem _ hmem)
  callers := (List.nodup_cons.mp s.callers).2
  absent k r c hr hne := by
    by_cases hp : p.router = k ∧ p.caller = c
    · obtain ⟨r', hr', hs⟩ := (s.fits p List.mem_cons_self).stands
      rw [hp.1, hr] at hr'
      cases hr'
      rwa [hp.2, hu] at hs
    · refine s.absent k r c hr fun q hq => ?_
      rcases List.mem_cons.mp hq with rfl | hq
      · exact fun hk he => hp ⟨hk, he⟩
      · exact hne q hq

/-- A party takes a step. -/
theorem step (s : w.Sound (p :: parties) loose) (hs : Serves p.router p.caller w p.hand w' p') :
    w'.Sound (p' :: parties) loose where
  accounts := s.accounts.trade hs.trade
  nobodyTwice := hs.trade.nobodyTwice s.nobodyTwice
  fits q hmem := by
    rcases List.mem_cons.mp hmem with rfl | hq
    · exact hs.fits
    · refine (s.fits q (List.mem_cons_of_mem _ hq)).follow hs.trade fun _ he => ?_
      exact (List.nodup_cons.mp s.callers).1 (List.mem_map.mpr ⟨q, hq, he⟩)
  callers := by
    have hc := s.callers
    rwa [List.map_cons, ← hs.caller_eq] at hc
  absent k r' c hr' hne := by
    obtain ⟨r, hr, hf⟩ := hs.trade.exists_before hr'
    have hp : k = p.router → c ≠ p.caller := by
      rintro rfl rfl
      exact hne p' List.mem_cons_self hs.router_eq hs.caller_eq
    refine hf.stands c hp .away (s.absent k r c hr fun q hq hk he => ?_)
    rcases List.mem_cons.mp hq with rfl | hq
    · exact hp hk.symm he.symm
    · exact hne q (List.mem_cons_of_mem _ hq) hk he

/-- A hand that no party has trades with the world, but not with routers. -/
theorem trade (s : w.Sound parties (h :: loose)) (hr : w'.routers = w.routers)
    (t : w.Trade name caller h w' h') (hc : caller ∉ parties.map Party.caller) :
    w'.Sound parties (h' :: loose) where
  accounts := ((s.accounts.perm List.perm_middle).trade t).perm List.perm_middle.symm
  nobodyTwice := t.nobodyTwice s.nobodyTwice
  fits p hp := (s.fits p hp).follow t fun _ he => hc (List.mem_map.mpr ⟨p, hp, he⟩)
  callers := s.callers
  absent := by
    rw [hr]
    exact s.absent

/-- An empty hand does not matter. -/
theorem empty_iff : w.Sound parties ({} :: loose) ↔ w.Sound parties loose :=
  ⟨fun s => { s with accounts := Accounts.empty_iff.mp (s.accounts.perm List.perm_middle) },
    fun s => { s with
      accounts := (Accounts.empty_iff.mpr s.accounts).perm List.perm_middle.symm }⟩

end Sound

end World

/-! ## New routers -/

/-- The registry is the same, or one that has never been used comes last. -/
def Registry.Extends (reg reg' : Registry) : Prop :=
  reg' = reg ∨ ∃ (sig : Signature) (preference : Option Preference) (settings : BalancerSettings),
    reg' = ⟨reg.entries ++ [(sig, { preference := preference, settings := settings })]⟩

theorem Registry.extends_getOrCreate {reg reg' : Registry} {seeds : List HostAddr}
    {config : Config.LoadBalance} {port : UInt16} {id : BalancerId}
    (h : reg.getOrCreate seeds config port = .ok (reg', id)) : reg.Extends reg' := by
  unfold getOrCreate at h
  cases hp : config.topologyKeys.mapM Preference.parse with
  | error e => simp [hp, bind, Except.bind] at h
  | ok preference =>
    simp only [hp, bind, Except.bind] at h
    split at h
    · cases h
      exact .inl rfl
    · cases h
      exact .inr ⟨_, _, _, rfl⟩

/-- A balancer of the larger registry is one of the smaller, or it has never been used. -/
theorem Registry.Extends.balancer? {reg reg' : Registry} (he : reg.Extends reg') {id : BalancerId}
    {b : Balancer} (hb : reg'.balancer? id = some b) : reg.balancer? id = some b ∨
      reg.balancer? id = none ∧ ∃ (preference : Option Preference) (settings : BalancerSettings),
        b = { preference := preference, settings := settings } := by
  rcases he with rfl | ⟨sig, preference, settings, rfl⟩
  · exact .inl hb
  · by_cases hid : id < reg.entries.length
    · rw [Registry.balancer?, List.getElem?_append_left hid] at hb
      exact .inl hb
    · have hnone : reg.balancer? id = none := by
        rw [Registry.balancer?, List.getElem?_eq_none (Nat.le_of_not_lt hid), Option.map_none]
      rw [Registry.balancer?, List.getElem?_append_right (Nat.le_of_not_lt hid),
        List.getElem?_singleton] at hb
      split at hb
      · cases hb
        exact .inr ⟨hnone, preference, settings, rfl⟩
      · cases hb

/-- A balancer of the smaller registry is in its place in the larger. -/
theorem Registry.Extends.balancer?_of_some {reg reg' : Registry} (he : reg.Extends reg')
    {id : BalancerId} {b : Balancer} (hb : reg.balancer? id = some b) :
    reg'.balancer? id = some b := by
  rcases he with rfl | ⟨sig, preference, settings, rfl⟩
  · exact hb
  · have hid : id < reg.entries.length := by
      by_contra hid
      simp [Registry.balancer?, List.getElem?_eq_none (Nat.le_of_not_lt hid)] at hb
    rwa [Registry.balancer?, List.getElem?_append_left hid]

theorem Router.create_eq_ok {config : Config} {reg reg' : Registry} {r : Router}
    (h : Router.create config reg = .ok (r, reg')) :
    r.control = none ∧ r.turn = {} ∧ reg.Extends reg' := by
  unfold create at h
  cases hs : config.cluster.seeds.mapM (HostAddr.parse · config.cluster.defaultPort) with
  | error e => simp [hs, bind, Except.bind] at h
  | ok seeds =>
    simp only [hs, bind, Except.bind] at h
    split at h
    · cases h
    · split at h
      · cases hg : reg.getOrCreate seeds config.loadBalance config.cluster.defaultPort with
        | error e => simp [hg] at h
        | ok p =>
          simp only [hg] at h
          cases h
          exact ⟨rfl, rfl, Registry.extends_getOrCreate hg⟩
      · cases h
        exact ⟨rfl, rfl, .inl rfl⟩

/-- Balancers that have never been used do not change the accounts. -/
theorem World.Accounts.extend {w w' : World} {hands : List Hand} (a : w.Accounts hands)
    (ho : ∀ member, w'.openTo member = w.openTo member)
    (hc : ∀ kind, w'.controls kind = w.controls kind) (he : w.registry.Extends w'.registry) :
    w'.Accounts hands where
  opens member := by
    rw [ho, hc]
    exact a.opens member
  closed := by
    rw [hc]
    exact a.closed
  balancers id b hb := by
    rcases he.balancer? hb with hold | ⟨hnone, preference, settings, rfl⟩
    · exact a.balancers id b hold
    · have hnil : (leasesOf hands).filter (·.balancer = id) = [] := by
        refine List.filter_eq_nil_iff.mpr fun l hl hid => ?_
        have hk := a.known l hl
        rw [of_decide_eq_true hid, hnone] at hk
        cases hk
      rw [hnil]
      exact ⟨Balancer.Valid.fresh preference settings, rfl, fun host => by simp⟩
  known l hl := by
    obtain ⟨b, hb⟩ := Option.isSome_iff_exists.mp (a.known l hl)
    rw [he.balancer?_of_some hb]
    rfl

/-- A party finds what it relies on in a larger world. -/
theorem Party.Fits.extend {p : Party} {w w' : World} (f : p.Fits w)
    (hr : w'.routers[p.router]? = w.routers[p.router]?) (he : w.registry.Extends w'.registry) :
    p.Fits w' where
  scene hb := by
    obtain ⟨id, hid, hs⟩ := World.isSome_scene?_iff.mp (f.scene hb)
    obtain ⟨b, hb⟩ := Option.isSome_iff_exists.mp hs
    refine World.isSome_scene?_iff.mpr ⟨id, ?_, ?_⟩
    · rwa [World.balancerOf?, hr]
    · rw [he.balancer?_of_some hb]
      rfl
  own l hl := by
    rw [World.balancerOf?, hr]
    exact f.own l hl
  stands := by
    rw [hr]
    exact f.stands

namespace World

variable {w : World} {parties : List Party} {loose : List Hand} {name : String}

theorem install_eq (hnew : w.routers[name]? = none) (r : Router) (registry : Registry) :
    w.install name r registry =
      { w with routers := w.routers.insert name r, registry := registry } := by
  simp [install, hnew, drop]

/-- A new router under a new name keeps a world sound. -/
theorem Sound.install (s : w.Sound parties loose) (hnew : w.routers[name]? = none)
    {config : Config} {r : Router} {registry : Registry}
    (hc : Router.create config w.registry = .ok (r, registry)) :
    (w.install name r registry).Sound parties loose := by
  obtain ⟨hcontrol, hturn, hext⟩ := Router.create_eq_ok hc
  rw [install_eq hnew]
  have hcontrols : ∀ kind, (Table.sumBy (w.routers.insert name r) fun _ r => r.controls kind) =
      w.controls kind := by
    intro kind
    rw [Table.sumBy_insert_of_none _ hnew, Router.controls, hcontrol]
    simp [controls]
  have hother : ∀ p ∈ parties, (w.routers.insert name r)[p.router]? = w.routers[p.router]? := by
    intro p hp
    obtain ⟨r', hr', -⟩ := (s.fits p hp).stands
    rw [Std.ExtTreeMap.getElem?_insert, if_neg]
    simp only [Std.LawfulEqCmp.compare_eq_iff_eq]
    rintro rfl
    rw [hnew] at hr'
    cases hr'
  have hcases : ∀ (k : String) (r' : Router), (w.routers.insert name r)[k]? = some r' →
      r' = r ∨ w.routers[k]? = some r' := by
    intro k r' hr'
    rw [Std.ExtTreeMap.getElem?_insert] at hr'
    split at hr'
    · exact .inl (Option.some.inj hr').symm
    · exact .inr hr'
  refine ⟨s.accounts.extend (fun _ => rfl) hcontrols hext, fun k r' hr' => ?_,
    fun p hp => (s.fits p hp).extend (hother p hp) hext, s.callers, fun k r' c hr' hne => ?_⟩
  · rcases hcases k r' hr' with rfl | hold
    · simp [hturn, Turn.members]
    · exact s.nobodyTwice k r' hold
  · rcases hcases k r' hr' with rfl | hold
    · simp [Router.Stands, hturn, Turn.members]
    · exact s.absent k r' c hold hne

end World

end ConnectionRouter
