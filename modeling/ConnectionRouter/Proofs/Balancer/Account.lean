import ConnectionRouter.Proofs.Balancer.Validity

/-!
# The account of a balancer

A reservation that finds a host is taken, a release is a reservation that comes back, and each
moves the count of its host by one (`reserve_account`, `release_account`). Everything else that
happens to a balancer leaves the account alone and adds to no count (`Balancer.Keeps`).
-/

namespace ConnectionRouter

namespace Balancer

/-- No reservation is made or given back, and no count grows. -/
structure Keeps (b b' : Balancer) : Prop where
  taken_eq : b'.taken = b.taken
  returned_eq : b'.returned = b.returned
  countOf_le : ∀ k, b'.pool.countOf k ≤ b.pool.countOf k
  valid : b.Valid → b'.Valid

namespace Keeps

variable {b b' b'' : Balancer}

theorem refl (b : Balancer) : b.Keeps b := ⟨rfl, rfl, fun _ => Nat.le_refl _, id⟩

theorem trans (h : b.Keeps b') (h' : b'.Keeps b'') : b.Keeps b'' :=
  ⟨h'.taken_eq.trans h.taken_eq, h'.returned_eq.trans h.returned_eq,
    fun k => Nat.le_trans (h'.countOf_le k) (h.countOf_le k), fun hv => h'.valid (h.valid hv)⟩

theorem withTurn (h : b.Keeps b') (turn : Turn) : b.Keeps { b' with turn := turn } :=
  ⟨h.taken_eq, h.returned_eq, h.countOf_le, fun hv => (h.valid hv).withTurn turn⟩

theorem applySnapshot (b : Balancer) (s : Snapshot) (now : Instant) :
    b.Keeps (b.applySnapshot s now) :=
  ⟨rfl, rfl, fun _ => Nat.le_of_eq (Pool.countOf_apply ..), fun hv => hv.applySnapshot s now⟩

theorem forceRefresh (b : Balancer) : b.Keeps b.forceRefresh :=
  ⟨rfl, rfl, fun _ => Nat.le_refl _, Valid.forceRefresh⟩

theorem markFailed (b : Balancer) (host : HostKey) (now : Instant) :
    b.Keeps (b.markFailed host now).1 := by
  refine ⟨rfl, rfl, fun k => ?_, fun hv => hv.markFailed host now⟩
  have hc : (b.markFailed host now).1.pool.countOf k =
      if host = k then 0 else b.pool.countOf k := Pool.countOf_markFailed ..
  rw [hc]
  split <;> omega

theorem startRefresh (b : Balancer) (caller : Caller) (now : Instant) :
    b.Keeps (b.startRefresh caller now).1 := by
  obtain ⟨turn, h⟩ := b.startRefresh_eq caller now
  rw [h]
  exact (refl b).withTurn turn

theorem resumeRefresh (b : Balancer) (caller : Caller) (now : Instant) :
    b.Keeps (b.resumeRefresh caller now).1 := by
  obtain ⟨turn, h⟩ := b.resumeRefresh_eq caller now
  rw [h]
  exact (refl b).withTurn turn

theorem finishRefresh (b : Balancer) (caller : Caller) (now : Instant) (control : String)
    (answer : Except RoutingError (List Row)) :
    b.Keeps (b.finishRefresh caller now control answer).1 := by
  obtain ⟨turn, h | ⟨s, h⟩⟩ := b.finishRefresh_eq caller now control answer
  · rw [h]
    exact (refl b).withTurn turn
  · rw [h]
    exact (applySnapshot b s now).withTurn turn

theorem abandonRefresh (b : Balancer) (caller : Caller) : b.Keeps (b.abandonRefresh caller) :=
  (refl b).withTurn _

end Keeps

/-- A reservation that finds no host changes nothing; else it is taken and adds at most one to the
count of its host. -/
theorem reserve_account (b : Balancer) (excluding : List HostKey) (pick : Nat) :
    ((b.reserve excluding pick).2.1 = none ∧ (b.reserve excluding pick).1 = b) ∨
      ∃ host addr, (b.reserve excluding pick).2.1 = some (host, addr) ∧
        (b.reserve excluding pick).1.taken = b.taken + 1 ∧
        (b.reserve excluding pick).1.returned = b.returned ∧
        ∀ k, (b.reserve excluding pick).1.pool.countOf k ≤
          b.pool.countOf k + if host = k then 1 else 0 := by
  rcases b.pool.countOf_reserve excluding pick with he | ⟨host, addr, he, hc⟩
  · exact .inl (by simp [reserve, he])
  · refine .inr ⟨host, addr, he, by simp [reserve, he], rfl, fun k => ?_⟩
    have hk : (b.reserve excluding pick).1.pool.countOf k =
        if host = k then addConnections (b.pool.countOf k) 1 else b.pool.countOf k := hc k
    have hadd : addConnections (b.pool.countOf k) 1 ≤ b.pool.countOf k + 1 := Nat.min_le_left ..
    rw [hk]
    split <;> omega

/-- A reservation that is given back is counted and takes one from the count of its host. -/
theorem release_account {b : Balancer} (hv : b.Valid) (host k : HostKey) :
    (b.release host).1.pool.countOf k =
      if host = k then b.pool.countOf k - 1 else b.pool.countOf k :=
  Pool.Valid.countOf_release hv host k

@[simp] theorem taken_release (b : Balancer) (host : HostKey) :
    (b.release host).1.taken = b.taken := rfl

@[simp] theorem returned_release (b : Balancer) (host : HostKey) :
    (b.release host).1.returned = b.returned + 1 := rfl

end Balancer

end ConnectionRouter
