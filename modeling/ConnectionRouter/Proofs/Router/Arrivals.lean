import ConnectionRouter.Proofs.Cluster.Responses
import ConnectionRouter.Proofs.Router.Journey
import ConnectionRouter.Proofs.Router.Requests

/-!
# What a world lets arrive

A request at work in a world makes the strides of a journey. What ends its wait comes from the
network, from the clock, or from the turn that it waits for (`World.arrival?`); once that has come,
the request plays its next part and enters the stage to which the part leads (`World.proceed?_eq`).
-/

namespace ConnectionRouter

/-- Why a connect has failed, if it has. -/
def Except.failure? {α : Type} : Except RoutingError α → Option RoutingError
  | .ok _ => none
  | .error e => some e

theorem failure?_dial (addr : HostAddr) (failure : Option RoutingError) :
    Except.failure? (addr.dial failure) = failure := by
  cases failure <;> rfl

namespace Network

/-- A connect yields an open connection to the address, or an error. -/
theorem connect_eq_dial (n : Network) (addr : HostAddr) :
    (n.connect addr).2 = addr.dial (Except.failure? (n.connect addr).2) := by
  have hcluster : ∀ {conn}, (n.cluster.connect addr).2 = .ok conn → conn = { addr } := by
    intro conn h
    unfold Cluster.connect at h
    split at h
    · cases h
    · split at h <;> cases h
      rfl
  cases hresult : (n.connect addr).2 with
  | error e => rfl
  | ok conn =>
    unfold connect at hresult
    dsimp only at hresult
    split at hresult
    · cases hresult
    · rw [hcluster hresult]
      rfl

end Network

namespace World

/-- What ends the wait of a request, if it has come, and the network then. -/
def arrival? (w : World) (r : Request) : Option (Network × Arrival) :=
  match r.stage with
  | .awaitingControl _ =>
    if ((w.routers[r.router]?).map (·.turn.isHeldBy r.caller)).getD false then
      some (w.network, .turn)
    else none
  | .awaitingTurn _ =>
    if ((w.scene? r.router).map (·.balancer.turn.isHeldBy r.caller)).getD false then
      some (w.network, .turn)
    else none
  | .opening addr _ =>
    match r.due with
    | none => none
    | some due =>
      if w.now < due.time then none
      else some ((w.arrive r addr due).1.network, .opened (Except.failure? (w.arrive r addr due).2))
  | .querying purpose =>
    ((w.scene? r.router).bind (·.refreshConnection? purpose)).map fun conn =>
      ((w.network.query conn).1, .answered conn.addr.host (w.network.query conn).2)
  | .closing conn _ => some ((w.network.close conn).1, .closed)
  | .finished _ => none

variable {w : World} {r : Request} {s : Scene}

theorem exists_arrive (w : World) (r : Request) (addr : HostAddr) (due : Due) :
    ∃ network failure,
      w.arrive r addr due = ({ w with network := network }, addr.dial failure) := by
  unfold arrive
  split
  · exact ⟨w.network, some _, rfl⟩
  · exact ⟨_, _, Prod.ext rfl (Network.connect_eq_dial w.network addr)⟩

/-- A request in a world plays the part that its journey has next. -/
theorem proceed?_eq (hs : w.scene? r.router = some s) (hb : r.stage.balanced = true) (pick : Nat) :
    w.proceed? r pick = (w.arrival? r).bind fun (network, arrival) =>
      (s.proceed? r.caller w.now pick r.stage arrival).map fun (s, stage) =>
        ({ w with network := network }.setScene r.router s).enter r stage := by
  have hcarry : ∀ (network : Network) (part : Scene → Scene × Stage),
      ({ w with network := network } : World).carryOn r part =
        ({ w with network := network }.setScene r.router (part s).1).enter r (part s).2 :=
    fun network part => carryOn_eq (w := { w with network := network }) hs part
  obtain ⟨name, caller, stage, due⟩ := r
  cases stage with
  | awaitingControl round =>
    simp only [proceed?, arrival?]
    split
    · exact congrArg some (hcarry w.network _)
    · rfl
  | awaitingTurn purpose =>
    simp only [proceed?, arrival?]
    split
    · exact congrArg some (hcarry w.network _)
    · rfl
  | opening addr purpose =>
    cases due with
    | none => rfl
    | some due =>
      simp only [proceed?, arrival?]
      split
      · rfl
      · obtain ⟨network, failure, harrive⟩ := exists_arrive w ⟨name, caller, _, some due⟩ addr due
        rw [harrive, Option.bind_some, failure?_dial]
        cases purpose with
        | seed later => cases hb
        | control round later total => exact congrArg some (hcarry _ _)
        | data round lease refused => exact congrArg some (hcarry _ _)
  | querying purpose =>
    simp only [proceed?, arrival?, hs, Option.bind_some]
    cases s.refreshConnection? purpose with
    | none => rfl
    | some conn => exact congrArg some (hcarry _ _)
  | closing conn purpose => exact congrArg some (hcarry _ _)
  | finished result => cases hb

end World

end ConnectionRouter
