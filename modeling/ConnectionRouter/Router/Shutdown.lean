import ConnectionRouter.Router.World

/-!
# Shutting a router down

A router is shut down by closing its control connection. The shutdown waits until no request
uses that connection, in the same queue as the requests.

* `World.beginShutdown`, `World.resumeShutdown?`, `World.abandonShutdown`: the steps.
* `World.shutdown`: the whole, for a router that no request uses.
-/

namespace ConnectionRouter

/-- What a shutdown waits for. -/
inductive ShutdownStage
  | awaitingControl
  | closing (conn : Connection)
  | finished
  deriving DecidableEq

/-- A shutdown under way. -/
structure Shutdown where
  /-- The name of the router that is shut down. -/
  router : String
  caller : Caller
  stage : ShutdownStage
  deriving DecidableEq

namespace World

/-- Changes a router. -/
def withRouter (w : World) (name : String) (f : Router → Router) : World :=
  { w with routers := w.routers.modify name f }

/-- The control connection is the shutdown's to close. -/
def takeControl (w : World) (s : Shutdown) : World × Shutdown :=
  match (w.routers[s.router]?).bind (·.control) with
  | some conn =>
    (w.withRouter s.router ({ · with control := none }), { s with stage := .closing conn })
  | none =>
    (w.withRouter s.router fun r => { r with turn := r.turn.leave s.caller },
      { s with stage := .finished })

/-- A shutdown starts. -/
def beginShutdown (w : World) (router : String) (caller : Caller) : World × Shutdown :=
  let s : Shutdown := ⟨router, caller, .awaitingControl⟩
  match (w.routers[router]?).bind (·.turn.take? caller) with
  | some turn => (w.withRouter router ({ · with turn := turn })).takeControl s
  | none => (w.withRouter router fun r => { r with turn := r.turn.wait caller }, s)

/-- The next step of a shutdown, if what it waits for is there. -/
def resumeShutdown? (w : World) (s : Shutdown) : Option (World × Shutdown) :=
  match s.stage with
  | .finished => none
  | .awaitingControl =>
    if ((w.routers[s.router]?).map (·.turn.isHeldBy s.caller)).getD false then
      some (w.takeControl s)
    else none
  | .closing conn =>
    let w := { w with network := (w.network.close conn).1 }
    some (w.withRouter s.router fun r => { r with turn := r.turn.leave s.caller },
      { s with stage := .finished })

/-- A shutdown is given up. -/
def abandonShutdown (w : World) (s : Shutdown) : World :=
  let w := w.withRouter s.router fun r => { r with turn := r.turn.leave s.caller }
  match s.stage with
  | .closing conn => w.drop [conn]
  | _ => w

/-- Shuts a router down that no request uses. -/
def shutdown (w : World) (router : String) : World :=
  let (w, s) := w.beginShutdown router 0
  ((w.resumeShutdown? s).map (·.1)).getD w

end World

end ConnectionRouter
