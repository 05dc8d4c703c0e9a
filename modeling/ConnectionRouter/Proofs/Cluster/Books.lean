import ConnectionRouter.Proofs.Cluster.OpenConnections
import Mathlib.Data.List.Induction

/-!
# The books of a cluster

Whoever uses a cluster starts connects, which take as long as the delay of the address and may be
given up before they end, and closes and drops the connections that came of them, in any order and
while the nodes change. A history is a cluster with all connects that are under way in it and all
connections that were ever opened to it, each with what its owner has done with it.

* `ClusterHistory.run`: the history of a list of events on a new cluster.
* `ClusterHistory.Moves`: what an event does to the books.
* `ClusterHistory.Agrees`: what every event keeps, the books agree with what the owners did.
* `ClusterHistory.run_counts_once`: what the books say of a run.
-/

namespace ConnectionRouter

/-! ## Histories -/

/-- A connect under way. -/
structure Dial where
  addr : HostAddr
  /-- When its delay is over. -/
  due : Instant
  deriving DecidableEq

/-- A connection that was opened, and what its owner has done with it. -/
structure Handle where
  /-- The address that was dialed. -/
  addr : HostAddr
  conn : Connection
  /-- How often it was closed. -/
  closes : Nat := 0
  dropped : Bool := false
  /-- How many connections its closes and its drop took off all that are open. -/
  released : Nat := 0
  deriving DecidableEq

namespace Handle

def member (o : Handle) : HostKey := o.addr.key standardPort

/-- The connection was neither closed nor dropped yet. -/
def isOpen (o : Handle) : Bool := o.closes == 0 && !o.dropped

/-- The connection was addressed to a member, and neither closed nor dropped yet. -/
def opens (member : HostKey) (o : Handle) : Bool := o.isOpen && o.member == member

/-- The connection leads to the address that was dialed, and knows whether it was let go of. -/
structure Consistent (o : Handle) : Prop where
  addr : o.conn.addr = o.addr
  closed : o.conn.closed = !o.isOpen

theorem Consistent.opens_eq {o : Handle} (c : o.Consistent) (member : HostKey) :
    o.conn.opens member = o.opens member := by
  rw [Connection.opens, c.closed, Bool.not_not, Connection.member, c.addr, opens, Handle.member]

end Handle

/-- What happens to a cluster. Connects under way and connections are known by their places. -/
inductive ClusterEvent
  | dial (addr : HostAddr)
  /-- A connect reaches its node, if its delay is over. -/
  | arrive (i : Nat)
  /-- A connect is given up before it ends. -/
  | giveUp (i : Nat)
  | query (i : Nat)
  | close (i : Nat)
  | drop (i : Nat)
  | stop (target : String)
  | start (target : String)
  | list (target : String)
  | unlist (target : String)
  | add (node : Node)
  | queryFailure (on : Bool)
  | delay (member : HostKey) (delay : Duration)
  | advance (duration : Duration)
  deriving DecidableEq

/-- A connect to a member starts. -/
def ClusterEvent.dials (member : HostKey) : ClusterEvent → Bool
  | .dial addr => addr.key standardPort == member
  | _ => false

/-- A cluster, the connects under way in it, and all connections that were opened to it. -/
structure ClusterHistory where
  cluster : Cluster
  now : Instant := 0
  dials : List Dial := []
  handles : List Handle := []

namespace ClusterHistory

/-- The connect at a place ends: it opens a connection or fails. -/
def settle (h : ClusterHistory) (i : Nat) (addr : HostAddr) : ClusterHistory :=
  let (cluster, result) := h.cluster.connect addr
  let h := { h with cluster, dials := h.dials.eraseIdx i }
  match result with
  | .ok conn => { h with handles := h.handles ++ [{ addr, conn }] }
  | .error _ => h

/-- The connection at a place, unless it was dropped. -/
def held? (h : ClusterHistory) (i : Nat) : Option Handle := (h.handles[i]?).filter (!·.dropped)

/-- The connection at a place is let go of, by a close or a drop that `o` tells of. -/
def release (h : ClusterHistory) (i : Nat) (o : Handle) : ClusterHistory :=
  let (cluster, conn) := h.cluster.close o.conn
  { h with
    cluster
    handles := h.handles.set i
      { o with conn, released := o.released + (h.cluster.totalOpen - cluster.totalOpen) } }

/-- The history after one more event. -/
def after (h : ClusterHistory) : ClusterEvent → ClusterHistory
  | .dial addr =>
    let (cluster, delay) := h.cluster.attempt addr
    { h with cluster, dials := h.dials ++ [⟨addr, h.now + delay⟩] }
  | .arrive i =>
    match h.dials[i]? with
    | some d => if d.due ≤ h.now then h.settle i d.addr else h
    | none => h
  | .giveUp i => { h with dials := h.dials.eraseIdx i }
  | .query i =>
    match h.held? i with
    | some o => { h with cluster := (h.cluster.query o.conn).1 }
    | none => h
  | .close i =>
    match h.held? i with
    | some o => h.release i { o with closes := o.closes + 1 }
    | none => h
  | .drop i =>
    match h.held? i with
    | some o => h.release i { o with dropped := true }
    | none => h
  | .stop target => { h with cluster := h.cluster.stop target }
  | .start target => { h with cluster := h.cluster.start target }
  | .list target => { h with cluster := h.cluster.list target }
  | .unlist target => { h with cluster := h.cluster.unlist target }
  | .add node => { h with cluster := h.cluster.add node }
  | .queryFailure on => { h with cluster := { h.cluster with queryFailure := on } }
  | .delay member delay =>
    { h with cluster := { h.cluster with delays := h.cluster.delays.insert member delay } }
  | .advance duration => { h with now := h.now + duration }

/-- The history of a list of events on a new cluster. -/
def run (nodes : List Node) (events : List ClusterEvent) : ClusterHistory :=
  events.foldl after { cluster := { nodes } }

variable {h h' : ClusterHistory} {e : ClusterEvent} {i : Nat} {o o' : Handle}

/-! ## What an event does -/

/-- What an event does to the books and to the connections. -/
inductive Moves (h : ClusterHistory) : ClusterEvent → ClusterHistory → Prop
  | dialed (addr : HostAddr) : Moves h (.dial addr) (h.after (.dial addr))
  | opened {i : Nat} {addr : HostAddr} {h' : ClusterHistory}
      (hhandles : h'.handles = h.handles ++ [{ addr, conn := { addr } }])
      (hopen : h'.cluster.openCount = h.cluster.openCount.tally (addr.key standardPort) 0 (· + 1))
      (hattempts : h'.cluster.attempts = h.cluster.attempts) : Moves h (.arrive i) h'
  /-- A connection is closed or dropped. -/
  | released {e : ClusterEvent} {i : Nat} {o o' : Handle}
      (hdials : ∀ member, e.dials member = false) (ho : h.handles[i]? = some o)
      (haddr : o'.addr = o.addr) (hconn : o'.conn = o.conn) (hreleased : o'.released = o.released)
      (hover : o'.isOpen = false) : Moves h e (h.release i o')
  /-- The books stay as they are, but for the number of queries. -/
  | rested {e : ClusterEvent} {h' : ClusterHistory} (hdials : ∀ member, e.dials member = false)
      (hhandles : h'.handles = h.handles) (hopen : h'.cluster.openCount = h.cluster.openCount)
      (hattempts : h'.cluster.attempts = h.cluster.attempts) : Moves h e h'

theorem Moves.refl (hdials : ∀ member, e.dials member = false) : h.Moves e h :=
  .rested hdials rfl rfl rfl

theorem settle_moves (h : ClusterHistory) (i : Nat) (addr : HostAddr) :
    h.Moves (.arrive i) (h.settle i addr) := by
  rcases h.cluster.connect_cases addr with ⟨e, hfail⟩ | hok
  · simp only [settle, hfail]
    exact .rested (fun _ => rfl) rfl rfl rfl
  · simp only [settle, hok]
    exact .opened rfl rfl rfl

theorem getElem?_of_held? (ho : h.held? i = some o) : h.handles[i]? = some o :=
  (Option.filter_eq_some_iff.mp ho).1

theorem cluster_release (h : ClusterHistory) (i : Nat) (o : Handle) :
    (h.release i o).cluster = (h.cluster.close o.conn).1 := rfl

theorem handles_release (h : ClusterHistory) (i : Nat) (o : Handle) :
    (h.release i o).handles = h.handles.set i
      { o with
        conn := { o.conn with closed := true }
        released := o.released + (h.cluster.totalOpen - (h.release i o).cluster.totalOpen) } := by
  rw [← h.cluster.snd_close]
  rfl

theorem moves (h : ClusterHistory) (e : ClusterEvent) : h.Moves e (h.after e) := by
  cases e with
  | dial addr => exact .dialed addr
  | arrive i =>
    simp only [after]
    split
    · split
      · exact h.settle_moves i _
      · exact .refl fun _ => rfl
    · exact .refl fun _ => rfl
  | query i =>
    simp only [after]
    split
    · exact .rested (fun _ => rfl) rfl rfl rfl
    · exact .refl fun _ => rfl
  | close i =>
    simp only [after]
    split
    · rename_i o ho
      exact .released (fun _ => rfl) (getElem?_of_held? ho) rfl rfl rfl (by simp [Handle.isOpen])
    · exact .refl fun _ => rfl
  | drop i =>
    simp only [after]
    split
    · rename_i o ho
      exact .released (fun _ => rfl) (getElem?_of_held? ho) rfl rfl rfl (by simp [Handle.isOpen])
    · exact .refl fun _ => rfl
  | _ => exact .rested (fun _ => rfl) rfl rfl rfl

/-! ## Attempts -/

/-- An event counts as an attempt on a member exactly if it starts a connect to it. -/
theorem Moves.attemptsTo_eq (m : h.Moves e h') (member : HostKey) :
    h'.cluster.attemptsTo member =
      h.cluster.attemptsTo member + if e.dials member then 1 else 0 := by
  have hkeep : e.dials member = false → h'.cluster.attempts = h.cluster.attempts →
      h'.cluster.attemptsTo member =
        h.cluster.attemptsTo member + if e.dials member then 1 else 0 := by
    intro hdials hattempts
    rw [Cluster.attemptsTo, hattempts, hdials]
    rfl
  cases m with
  | dialed addr =>
    simp only [after, Cluster.attempt, Cluster.attemptsTo, ClusterEvent.dials,
      Table.getElem?_tally, beq_iff_eq]
    by_cases hm : addr.key standardPort = member
    · simp [hm]
    · simp [hm]
  | opened _ _ hattempts => exact hkeep rfl hattempts
  | released hdials => exact hkeep (hdials member) (h.cluster.attempts_close _)
  | rested hdials _ _ hattempts => exact hkeep (hdials member) hattempts

theorem attemptsTo_run (nodes : List Node) (events : List ClusterEvent) (member : HostKey) :
    (run nodes events).cluster.attemptsTo member = events.countP (·.dials member) := by
  induction events using List.reverseRecOn with
  | nil => simp [run, Cluster.attemptsTo]
  | append_singleton events e ih =>
    rw [run, List.foldl_concat, ← run, (moves _ e).attemptsTo_eq, ih, List.countP_append,
      List.countP_singleton]

/-! ## Open connections -/

/-- Open are the connections that their owners neither closed nor dropped, and each other one was
released once. -/
structure Agrees (h : ClusterHistory) : Prop where
  consistent : ∀ o ∈ h.handles, o.Consistent
  openTo : ∀ member, h.cluster.openTo member = h.handles.countP (·.opens member)
  released : ∀ o ∈ h.handles, o.released = if o.isOpen then 0 else 1

/-- If the open connections of each member are counted right, so are all open connections. -/
theorem totalOpen_eq (hconsistent : ∀ o ∈ h.handles, o.Consistent)
    (hopen : ∀ member, h.cluster.openTo member = h.handles.countP (·.opens member)) :
    h.cluster.totalOpen = h.handles.countP (·.isOpen) := by
  have hconns : ∀ member,
      h.cluster.openTo member = (h.handles.map Handle.conn).countP (·.opens member) := by
    intro member
    rw [hopen, List.countP_map]
    refine List.countP_congr fun o ho => ?_
    rw [Function.comp_apply, (hconsistent o ho).opens_eq]
  rw [Cluster.totalOpen_eq hconns, List.countP_map]
  refine List.countP_congr fun o ho => ?_
  rw [Function.comp_apply, (hconsistent o ho).closed, Bool.not_not]

/-- A handle that does not count takes the place of one that may. -/
theorem countP_set_handle {p : Handle → Bool} (ho : h.handles[i]? = some o) (ho' : p o' = false) :
    (h.handles.set i o').countP p = h.handles.countP p - if p o then 1 else 0 := by
  obtain ⟨hi, rfl⟩ := List.getElem?_eq_some_iff.mp ho
  rw [List.countP_set hi, ho']
  rfl

namespace Agrees

theorem start (nodes : List Node) : Agrees { cluster := { nodes } } where
  consistent _ ho := absurd ho List.not_mem_nil
  openTo _ := by simp [Cluster.openTo]
  released _ ho := absurd ho List.not_mem_nil

theorem of_eq (a : h.Agrees) (hhandles : h'.handles = h.handles)
    (hopen : h'.cluster.openCount = h.cluster.openCount) : h'.Agrees where
  consistent := by
    rw [hhandles]
    exact a.consistent
  openTo member := by
    rw [Cluster.openTo, hopen, hhandles]
    exact a.openTo member
  released := by
    rw [hhandles]
    exact a.released

/-- A new connection is open, and counted under the key of the address dialed. -/
theorem opened {addr : HostAddr} (a : h.Agrees)
    (hhandles : h'.handles = h.handles ++ [{ addr, conn := { addr } }])
    (hopen : h'.cluster.openCount = h.cluster.openCount.tally (addr.key standardPort) 0 (· + 1)) :
    h'.Agrees := by
  have hcases : ∀ k ∈ h'.handles, k ∈ h.handles ∨ k = { addr, conn := { addr } } := by
    simp [hhandles]
  refine ⟨fun k hk => ?_, fun member => ?_, fun k hk => ?_⟩
  · rcases hcases k hk with hk | rfl
    · exact a.consistent k hk
    · exact ⟨rfl, rfl⟩
  · have hnew : Handle.opens member { addr, conn := { addr } } =
        (addr.key standardPort == member) := rfl
    rw [hhandles, List.countP_append, List.countP_singleton, hnew, ← a.openTo]
    simp only [Cluster.openTo, hopen, Table.getElem?_tally, beq_iff_eq]
    by_cases hm : addr.key standardPort = member
    · simp [hm]
    · simp [hm]
  · rcases hcases k hk with hk | rfl
    · exact a.released k hk
    · rfl

/-- A connection that is closed or dropped is taken off the books, unless it was before. -/
theorem release (a : h.Agrees) (ho : h.handles[i]? = some o) (haddr : o'.addr = o.addr)
    (hconn : o'.conn = o.conn) (hreleased : o'.released = o.released)
    (hover : o'.isOpen = false) : (h.release i o').Agrees := by
  have hmem : o ∈ h.handles := List.mem_of_getElem? ho
  have hcases : ∀ k ∈ (h.release i o').handles, k ∈ h.handles ∨
      k.Consistent ∧ k.isOpen = false ∧ k.released =
        o.released + (h.cluster.totalOpen - (h.release i o').cluster.totalOpen) := by
    intro k hk
    rw [handles_release] at hk
    rcases List.mem_or_eq_of_mem_set hk with hk | rfl
    · exact .inl hk
    · refine .inr ⟨⟨?_, ?_⟩, hover, by rw [hreleased]⟩
      · rw [hconn, (a.consistent o hmem).addr, haddr]
      · exact (congrArg (!·) hover).symm
  have hconsistent : ∀ k ∈ (h.release i o').handles, k.Consistent := by
    intro k hk
    rcases hcases k hk with hk | ⟨hk, -⟩
    · exact a.consistent k hk
    · exact hk
  have hopen : ∀ member, (h.release i o').cluster.openTo member =
      (h.release i o').handles.countP (·.opens member) := by
    intro member
    have hgone : ∀ conn released,
        Handle.opens member { o' with conn, released } = false := by
      intro conn released
      change (o'.isOpen && _) = false
      rw [hover, Bool.false_and]
    rw [cluster_release, Cluster.openTo_close, hconn, (a.consistent o hmem).opens_eq, a.openTo,
      handles_release, countP_set_handle ho (hgone _ _)]
  refine ⟨hconsistent, hopen, fun k hk => ?_⟩
  rcases hcases k hk with hk | ⟨-, hkopen, hkreleased⟩
  · exact a.released k hk
  · have htotal : (h.release i o').cluster.totalOpen =
        h.handles.countP (·.isOpen) - if o.isOpen then 1 else 0 := by
      rw [totalOpen_eq hconsistent hopen, handles_release]
      exact countP_set_handle ho hover
    rw [hkreleased, htotal, totalOpen_eq a.consistent a.openTo, a.released o hmem, hkopen]
    cases hoopen : o.isOpen with
    | false => simp
    | true =>
      have hpos : 0 < h.handles.countP (·.isOpen) := List.countP_pos_iff.mpr ⟨o, hmem, hoopen⟩
      simp only [if_true, Bool.false_eq_true, if_false]
      omega

theorem of_moves (a : h.Agrees) (m : h.Moves e h') : h'.Agrees := by
  cases m with
  | dialed addr => exact a.of_eq rfl rfl
  | opened hhandles hopen _ => exact a.opened hhandles hopen
  | released _ ho haddr hconn hreleased hover => exact a.release ho haddr hconn hreleased hover
  | rested _ hhandles hopen _ => exact a.of_eq hhandles hopen

theorem run (nodes : List Node) (events : List ClusterEvent) :
    (ClusterHistory.run nodes events).Agrees := by
  induction events using List.reverseRecOn with
  | nil => exact start nodes
  | append_singleton events e ih =>
    rw [ClusterHistory.run, List.foldl_concat]
    exact ih.of_moves (moves _ e)

/-- What a connection is taken off holds it: the subtraction is exact. -/
theorem openTo_close_add_one (a : h.Agrees) (ho : o ∈ h.handles) (hopen : o.isOpen = true) :
    (h.cluster.close o.conn).1.openTo o.member + 1 = h.cluster.openTo o.member := by
  have hopens : o.opens o.member = true := by simp [Handle.opens, hopen]
  have hpos : 0 < h.handles.countP (·.opens o.member) := List.countP_pos_iff.mpr ⟨o, ho, hopens⟩
  rw [Cluster.openTo_close, (a.consistent o ho).opens_eq, if_pos hopens, a.openTo]
  omega

theorem close_eq_self (a : h.Agrees) (ho : o ∈ h.handles) (hover : o.isOpen = false) :
    h.cluster.close o.conn = (h.cluster, o.conn) := by
  have hclosed : o.conn.closed = true := by
    rw [(a.consistent o ho).closed, hover]
    rfl
  rw [Cluster.close, if_pos hclosed]

end Agrees

/-! ## Counting once -/

/-- What the books of a cluster say of all that happened to it. -/
structure CountsOnce (h : ClusterHistory) (events : List ClusterEvent) : Prop where
  /-- Every connect that was started is an attempt, whatever became of it. -/
  attemptsTo : ∀ member, h.cluster.attemptsTo member = events.countP (·.dials member)
  /-- Open are the connections that were opened and neither closed nor dropped yet. -/
  openTo : ∀ member, h.cluster.openTo member = h.handles.countP (·.opens member)
  totalOpen : h.cluster.totalOpen = h.handles.countP (·.isOpen)
  /-- The first close or drop of a connection takes it off its count, which is never zero then. -/
  takesOff : ∀ o ∈ h.handles, o.isOpen = true →
    (h.cluster.close o.conn).1.openTo o.member + 1 = h.cluster.openTo o.member
  /-- Later ones change nothing. -/
  leaves : ∀ o ∈ h.handles, o.isOpen = false → h.cluster.close o.conn = (h.cluster, o.conn)
  /-- So a connection is released once, however often it is closed before it is dropped. -/
  released : ∀ o ∈ h.handles, o.released = if o.isOpen then 0 else 1

/-- **A cluster counts each connection once**, whatever its users do in whatever order: connects that
are delayed, given up or refused, connections that are closed again and again or dropped, and nodes
that change. -/
theorem run_counts_once (nodes : List Node) (events : List ClusterEvent) :
    (run nodes events).CountsOnce events where
  attemptsTo := attemptsTo_run nodes events
  openTo := (Agrees.run nodes events).openTo
  totalOpen := totalOpen_eq (Agrees.run nodes events).consistent (Agrees.run nodes events).openTo
  takesOff _ ho hopen := (Agrees.run nodes events).openTo_close_add_one ho hopen
  leaves _ ho hover := (Agrees.run nodes events).close_eq_self ho hover
  released := (Agrees.run nodes events).released

/-- Of four connects one is given up while it is delayed and one reaches a node that has stopped.
One of the two connections is closed twice and dropped; the other one, to a port of its own, stays
open. -/
example :
    let h := run [{ host := "a" }, { host := "a", port := some 7 }]
      [.dial ⟨"a", 5433⟩, .delay "a" 5, .dial ⟨"a", 5433⟩, .dial ⟨"a", 5433⟩, .dial ⟨"a", 7⟩,
        .arrive 0, .arrive 2, .giveUp 0, .close 0, .close 0, .stop "a", .advance 5, .arrive 0,
        .drop 0]
    h.handles.map (·.released) = [1, 0] ∧ h.cluster.attemptsTo "a" = 3 ∧
      h.cluster.openTo "a" = 0 ∧ h.cluster.openTo "a:7" = 1 := by
  decide +kernel

end ClusterHistory

end ConnectionRouter
