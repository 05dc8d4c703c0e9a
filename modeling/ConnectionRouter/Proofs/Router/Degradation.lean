import ConnectionRouter.Proofs.Router.AmongOthers

/-!
# What a request gives up for

A request absorbs most failures: a data connection that cannot be opened, a control connection that
does not answer, a check that cannot ask. What is left is said by `Journey.surfaces`. The request
goes to the seeds without balancing if a control connection that it has just opened does not answer;
then the seeds are tried in order (`SeedPath`). It fails if all candidates for a control connection
refuse (`ControlPath`), or if no host is left to reserve.
-/

namespace ConnectionRouter

/-! ## How strides lead to the seeds and to errors -/

namespace Sequel

variable {w : Wait} {s m : Scene} {addr : HostAddr}

theorem of_seed {later : List HostAddr} (h : Sequel w s (m, .opening addr (.seed later))) :
    ((∃ round conn control e,
        w = some (.querying (.fresh round conn), .answered control (.error e))) ∧
        m.router.seeds = addr :: later) ∨
      ∃ addr' e, w = some (.opening addr' (.seed (addr :: later)), .opened (some e)) := by
  generalize hr : (m, Stage.opening addr (.seed later)) = r at h
  cases h with
  | @fallsBack m round conn control e wait =>
    obtain ⟨rfl, hs⟩ := Prod.mk.inj hr
    refine .inl ⟨⟨round, conn, control, e, wait⟩, ?_⟩
    generalize m.router.seeds = seeds at hs
    cases seeds <;> cases hs
    rfl
  | @triesSeed addr' later' failure wait =>
    cases failure with
    | none => cases hr
    | some e =>
      have hs := (Prod.mk.inj hr).2
      cases later' <;> cases hs
      exact .inr ⟨addr', e, wait⟩
  | _ => cases hr

theorem of_control {round total : Nat} {later : List HostAddr}
    (h : Sequel w s (m, .opening addr (.control round later total))) :
    (m.balancer.bootstrapCandidates m.router.seeds = addr :: later ∧ total = later.length + 1) ∨
      ∃ addr' e,
        w = some (.opening addr' (.control round (addr :: later) total), .opened (some e)) := by
  generalize hr : (m, Stage.opening addr (.control round later total)) = r at h
  cases h with
  | bootstraps _ _ candidates =>
    cases hr
    exact .inl ⟨candidates, rfl⟩
  | @triesNext addr' _ _ _ _ e wait =>
    cases hr
    exact .inr ⟨addr', e, wait⟩
  | fallsBack => exact absurd rfl (not_balanced_of_trySeeds (Prod.mk.inj hr).2)
  | triesSeed => exact absurd rfl (not_balanced_of_seedOpened (Prod.mk.inj hr).2)
  | _ => cases hr

/-- A connection without a lease was opened to a seed. -/
theorem of_unleased {conn : Connection}
    (h : Sequel w s (m, .finished (.ok ⟨conn, none⟩))) :
    ∃ addr later, w = some (.opening addr (.seed later), .opened none) ∧ conn = { addr } := by
  generalize hr : (m, Stage.finished (.ok ⟨conn, none⟩)) = r at h
  cases h with
  | @fallsBack m =>
    have hs := (Prod.mk.inj hr).2
    generalize m.router.seeds = seeds at hs
    cases seeds <;> cases hs
  | @triesSeed addr later failure wait =>
    cases failure with
    | none =>
      cases hr
      exact ⟨addr, later, wait, rfl⟩
    | some e =>
      have hs := (Prod.mk.inj hr).2
      cases later <;> cases hs
  | _ => cases hr

/-- Where errors come from. -/
theorem of_error {e : RoutingError} (h : Sequel w s (m, .finished (.error e))) :
    (m.balancer.bootstrapCandidates m.router.seeds = [] ∧
        e = .clusterUnavailable (.noControlHost 0)) ∨
    (∃ addr round total f, w = some (.opening addr (.control round [] total), .opened (some f)) ∧
        e = .clusterUnavailable (.noControlHost total)) ∨
    (w.Looks ∧ m.balancer.pool.select w.refused = [] ∧ e = .clusterUnavailable .noCandidate) ∨
    m.router.seeds = [] ∨
    ∃ addr, w = some (.opening addr (.seed []), .opened (some e)) := by
  generalize hr : (m, Stage.finished (.error e)) = r at h
  cases h with
  | nobodyToAsk _ _ candidates =>
    cases hr
    exact .inl ⟨candidates, rfl⟩
  | nobodyAnswers wait =>
    cases hr
    exact .inr (.inl ⟨_, _, _, _, wait, rfl⟩)
  | noCandidate looks _ _ nobody =>
    cases hr
    exact .inr (.inr (.inl ⟨looks, nobody, rfl⟩))
  | @fallsBack m =>
    obtain ⟨rfl, hs⟩ := Prod.mk.inj hr
    refine .inr (.inr (.inr (.inl ?_)))
    generalize m.router.seeds = seeds at hs
    cases seeds with
    | nil => rfl
    | cons => cases hs
  | @triesSeed addr later failure wait =>
    cases failure with
    | none => cases hr
    | some f =>
      have hs := (Prod.mk.inj hr).2
      cases later with
      | nil =>
        cases hs
        exact .inr (.inr (.inr (.inr ⟨addr, wait⟩)))
      | cons => cases hs
  | _ => cases hr

end Sequel

/-! ## Paths -/

namespace Stride

/-- The stride begins with a connection that has just been opened as the control connection. -/
def Bootstraps (t : Stride) (round : Nat) (conn : Connection) : Prop :=
  ∃ addr later total, t.wait = some (.opening addr (.control round later total), .opened none) ∧
    conn = { addr }

/-- The stride begins with the failure of the query through a new control connection. -/
def BreaksOff (t : Stride) (round : Nat) (conn : Connection) : Prop :=
  ∃ control e, t.wait = some (.querying (.fresh round conn), .answered control (.error e))

/-- The stride begins with the refusal of a candidate for a control connection. -/
def ControlRefuses (addr : HostAddr) (t : Stride) : Prop :=
  ∃ round later total e,
    t.wait = some (.opening addr (.control round later total), .opened (some e))

/-- The stride begins with the refusal of a seed. -/
def SeedRefuses (addr : HostAddr) (t : Stride) : Prop :=
  ∃ later e, t.wait = some (.opening addr (.seed later), .opened (some e))

/-- The stride leaves counts, priorities, quarantine and the time of the last refresh alone. -/
def Spares (t : Stride) : Prop := t.left.balancer.pool = t.found.balancer.pool

end Stride

/-- A request has gone to the seeds, since the query through a control connection failed that it had
just opened, and these seeds have refused it, in this order. -/
def SeedPath (j : List Stride) (refused : List HostAddr) : Prop :=
  ∃ since u before round conn, j = since ++ u :: before ∧ u.BreaksOff round conn ∧
    (∃ v ∈ before, v.Bootstraps round conn) ∧
    List.Forall₂ Stride.SeedRefuses refused since.reverse ∧ ∀ v ∈ u :: since, v.Spares

/-- The candidates for a control connection: the seeds in order, then each known member that is not
a seed, once. -/
def Scene.Candidates (s : Scene) (candidates : List HostAddr) : Prop :=
  ∃ others, candidates = s.router.seeds ++ others ∧ others.Nodup ∧
    ∀ addr, addr ∈ others ↔ addr ∈ s.balancer.pool.memberAddrs ∧ addr ∉ s.router.seeds

theorem Scene.candidates (s : Scene) {candidates : List HostAddr}
    (h : s.balancer.bootstrapCandidates s.router.seeds = candidates) : s.Candidates candidates :=
  h ▸ s.balancer.bootstrapCandidates_eq s.router.seeds

/-- A request has looked for a control connection, and these of the candidates have refused it, in
this order. The candidates are those at the stride at which it began to look. -/
def ControlPath (j : List Stride) (refused candidates : List HostAddr) : Prop :=
  ∃ since u before, j = since ++ u :: before ∧ u.left.Candidates candidates ∧
    List.Forall₂ Stride.ControlRefuses refused since.reverse

theorem SeedPath.refuse {j : List Stride} {refused : List HostAddr} {t : Stride} {addr : HostAddr}
    (p : SeedPath j refused) (h : t.SeedRefuses addr) (hs : t.Spares) :
    SeedPath (t :: j) (refused ++ [addr]) := by
  obtain ⟨since, u, before, round, conn, rfl, hu, hv, hf, hp⟩ := p
  refine ⟨t :: since, u, before, round, conn, rfl, hu, hv, ?_, ?_⟩
  · rw [List.reverse_cons]
    exact List.rel_append hf (.cons h .nil)
  · intro v hv
    simp only [List.mem_cons] at hv hp
    rcases hv with rfl | rfl | hv
    · exact hp _ (.inl rfl)
    · exact hs
    · exact hp _ (.inr hv)

theorem ControlPath.refuse {j : List Stride} {refused candidates : List HostAddr} {t : Stride}
    {addr : HostAddr} (p : ControlPath j refused candidates) (h : t.ControlRefuses addr) :
    ControlPath (t :: j) (refused ++ [addr]) candidates := by
  obtain ⟨since, u, before, rfl, hc, hf⟩ := p
  refine ⟨t :: since, u, before, rfl, hc, ?_⟩
  rw [List.reverse_cons]
  exact List.rel_append hf (.cons h .nil)

/-- The hosts that have failed in the round of a stage, latest first. -/
def Stage.failed : Stage → List HostKey
  | opening _ (.data _ _ refused) => refused
  | awaitingTurn (.check _ held) | querying (.check _ held) => held.refused
  | closing _ (.rejected _ _ refused) => refused
  | _ => []

/-- Whoever a request leaves out when it looks for a host has failed in the round. -/
theorem Wait.Looks.fails_or_failed {w : Wait} (h : w.Looks) {host : HostKey}
    (hm : host ∈ w.refused) :
    w.Fails host ∨ ∃ stage arrival, w = some (stage, arrival) ∧ host ∈ stage.failed := by
  cases h with
  | begins h =>
    rw [h.refused_eq] at hm
    cases hm
  | refreshed h hp =>
    rw [h.refused_eq hp] at hm
    cases hm
  | fails h =>
    cases h with
    | refused addr round lease refused e =>
      rcases List.mem_cons.mp hm with rfl | hm
      · exact .inl (.refused ..)
      · exact .inr ⟨_, _, rfl, hm⟩
    | rejected conn round lease refused =>
      rcases List.mem_cons.mp hm with rfl | hm
      · exact .inl (.rejected ..)
      · exact .inr ⟨_, _, rfl, hm⟩

/-- A stride adds no failure but the one that it begins with. -/
theorem Sequel.fails_or_failed {w : Wait} {s : Scene} {r : Scene × Stage} (ho : Sequel w s r)
    {host : HostKey} (hm : host ∈ r.2.failed) :
    w.Fails host ∨ ∃ stage arrival, w = some (stage, arrival) ∧ host ∈ stage.failed := by
  have hasks : ∀ {purpose : RefreshPurpose}, w.Asks purpose →
      host ∈ (Stage.querying purpose).failed →
        ∃ stage arrival, w = some (stage, arrival) ∧ host ∈ stage.failed := by
    intro purpose h hm
    cases h with
    | check addr => exact ⟨.opening addr _, _, rfl, hm⟩
    | _ => cases hm
  have hover : ∀ {purpose : RefreshPurpose} {ok : Bool}, w.Refreshed purpose ok →
      host ∈ (Stage.querying purpose).failed →
        ∃ stage arrival, w = some (stage, arrival) ∧ host ∈ stage.failed := by
    intro purpose ok h hm
    cases h with
    | skipped h => exact hasks h hm
    | spared =>
      refine ⟨.awaitingTurn purpose, _, rfl, ?_⟩
      cases purpose <;> exact hm
    | answered => exact ⟨_, _, rfl, hm⟩
  cases ho with
  | reserves looks => exact looks.fails_or_failed hm
  | @awaitsTurn _ purpose asks =>
    refine .inr (hasks asks ?_)
    cases purpose <;> exact hm
  | queries asks => exact .inr (hasks asks hm)
  | @resumes _ purpose wait =>
    refine .inr ⟨_, _, wait, ?_⟩
    cases purpose <;> exact hm
  | rejects ended => exact .inr (hover ended hm)
  | @fallsBack m =>
    dsimp only at hm
    generalize m.router.seeds = seeds at hm
    cases seeds <;> cases hm
  | @triesSeed _ later failure =>
    cases failure with
    | none => cases hm
    | some e => cases later <;> cases hm
  | _ => cases hm

namespace Journey

variable {caller : Caller} {t : Stride} {past : List Stride}

/-- What a request has waited at is where its last stride had led it. -/
theorem exists_last (h : AmongOthers caller (t :: past)) {stage : Stage} {arrival : Arrival}
    (hw : t.wait = some (stage, arrival)) : ∃ last before, past = last :: before ∧
      last.stage = stage ∧ AmongOthers caller past ∧ last.left.Later t.found := by
  cases h with
  | start h =>
    rw [h.wait_eq] at hw
    cases hw
  | next j h => exact ⟨_, _, rfl, h.stage_eq hw, j, h.later⟩

/-- Whoever has failed in the round has failed in one of the strides. -/
theorem exists_fails (h : AmongOthers caller (t :: past)) {host : HostKey}
    (hf : t.wait.Fails host ∨
      ∃ stage arrival, t.wait = some (stage, arrival) ∧ host ∈ stage.failed) :
    ∃ u ∈ t :: past, u.wait.Fails host := by
  induction h using along with
  | start t h =>
    rcases hf with hf | ⟨stage, arrival, hw, -⟩
    · exact ⟨t, List.mem_cons_self, hf⟩
    · rw [h.wait_eq] at hw
      cases hw
  | next t last past j h ih =>
    rcases hf with hf | ⟨stage, arrival, hw, hm⟩
    · exact ⟨t, List.mem_cons_self, hf⟩
    · rw [← h.stage_eq hw] at hm
      obtain ⟨u, hu, hf⟩ := ih (j.plays.sequel.fails_or_failed hm)
      exact ⟨u, List.mem_cons_of_mem _ hu, hf⟩

/-- The query through a new control connection comes after its opening. -/
theorem exists_bootstraps (h : AmongOthers caller (t :: past)) {round : Nat} {conn : Connection}
    (hs : t.stage = .awaitingTurn (.fresh round conn) ∨ t.stage = .querying (.fresh round conn)) :
    ∃ v ∈ t :: past, v.Bootstraps round conn := by
  have hasks : ∀ {t : Stride}, t.wait.Asks (.fresh round conn) → t.Bootstraps round conn := by
    intro t ha
    generalize hw : t.wait = w at ha
    cases ha with
    | fresh addr round later total => exact ⟨addr, later, total, hw, rfl⟩
  have hleads : t.wait.Asks (.fresh round conn) ∨
      t.wait = some (.awaitingTurn (.fresh round conn), .turn) := by
    have ho := h.plays.sequel
    rcases hs with hs | hs <;> rw [hs] at ho
    · exact .inl ho.of_awaitingTurn
    · exact ho.of_querying
  rcases hleads with ha | hw
  · exact ⟨t, List.mem_cons_self, hasks ha⟩
  · -- before the turn came, the request had waited for it
    obtain ⟨last, before, rfl, hlast, j, -⟩ := h.exists_last hw
    have ho := j.plays.sequel
    rw [hlast] at ho
    exact ⟨last, List.mem_cons_of_mem _ List.mem_cons_self, hasks ho.of_awaitingTurn⟩

/-- After the failure of a query a request that gives up balancing leaves the pool alone. -/
theorem spares_of_breaksOff (hp : t.Plays caller) {round : Nat} {conn : Connection}
    (hb : t.BreaksOff round conn) (hs : ¬t.stage.balanced = true) : t.Spares := by
  obtain ⟨control, e, hw⟩ := hb
  obtain ⟨-, hpool | ⟨addr, lease, hstage, -⟩⟩ := hp.sequel.moves
  · have hear : (t.found.hear caller t.now t.wait).balancer.pool = t.found.balancer.pool := by
      rw [hw]
      simp [Scene.hear, Balancer.finishRefresh_error]
    exact hpool.trans hear
  · exact absurd (congrArg Stage.balanced hstage) hs

/-- A seed that is tried changes nothing. -/
theorem left_eq_of_seed (hp : t.Plays caller) {addr : HostAddr} {later : List HostAddr}
    {arrival : Arrival} (hw : t.wait = some (.opening addr (.seed later), arrival)) :
    t.left = t.found := by
  have ho := hp.sequel
  rw [hw] at ho
  obtain ⟨_, _, _, -, hr⟩ := ho.seed_of_not_balanced rfl
  exact (Prod.mk.inj hr).1

/-- A request that tries a seed has come there by the failure of a query, and the seeds before it
have refused. -/
theorem seedPath (h : AmongOthers caller (t :: past)) {addr : HostAddr} {later : List HostAddr}
    (hs : t.stage = .opening addr (.seed later)) :
    ∃ refused, SeedPath (t :: past) refused ∧ t.left.router.seeds = refused ++ addr :: later := by
  induction h using along generalizing addr later with
  | start t h =>
    have ho := h.plays.sequel
    rw [hs, h.wait_eq] at ho
    rcases ho.of_seed with ⟨⟨_, _, _, _, hw⟩, -⟩ | ⟨_, _, hw⟩ <;> cases hw
  | next t last past j h ih =>
    have ho := h.plays.sequel
    rw [hs] at ho
    rcases ho.of_seed with ⟨⟨round, conn, control, e, hw⟩, hseeds⟩ | ⟨addr', e, hw⟩
    · have hspares : t.Spares :=
        spares_of_breaksOff h.plays ⟨control, e, hw⟩ (by simp [hs, Stage.balanced])
      exact ⟨[], ⟨[], t, last :: past, round, conn, rfl, ⟨control, e, hw⟩,
        j.exists_bootstraps (.inr (h.stage_eq hw)), .nil, by simpa using hspares⟩, hseeds⟩
    · obtain ⟨refused, hpath, hseeds⟩ := ih (h.stage_eq hw)
      have hleft := left_eq_of_seed h.plays hw
      refine ⟨refused ++ [addr'], hpath.refuse ⟨_, e, hw⟩ (by rw [Stride.Spares, hleft]), ?_⟩
      rw [hleft, h.later.seeds_eq, hseeds]
      simp

/-- A request that tries a candidate for a control connection has been refused by those before. -/
theorem controlPath (h : AmongOthers caller (t :: past)) {addr : HostAddr} {round total : Nat}
    {later : List HostAddr} (hs : t.stage = .opening addr (.control round later total)) :
    ∃ refused, ControlPath (t :: past) refused (refused ++ addr :: later) ∧
      total = (refused ++ addr :: later).length := by
  induction h using along generalizing addr later with
  | start t h =>
    have ho := h.plays.sequel
    rw [hs] at ho
    rcases ho.of_control with ⟨hc, ht⟩ | ⟨_, _, hw⟩
    · exact ⟨[], ⟨[], t, [], rfl, t.left.candidates hc, .nil⟩, ht⟩
    · rw [h.wait_eq] at hw
      cases hw
  | next t last past j h ih =>
    have ho := h.plays.sequel
    rw [hs] at ho
    rcases ho.of_control with ⟨hc, ht⟩ | ⟨addr', e, hw⟩
    · exact ⟨[], ⟨[], t, last :: past, rfl, t.left.candidates hc, .nil⟩, ht⟩
    · obtain ⟨refused, hpath, ht⟩ := ih (h.stage_eq hw)
      refine ⟨refused ++ [addr'], ?_, by simpa using ht⟩
      simpa using hpath.refuse ⟨_, _, _, e, hw⟩

/-- A connection without a lease is to the first seed that accepts. -/
theorem firstSeed_of_unleased (h : AmongOthers caller (t :: past)) {conn : Connection}
    (hs : t.stage = .finished (.ok ⟨conn, none⟩)) : ∃ refused addr later,
      SeedPath past refused ∧ t.found.router.seeds = refused ++ addr :: later ∧
        t.wait = some (.opening addr (.seed later), .opened none) ∧ conn = { addr } ∧ t.Spares := by
  have ho := h.plays.sequel
  rw [hs] at ho
  obtain ⟨addr, later, hw, hconn⟩ := ho.of_unleased
  obtain ⟨last, before, rfl, hlast, j, hlater⟩ := h.exists_last hw
  obtain ⟨refused, hpath, hseeds⟩ := j.seedPath hlast
  exact ⟨refused, addr, later, hpath, hlater.seeds_eq.trans hseeds, hw, hconn,
    by rw [Stride.Spares, left_eq_of_seed h.plays hw]⟩

/-- A request without a candidate has failed with every host that is still available. -/
theorem nobody_available (h : AmongOthers caller (t :: past)) (hl : t.wait.Looks)
    (hn : t.left.balancer.pool.select t.wait.refused = []) :
    (∀ host, ¬t.left.balancer.pool.Available (dials past t.wait.round) host) ∧
      ∀ host ∈ dials past t.wait.round, ∃ u ∈ t :: past, u.wait.Fails host := by
  rw [(h.poised fun _ _ => hl.balanced).dials_eq]
  refine ⟨fun host hav => ?_, fun host hm => h.exists_fails (hl.fails_or_failed hm)⟩
  obtain ⟨host', m, -, -, hr⟩ := Pool.Valid.reserve_of_available h.valid_left hav 0
  simp [Pool.reserve, hn] at hr

/-- The last seed has refused, after all others. -/
theorem seedPath_of_last (h : AmongOthers caller (t :: past)) {addr : HostAddr} {e : RoutingError}
    (hw : t.wait = some (.opening addr (.seed []), .opened (some e))) :
    SeedPath (t :: past) t.found.router.seeds := by
  obtain ⟨last, before, rfl, hlast, j, hlater⟩ := h.exists_last hw
  obtain ⟨refused, hpath, hseeds⟩ := j.seedPath hlast
  rw [hlater.seeds_eq, hseeds]
  exact hpath.refuse ⟨_, e, hw⟩ (by rw [Stride.Spares, left_eq_of_seed h.plays hw])

/-- The last candidate for a control connection has refused, after all others. -/
theorem controlPath_of_last (h : AmongOthers caller (t :: past)) {addr : HostAddr}
    {round total : Nat} {e : RoutingError}
    (hw : t.wait = some (.opening addr (.control round [] total), .opened (some e))) :
    ∃ candidates, ControlPath (t :: past) candidates candidates ∧ total = candidates.length := by
  obtain ⟨last, before, rfl, hlast, j, -⟩ := h.exists_last hw
  obtain ⟨refused, hpath, ht⟩ := j.controlPath hlast
  exact ⟨refused ++ [addr], hpath.refuse ⟨_, _, _, e, hw⟩, ht⟩

/-- **What surfaces.** Whatever ends the waits of a request and whatever others do meanwhile:

* it tries the seeds without balancing only after the query through a control connection failed that
  it had just opened; then they are tried in order and the pool is left alone, and the connection
  without a lease that it hands out is to the first seed that accepts;
* an error is that of the last seed, after all others have refused in the same way, or tells that
  the cluster is unavailable: all candidates for a control connection have refused, or no host is
  available but those that have failed in the round. -/
theorem surfaces (h : AmongOthers caller (t :: past)) (hseeds : t.found.router.seeds ≠ []) :
    (∀ addr later, t.stage = .opening addr (.seed later) →
      ∃ refused, SeedPath (t :: past) refused ∧ t.found.router.seeds = refused ++ addr :: later) ∧
    (∀ conn, t.stage = .finished (.ok ⟨conn, none⟩) → ∃ refused addr later,
      SeedPath past refused ∧ t.found.router.seeds = refused ++ addr :: later ∧
        t.wait = some (.opening addr (.seed later), .opened none) ∧ conn = { addr } ∧ t.Spares) ∧
    ∀ e, t.stage = .finished (.error e) →
      (SeedPath (t :: past) t.found.router.seeds ∧
        ∃ addr, t.wait = some (.opening addr (.seed []), .opened (some e))) ∨
      (∃ candidates, ControlPath (t :: past) candidates candidates ∧
        e = .clusterUnavailable (.noControlHost candidates.length)) ∨
      e = .clusterUnavailable .noCandidate ∧
        (∀ host, ¬t.left.balancer.pool.Available (dials past t.wait.round) host) ∧
        ∀ host ∈ dials past t.wait.round, ∃ u ∈ t :: past, u.wait.Fails host := by
  refine ⟨fun addr later hs => ?_, fun conn hs => h.firstSeed_of_unleased hs, fun e hs => ?_⟩
  · obtain ⟨refused, hpath, heq⟩ := h.seedPath hs
    exact ⟨refused, hpath, h.plays.later.seeds_eq.symm.trans heq⟩
  · have ho := h.plays.sequel
    rw [hs] at ho
    rcases ho.of_error with ⟨hc, rfl⟩ | ⟨addr, round, total, f, hw, rfl⟩ | ⟨hl, hn, rfl⟩ | hno |
      ⟨addr, hw⟩
    · exact .inr (.inl ⟨[], ⟨[], t, past, rfl, t.left.candidates hc, .nil⟩, rfl⟩)
    · obtain ⟨candidates, hpath, rfl⟩ := h.controlPath_of_last hw
      exact .inr (.inl ⟨candidates, hpath, rfl⟩)
    · exact .inr (.inr ⟨rfl, h.nobody_available hl hn⟩)
    · exact absurd (h.plays.later.seeds_eq.symm.trans hno) hseeds
    · exact .inl ⟨h.seedPath_of_last hw, addr, hw⟩

/-- The first seed accepts as the control connection, does not answer, and refuses afterwards. -/
def secondSeed : List Stride :=
  undisturbedFrom
    { router :=
        { seeds := [⟨"a", standardPort⟩, ⟨"b", standardPort⟩]
          connectSecs := 5
          balancer := some 0 }
      id := 0
      balancer := { preference := none, settings := {} }
      ledger := {} } 0 0
    [.opened none, .answered "a" (.error (.topologyQuery .refused)),
      .opened (some (.nodeUnreachable "a" .refused)), .opened none]

theorem surfaces_secondSeed : ∃ t past, secondSeed = t :: past ∧
    t.stage = .finished (.ok ⟨{ addr := ⟨"b", standardPort⟩ }, none⟩) ∧
    t.found.router.seeds ≠ [] ∧ t.Spares ∧ ∃ refused, SeedPath past refused := by
  have hj : AmongOthers 0 secondSeed := amongOthers_undisturbedFrom (.fresh _ _) 0 0 _
  have hhead : secondSeed.head?.map (fun t => (t.stage, t.found.router.seeds.isEmpty)) =
      some (.finished (.ok ⟨{ addr := ⟨"b", standardPort⟩ }, none⟩), false) := by decide +kernel
  generalize secondSeed = j at hj hhead ⊢
  obtain - | ⟨t, past⟩ := j
  · cases hhead
  simp only [List.head?_cons, Option.map_some, Option.some.injEq, Prod.mk.injEq] at hhead
  have hseeds : t.found.router.seeds ≠ [] := by simpa using hhead.2
  obtain ⟨refused, -, -, hpath, -, -, -, hspares⟩ := (surfaces hj hseeds).2.1 _ hhead.1
  exact ⟨t, past, rfl, hhead.1, hseeds, hspares, refused, hpath⟩

end Journey

end ConnectionRouter
