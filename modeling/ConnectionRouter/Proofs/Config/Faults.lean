import ConnectionRouter.Config.Validation
import ConnectionRouter.Proofs.Balancer.Registry
import ConnectionRouter.Proofs.Results
import ConnectionRouter.Router.Basic

/-!
# The faults of a configuration

A configuration is checked twice: a router that is made from it stops at the first error, and
validation collects every fault. The two agree. What validation demands is listed here by itself
(`Config.Demand`), with the fault of a configuration that violates it (`Config.Violates`).

* `Config.reports_faults`: validation reports each violated demand once, in the order of demands.
* `Router.create_of_seeds`: once the seeds are read, only the preference text can fail.
* `Config.faults_agree`: a valid configuration makes a router, and an error of a router that is
  not made is among the faults.
-/

namespace ConnectionRouter

namespace Config

/-! ## Demands -/

/-- What is demanded of a configuration. -/
inductive Demand
  | someSeed
  /-- The seed at a place can be read. -/
  | seed (place : Nat)
  | port
  | timeout
  | topologyKeys
  deriving DecidableEq

/-- The section of a demand, and its place in the section. -/
def Demand.place : Demand → Nat × Nat
  | someSeed => (0, 0)
  | seed i => (1, i)
  | port => (2, 0)
  | timeout => (3, 0)
  | topologyKeys => (4, 0)

/-- The order in which demands are checked. -/
def Demand.Before (d d' : Demand) : Prop :=
  d.place.1 < d'.place.1 ∨ d.place.1 = d'.place.1 ∧ d.place.2 < d'.place.2

/-- A configuration violates a demand, which is a fault. -/
inductive Violates (c : Config) : Demand → Fault → Prop
  | noSeeds (none : c.cluster.seeds = []) : Violates c .someSeed .noSeeds
  | seed {i : Nat} {s : String} {e : RoutingError} (listed : c.cluster.seeds[i]? = some s)
    (refused : HostAddr.parse s c.cluster.defaultPort = .error e) : Violates c (.seed i) (.seed e)
  | zeroPort (zero : c.cluster.defaultPort = 0) : Violates c .port .zeroPort
  | zeroTimeout (zero : c.timeouts.connectSecs = 0) : Violates c .timeout .zeroTimeout
  | topologyKeys {keys : String} {e : RoutingError}
    (given : c.loadBalance.topologyKeys = some keys) (refused : Preference.parse keys = .error e) :
    Violates c .topologyKeys (.topologyKeys e)

/-- A demand is violated in one way. -/
theorem Violates.unique {c : Config} {d : Demand} {f f' : Fault} (h : c.Violates d f)
    (h' : c.Violates d f') : f = f' := by
  cases h <;> cases h' <;> simp_all

/-- A list of faults names the violated demands of a part, each once and in order. -/
def Reports (c : Config) (part : Demand → Prop) (faults : List Fault) : Prop :=
  ∃ demands : List Demand, demands.Pairwise Demand.Before ∧
    (∀ d, d ∈ demands ↔ part d ∧ ∃ f, c.Violates d f) ∧ List.Forall₂ c.Violates demands faults

namespace Reports

variable {c : Config} {part part' : Demand → Prop} {faults faults' : List Fault}

theorem nil (h : ∀ d f, part d → ¬c.Violates d f) : c.Reports part [] :=
  ⟨[], .nil, fun d => by simpa using fun hd f => h d f hd, .nil⟩

theorem single {d : Demand} {f : Fault} (h : c.Violates d f) : c.Reports (· = d) [f] := by
  refine ⟨[d], List.pairwise_singleton _ _, fun d' => ?_, .cons h .nil⟩
  rw [List.mem_singleton]
  exact ⟨fun hd => ⟨hd, f, hd ▸ h⟩, And.left⟩

/-- A report of two parts, the first before the second. -/
theorem append (h : c.Reports part faults) (h' : c.Reports part' faults')
    (hbefore : ∀ d d', part d → part' d' → d.Before d') :
    c.Reports (fun d => part d ∨ part' d) (faults ++ faults') := by
  obtain ⟨ds, hsorted, hmem, hfaults⟩ := h
  obtain ⟨ds', hsorted', hmem', hfaults'⟩ := h'
  refine ⟨ds ++ ds', List.pairwise_append.mpr ⟨hsorted, hsorted', fun d hd d' hd' =>
    hbefore d d' ((hmem d).mp hd).1 ((hmem' d').mp hd').1⟩, fun d => ?_,
    List.rel_append hfaults hfaults'⟩
  rw [List.mem_append, hmem, hmem', or_and_right]

theorem congr (h : c.Reports part faults) (hpart : ∀ d, part d ↔ part' d) :
    c.Reports part' faults := by
  obtain ⟨ds, hsorted, hmem, hfaults⟩ := h
  exact ⟨ds, hsorted, fun d => (hmem d).trans (and_congr_left' (hpart d)), hfaults⟩

/-- What a report names. -/
theorem mem_iff (h : c.Reports part faults) {f : Fault} :
    f ∈ faults ↔ ∃ d, part d ∧ c.Violates d f := by
  obtain ⟨ds, -, hmem, hfaults⟩ := h
  constructor
  · intro hf
    obtain ⟨d, hd, hv⟩ := List.exists_of_forall₂ hfaults.flip hf
    exact ⟨d, ((hmem d).mp hd).1, hv⟩
  · rintro ⟨d, hd, hv⟩
    obtain ⟨f', hf', hv'⟩ := List.exists_of_forall₂ hfaults ((hmem d).mpr ⟨hd, f, hv⟩)
    rwa [hv.unique hv']

end Reports

/-! ## What validation reports -/

variable (c : Config)

/-- A demand of the whole configuration is checked alone. -/
theorem reports_ite {d : Demand} {f : Fault} {p : Prop} [Decidable p]
    (h : ∀ f', c.Violates d f' ↔ p ∧ f' = f) :
    c.Reports (· = d) (if p then [f] else []) := by
  by_cases hp : p
  · rw [if_pos hp]
    exact .single ((h f).mpr ⟨hp, rfl⟩)
  · rw [if_neg hp]
    exact .nil fun d' f' hd hv => hp ((h f').mp (hd ▸ hv)).1

/-- A demand that a text can be read is checked by reading it. -/
theorem reports_errorOf {α : Type} {d : Demand} {x : Except RoutingError α}
    {fault : RoutingError → Fault} (h : ∀ f, c.Violates d f ↔ ∃ e, x = .error e ∧ f = fault e) :
    c.Reports (· = d) ((errorOf x).map fault) := by
  cases x with
  | error e => exact .single ((h _).mpr ⟨e, rfl, rfl⟩)
  | ok a =>
    refine .nil fun d' f hd hv => ?_
    obtain ⟨e, he, -⟩ := (h f).mp (hd ▸ hv)
    cases he

variable {c} in
theorem violates_seed_iff {i : Nat} {s : String} (listed : c.cluster.seeds[i]? = some s)
    (f : Fault) : c.Violates (.seed i) f ↔
      ∃ e, HostAddr.parse s c.cluster.defaultPort = .error e ∧ f = .seed e := by
  constructor
  · intro h
    cases h with
    | seed listed' refused =>
      cases listed.symm.trans listed'
      exact ⟨_, refused, rfl⟩
  · rintro ⟨e, refused, rfl⟩
    exact .seed listed refused

variable {c} in
theorem violates_topologyKeys_iff {keys : String} (given : c.loadBalance.topologyKeys = some keys)
    (f : Fault) : c.Violates .topologyKeys f ↔
      ∃ e, Preference.parse keys = .error e ∧ f = .topologyKeys e := by
  constructor
  · intro h
    cases h with
    | topologyKeys given' refused =>
      cases given.symm.trans given'
      exact ⟨_, refused, rfl⟩
  · rintro ⟨e, refused, rfl⟩
    exact .topologyKeys given refused

/-- The seeds from a place on. -/
theorem reports_seeds (rest : List String) : ∀ n, c.cluster.seeds.drop n = rest →
    c.Reports (fun d => ∃ i, n ≤ i ∧ d = .seed i) (rest.flatMap fun s =>
      (errorOf (HostAddr.parse s c.cluster.defaultPort)).map .seed) := by
  induction rest with
  | nil =>
    intro n hn
    have hlen := List.drop_eq_nil_iff.mp hn
    refine .nil ?_
    rintro _ f ⟨i, hi, rfl⟩ hv
    cases hv with
    | seed listed =>
      rw [List.getElem?_eq_none (by omega)] at listed
      cases listed
  | cons s rest ih =>
    intro n hn
    have hlisted : c.cluster.seeds[n]? = some s := by
      rw [← Nat.add_zero n, ← List.getElem?_drop, hn]
      rfl
    have hrest : c.cluster.seeds.drop (n + 1) = rest := by
      rw [← List.drop_drop, hn]
      rfl
    have hfirst := c.reports_errorOf (violates_seed_iff hlisted)
    refine (hfirst.append (ih (n + 1) hrest) ?_).congr fun d => ⟨?_, ?_⟩
    · rintro _ _ rfl ⟨i, hi, rfl⟩
      exact .inr ⟨rfl, hi⟩
    · rintro (rfl | ⟨i, hi, rfl⟩)
      · exact ⟨n, Nat.le_refl n, rfl⟩
      · exact ⟨i, by omega, rfl⟩
    · rintro ⟨i, hi, rfl⟩
      rcases Nat.eq_or_lt_of_le hi with rfl | hi
      · exact .inl rfl
      · exact .inr ⟨i, hi, rfl⟩

theorem reports_topologyKeys : c.Reports (· = .topologyKeys)
    (c.loadBalance.topologyKeys.toList.flatMap fun keys =>
      (errorOf (Preference.parse keys)).map .topologyKeys) := by
  cases hk : c.loadBalance.topologyKeys with
  | none =>
    refine .nil ?_
    rintro _ f rfl hv
    cases hv with
    | topologyKeys given => cases hk.symm.trans given
  | some keys =>
    simp only [Option.toList_some, List.flatMap_singleton]
    exact c.reports_errorOf (violates_topologyKeys_iff hk)

/-- **Validation reports each violated demand once, in the order of demands.** -/
theorem reports_faults : c.Reports (fun _ => True) c.faults := by
  have hsome : c.Reports (· = .someSeed) (if c.cluster.seeds = [] then [.noSeeds] else []) :=
    c.reports_ite fun f => ⟨fun | .noSeeds h => ⟨h, rfl⟩, fun ⟨h, hf⟩ => hf ▸ .noSeeds h⟩
  have hport : c.Reports (· = .port) (if c.cluster.defaultPort = 0 then [.zeroPort] else []) :=
    c.reports_ite fun f => ⟨fun | .zeroPort h => ⟨h, rfl⟩, fun ⟨h, hf⟩ => hf ▸ .zeroPort h⟩
  have htimeout : c.Reports (· = .timeout)
      (if c.timeouts.connectSecs = 0 then [.zeroTimeout] else []) :=
    c.reports_ite fun f => ⟨fun | .zeroTimeout h => ⟨h, rfl⟩, fun ⟨h, hf⟩ => hf ▸ .zeroTimeout h⟩
  have hseeds := c.reports_seeds c.cluster.seeds 0 rfl
  have hall := (((hsome.append hseeds ?_).append hport ?_).append htimeout ?_).append
    c.reports_topologyKeys ?_
  · refine hall.congr fun d => iff_true_intro ?_
    cases d <;> simp
  all_goals
    intro d d' hd hd'
    grind [Demand.Before, Demand.place]

end Config

/-! ## Routers that are not made -/

/-- The router of a configuration whose seeds are read has these seeds, and only a preference text
can keep it from being made. -/
theorem Router.create_of_seeds {config : Config} {addrs : List HostAddr} (hne : addrs ≠ [])
    (h : config.cluster.seeds.mapM (HostAddr.parse · config.cluster.defaultPort) = .ok addrs)
    (registry : Registry) :
    (∀ r registry', create config registry = .ok (r, registry') → r.seeds = addrs) ∧
      ∀ e, create config registry = .error e → config.loadBalance.enabled = true ∧
        config.loadBalance.topologyKeys.mapM Preference.parse = .error e := by
  have hcreate : create config registry =
      if config.loadBalance.enabled then
        (registry.ask ⟨addrs, config.loadBalance, config.cluster.defaultPort⟩).map fun p =>
          ({ seeds := addrs, connectSecs := config.timeouts.connectSecs, balancer := some p.2 },
            p.1)
      else
        .ok ({ seeds := addrs, connectSecs := config.timeouts.connectSecs, balancer := none },
          registry) := by
    simp only [create, h, bind, Except.bind, if_neg hne]
    rfl
  rw [hcreate]
  cases config.loadBalance.enabled with
  | false => simp
  | true =>
    rcases registry.ask_cases ⟨addrs, config.loadBalance, config.cluster.defaultPort⟩ with
      ⟨e, hp, he⟩ | ⟨_, id, -, -, he⟩ | ⟨_, -, -, he⟩
    · simpa [he, Except.map, Registry.Call.preference] using hp
    · simp +contextual [he, Except.map]
    · simp +contextual [he, Except.map]

/-- A router has the seeds that were read, and these are not none. -/
theorem Router.mapM_seeds_of_create {config : Config} {registry registry' : Registry} {r : Router}
    (h : create config registry = .ok (r, registry')) :
    config.cluster.seeds.mapM (HostAddr.parse · config.cluster.defaultPort) = .ok r.seeds ∧
      r.seeds ≠ [] := by
  cases hread : config.cluster.seeds.mapM (HostAddr.parse · config.cluster.defaultPort) with
  | error e => simp [create, hread, bind, Except.bind] at h
  | ok addrs =>
    by_cases hne : addrs = []
    · simp [create, hread, hne, bind, Except.bind, throw, throwThe, MonadExceptOf.throw] at h
    · rw [(create_of_seeds hne hread registry).1 r registry' h]
      exact ⟨rfl, hne⟩

/-- A router dials what the texts of its seeds name. -/
theorem Router.seeds_of_create {config : Config} {registry registry' : Registry} {r : Router}
    (h : create config registry = .ok (r, registry')) :
    List.Forall₂ (fun s a => HostAddr.parse s config.cluster.defaultPort = .ok a)
      config.cluster.seeds r.seeds :=
  List.mapM_eq_ok_iff.mp (mapM_seeds_of_create h).1

/-- The error of a router that is not made comes from a seed, from the lack of seeds, or from the
preference text. -/
theorem Router.create_eq_error {config : Config} {registry : Registry} {e : RoutingError}
    (h : create config registry = .error e) :
    (∃ s ∈ config.cluster.seeds, HostAddr.parse s config.cluster.defaultPort = .error e) ∨
    (config.cluster.seeds = [] ∧ e = .configuration .noSeeds) ∨
    ∃ keys, config.loadBalance.topologyKeys = some keys ∧ Preference.parse keys = .error e := by
  cases hread : config.cluster.seeds.mapM (HostAddr.parse · config.cluster.defaultPort) with
  | error e' =>
    have he : e' = e := by
      simpa [create, hread, bind, Except.bind] using h
    exact .inl (he ▸ List.exists_of_mapM_eq_error hread)
  | ok addrs =>
    by_cases hne : addrs = []
    · subst hne
      have hnil := List.forall₂_nil_right_iff.mp (List.mapM_eq_ok_iff.mp hread)
      refine .inr (.inl ⟨hnil, ?_⟩)
      simpa [create, hread, bind, Except.bind, throw, throwThe, MonadExceptOf.throw, eq_comm] using h
    · obtain ⟨-, hkeys⟩ := ((create_of_seeds hne hread registry).2 e h)
      cases hk : config.loadBalance.topologyKeys with
      | none =>
        rw [hk] at hkeys
        cases hkeys
      | some keys =>
        rw [hk, Option.mapM_some] at hkeys
        refine .inr (.inr ⟨keys, rfl, ?_⟩)
        cases hp : Preference.parse keys with
        | error e' =>
          rw [hp] at hkeys
          cases hkeys
          rfl
        | ok p =>
          rw [hp] at hkeys
          cases hkeys

/-- **Validation and construction agree.** A configuration without faults makes a router with the
seeds that its texts name; the error of a router that is not made is among the faults, or there are
no seeds, which is a fault of its own; and the faults are those of the violated demands, each once
and in order. -/
theorem Config.faults_agree (config : Config) (registry : Registry) :
    (config.faults = [] → ∃ r registry', Router.create config registry = .ok (r, registry') ∧
      List.Forall₂ (fun s a => HostAddr.parse s config.cluster.defaultPort = .ok a)
        config.cluster.seeds r.seeds) ∧
    (∀ e, Router.create config registry = .error e →
      config.cluster.seeds = [] ∧ .noSeeds ∈ config.faults ∨
        ∃ f ∈ config.faults, f.message = e.message) ∧
    ∃ demands : List Demand, demands.Pairwise Demand.Before ∧
      (∀ d, d ∈ demands ↔ ∃ f, config.Violates d f) ∧
      List.Forall₂ config.Violates demands config.faults := by
  have hmem {d : Demand} {f : Fault} (h : config.Violates d f) : f ∈ config.faults :=
    config.reports_faults.mem_iff.mpr ⟨d, trivial, h⟩
  have herror : ∀ e, Router.create config registry = .error e →
      config.cluster.seeds = [] ∧ .noSeeds ∈ config.faults ∨
        ∃ f ∈ config.faults, f.message = e.message := by
    intro e he
    rcases Router.create_eq_error he with ⟨s, hs, hp⟩ | ⟨hnil, -⟩ | ⟨keys, hk, hp⟩
    · obtain ⟨i, hi⟩ := List.getElem?_of_mem hs
      exact .inr ⟨.seed e, hmem (.seed hi hp), rfl⟩
    · exact .inl ⟨hnil, hmem (.noSeeds hnil)⟩
    · exact .inr ⟨.topologyKeys e, hmem (.topologyKeys hk hp), rfl⟩
  refine ⟨fun hvalid => ?_, herror, by simpa [Reports] using config.reports_faults⟩
  cases hcreate : Router.create config registry with
  | error e =>
    -- the error would be a fault
    rcases herror e hcreate with ⟨-, h⟩ | ⟨f, h, -⟩
    · simp [hvalid] at h
    · simp [hvalid] at h
  | ok made =>
    obtain ⟨r, registry'⟩ := made
    exact ⟨r, registry', rfl, Router.seeds_of_create hcreate⟩

/-- Two of three seeds cannot be read, the time-out is zero, and a rank is out of range. -/
def faultyConfig : Config where
  cluster := { seeds := ["host:notaport", "a", "[b"] }
  loadBalance := { topologyKeys := some "aws.us-west.*:0" }
  timeouts := { connectSecs := 0 }

/-- The router fails on the first seed; validation finds that and three more faults. -/
theorem Config.faults_agree_fourFaults :
    (∃ f ∈ faultyConfig.faults,
      f.message = "Configuration error: Invalid host address: 'host:notaport'") ∧
    ∃ demands : List Demand, demands.Pairwise Demand.Before ∧ demands.length = 4 ∧
      .timeout ∈ demands ∧ .port ∉ demands := by
  have herror : Router.create faultyConfig {} =
      .error (.configuration (.hostAddress "host:notaport")) := by decide +kernel
  obtain ⟨-, hcreate, demands, hsorted, hmem, hfaults⟩ := faults_agree faultyConfig {}
  refine ⟨?_, demands, hsorted, ?_, ?_, ?_⟩
  · rcases hcreate _ herror with ⟨hnil, -⟩ | hfault
    · cases hnil
    · exact hfault
  · rw [hfaults.length_eq]
    decide +kernel
  · exact (hmem _).mpr ⟨_, .zeroTimeout rfl⟩
  · rw [hmem]
    rintro ⟨_, hport⟩
    cases hport with
    | zeroPort zero => exact absurd zero (by decide)

end ConnectionRouter
