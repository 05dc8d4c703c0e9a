import ConnectionRouter.Balancer.Registry
import ConnectionRouter.Proofs.HostAddr
import ConnectionRouter.Proofs.Placement.Grammar
import Mathlib.Data.List.Dedup
import Mathlib.Data.List.Induction

/-!
# Sharing balancers

Routers that ask a registry for balancers share one exactly if their seeds are the same addresses
and their preference texts are the same. The registry compares written addresses; as no two
addresses are written alike, this compares the addresses (`Signature.ofSeeds_eq_iff`).

A history is a registry with the calls that were made to it and their answers. Between the calls
the balancers are used, which changes their pools and turns in any way but neither their settings
nor their preferences.

* `Registry.ask_cases`: the three outcomes of a call.
* `RegistryHistory.run`: the history of a list of events on an empty registry.
* `RegistryHistory.Exact`: what every history keeps, each entry as its first call made it.
* `RegistryHistory.run_shares_exactly`: which calls share a balancer, what the balancer is made
  with, and what the registry knows.
-/

namespace ConnectionRouter

/-! ## Signatures -/

/-- **Signatures agree exactly on equal sets of addresses and equal preference texts.** -/
theorem Signature.ofSeeds_eq_iff {seeds seeds' : List HostAddr} {keys keys' : Option String} :
    Signature.ofSeeds seeds keys = Signature.ofSeeds seeds' keys' ↔
      (∀ a, a ∈ seeds ↔ a ∈ seeds') ∧ keys = keys' := by
  have htexts : (Std.ExtTreeSet.ofList (seeds.map HostAddr.text) =
      Std.ExtTreeSet.ofList (seeds'.map HostAddr.text)) ↔ ∀ a, a ∈ seeds ↔ a ∈ seeds' := by
    constructor
    · intro h a
      have hmem := congrArg (fun s : Std.ExtTreeSet String => a.text ∈ s) h
      simpa [Std.ExtTreeSet.mem_ofList, HostAddr.text_injective.eq_iff] using hmem
    · intro h
      refine Std.ExtTreeSet.ext_mem fun text => ?_
      simp [Std.ExtTreeSet.mem_ofList, h]
  simp only [ofSeeds, mk.injEq, htexts]

/-! ## Calls -/

namespace Registry

/-- What a router asks the registry with. -/
structure Call where
  seeds : List HostAddr
  config : Config.LoadBalance
  defaultPort : UInt16
  deriving DecidableEq

namespace Call

/-- What the balancers of calls are shared by. -/
def signature (c : Call) : Signature := .ofSeeds c.seeds c.config.topologyKeys

/-- The preference of a call, read from its text. -/
def preference (c : Call) : Except RoutingError (Option Preference) :=
  c.config.topologyKeys.mapM Preference.parse

/-- A new balancer for a call. -/
def balancer (c : Call) (preference : Option Preference) : Balancer where
  preference := preference
  settings := .ofConfig c.config c.defaultPort

/-- The preference text is part of the signature, so calls that agree in it read the same. -/
theorem preference_eq_of_signature_eq {c c' : Call} (h : c.signature = c'.signature) :
    c.preference = c'.preference := by
  rw [preference, preference, (Signature.ofSeeds_eq_iff.1 h).2]

theorem failsOnConfiguration_preference (c : Call) : FailsOnConfiguration c.preference := by
  unfold preference
  cases c.config.topologyKeys with
  | none => exact .ok none
  | some keys => exact (Preference.failsOnConfiguration_parse keys).map some

end Call

/-- The registry after a call, and the place of the balancer that it gets. -/
def ask (r : Registry) (c : Call) : Except RoutingError (Registry × BalancerId) :=
  r.getOrCreate c.seeds c.config c.defaultPort

/-- The registry with a new balancer for a call. -/
def enter (r : Registry) (c : Call) (preference : Option Preference) : Registry :=
  ⟨r.entries ++ [(c.signature, c.balancer preference)]⟩

theorem ask_eq (r : Registry) (c : Call) : r.ask c = c.preference.bind fun p =>
    match r.get? c.signature with
    | some id => .ok (r, id)
    | none => .ok (r.enter c p, r.size) := rfl

/-- A call fails on its preference text, finds the balancer of its signature, or has one made. -/
theorem ask_cases (r : Registry) (c : Call) :
    (∃ e, c.preference = .error e ∧ r.ask c = .error e) ∨
    (∃ p id, c.preference = .ok p ∧ r.get? c.signature = some id ∧ r.ask c = .ok (r, id)) ∨
    ∃ p, c.preference = .ok p ∧ r.get? c.signature = none ∧
      r.ask c = .ok (r.enter c p, r.size) := by
  rw [ask_eq]
  cases hp : c.preference with
  | error e => exact .inl ⟨e, rfl, rfl⟩
  | ok p =>
    cases hs : r.get? c.signature with
    | some id => exact .inr (.inl ⟨p, id, rfl, rfl, rfl⟩)
    | none => exact .inr (.inr ⟨p, rfl, rfl, rfl⟩)

/-- The signatures that have a balancer, in the order of their places. -/
def signatures (r : Registry) : List Signature := r.entries.map (·.1)

theorem signatures_enter (r : Registry) (c : Call) (preference : Option Preference) :
    (r.enter c preference).signatures = r.signatures ++ [c.signature] := by
  simp [signatures, enter]

theorem signatures_put (r : Registry) (id : BalancerId) (b : Balancer) :
    (r.put id b).signatures = r.signatures := by
  refine List.ext_getElem? fun j => ?_
  simp only [signatures, put, List.getElem?_map, List.getElem?_modify]
  split <;> cases r.entries[j]? <;> rfl

theorem get?_eq (r : Registry) (s : Signature) : r.get? s = r.signatures.findIdx? (· = s) := by
  rw [signatures, List.findIdx?_map]
  rfl

theorem get?_eq_none_iff {r : Registry} {s : Signature} : r.get? s = none ↔ s ∉ r.signatures := by
  rw [get?_eq, List.findIdx?_eq_none_iff]
  exact ⟨fun h hs => by simpa using h s hs, fun h t ht => by grind⟩

/-- In a registry that keeps signatures apart, a place is found by the signature there. -/
theorem get?_eq_some_iff {r : Registry} (hnodup : r.signatures.Nodup) {s : Signature}
    {id : BalancerId} : r.get? s = some id ↔ r.signatures[id]? = some s := by
  rw [get?_eq, List.findIdx?_eq_some_iff_getElem, List.getElem?_eq_some_iff]
  constructor
  · rintro ⟨hlt, hs, -⟩
    exact ⟨hlt, by simpa using hs⟩
  · rintro ⟨hlt, hs⟩
    refine ⟨hlt, by simpa using hs, fun j hj hjs => ?_⟩
    have heq : r.signatures[j] = r.signatures[id] := by simpa [hs] using hjs
    exact absurd ((hnodup.getElem_inj_iff).1 heq) (Nat.ne_of_lt hj)

end Registry

/-! ## Histories -/

/-- What happens to a registry and its balancers. -/
inductive RegistryEvent
  | ask (call : Registry.Call)
  /-- The balancer at a place is used, and has this pool, turn and account afterwards. -/
  | use (id : BalancerId) (pool : Pool) (turn : Turn) (taken returned : Nat)
  deriving DecidableEq

/-- A registry, and the calls that it answered, oldest first. -/
structure RegistryHistory where
  registry : Registry := {}
  answers : List (Registry.Call × Except RoutingError BalancerId) := []

namespace RegistryHistory

open Registry

/-- The history after one more event. -/
def after (h : RegistryHistory) : RegistryEvent → RegistryHistory
  | .ask c =>
    match h.registry.ask c with
    | .ok (registry, id) => ⟨registry, h.answers ++ [(c, .ok id)]⟩
    | .error e => { h with answers := h.answers ++ [(c, .error e)] }
  | .use id pool turn taken returned =>
    match h.registry.balancer? id with
    | some b => { h with registry := h.registry.put id { b with pool, turn, taken, returned } }
    | none => h

/-- The history of a list of events on an empty registry. -/
def run (events : List RegistryEvent) : RegistryHistory := events.foldl after {}

/-- The first call with a signature, and its answer. -/
def first? (h : RegistryHistory) (s : Signature) :
    Option (Call × Except RoutingError BalancerId) :=
  h.answers.find? (·.1.signature = s)

/-- The registry mirrors its answers: every entry is as the first call with its signature made it
but for the use of its balancer, and every call was answered with the entry of its signature or
failed on its preference. -/
structure Exact (h : RegistryHistory) : Prop where
  apart : h.registry.signatures.Nodup
  made : ∀ (s : Signature) (b : Balancer) (id : BalancerId),
    h.registry.entries[id]? = some (s, b) → ∃ c, h.first? s = some (c, .ok id) ∧
      c.preference = .ok b.preference ∧ b.settings = .ofConfig c.config c.defaultPort
  served : ∀ (c : Call) (id : BalancerId), (c, .ok id) ∈ h.answers →
    h.registry.signatures[id]? = some c.signature
  refused : ∀ (c : Call) (e : RoutingError), (c, .error e) ∈ h.answers → c.preference = .error e

namespace Exact

theorem empty : Exact {} where
  apart := List.nodup_nil
  made _ _ _ h := by cases h
  served _ _ h := by cases h
  refused _ _ h := by cases h

variable {h : RegistryHistory}

/-- The first answer to a signature stays the first. -/
theorem first?_concat {s : Signature} {first : Call × Except RoutingError BalancerId}
    (hs : h.first? s = some first) (registry : Registry)
    (answer : Call × Except RoutingError BalancerId) :
    first? ⟨registry, h.answers ++ [answer]⟩ s = some first := by
  rw [first?] at hs
  rw [first?, List.find?_append, hs, Option.some_or]

theorem mem_of_first? {s : Signature} {c : Call} {answer : Except RoutingError BalancerId}
    (hs : h.first? s = some (c, answer)) : (c, answer) ∈ h.answers ∧ c.signature = s := by
  rw [first?] at hs
  exact ⟨List.mem_of_find?_eq_some hs, by simpa using List.find?_some hs⟩

/-- No call was answered yet whose signature has no entry, if its preference can be read. -/
theorem first?_eq_none (hx : h.Exact) {c : Call} {p : Option Preference}
    (hp : c.preference = .ok p) (hnew : c.signature ∉ h.registry.signatures) :
    h.first? c.signature = none := by
  refine List.find?_eq_none.2 fun ⟨c', answer⟩ hmem hdec => ?_
  have hsig : c'.signature = c.signature := of_decide_eq_true hdec
  cases answer with
  | ok id => exact hnew (hsig ▸ List.mem_of_getElem? (hx.served c' id hmem))
  | error e =>
    have herror := hx.refused c' e hmem
    rw [Call.preference_eq_of_signature_eq hsig, hp] at herror
    cases herror

/-- A call that leaves the registry as it is. -/
theorem answer (hx : h.Exact) {c : Call} {answer : Except RoutingError BalancerId}
    (hok : ∀ id, answer = .ok id → h.registry.signatures[id]? = some c.signature)
    (herror : ∀ e, answer = .error e → c.preference = .error e) :
    Exact ⟨h.registry, h.answers ++ [(c, answer)]⟩ where
  apart := hx.apart
  made s b id hb := by
    obtain ⟨first, hfirst, hrest⟩ := hx.made s b id hb
    exact ⟨first, first?_concat hfirst _ _, hrest⟩
  served c' id hmem := by
    rcases List.mem_append.1 hmem with hold | hnew
    · exact hx.served c' id hold
    · obtain ⟨rfl, hid⟩ := Prod.mk.inj (List.mem_singleton.1 hnew)
      exact hok id hid.symm
  refused c' e hmem := by
    rcases List.mem_append.1 hmem with hold | hnew
    · exact hx.refused c' e hold
    · obtain ⟨rfl, he⟩ := Prod.mk.inj (List.mem_singleton.1 hnew)
      exact herror e he.symm

/-- A call that has a balancer made. -/
theorem enter (hx : h.Exact) {c : Call} {p : Option Preference} (hp : c.preference = .ok p)
    (hnew : c.signature ∉ h.registry.signatures) :
    Exact ⟨h.registry.enter c p, h.answers ++ [(c, .ok h.registry.size)]⟩ where
  apart := by
    rw [signatures_enter, List.nodup_append_comm, List.singleton_append, List.nodup_cons]
    exact ⟨hnew, hx.apart⟩
  made s b id hb := by
    rw [Registry.enter, List.getElem?_append] at hb
    split at hb
    · obtain ⟨first, hfirst, hrest⟩ := hx.made s b id hb
      exact ⟨first, first?_concat hfirst _ _, hrest⟩
    · rename_i hge
      obtain ⟨hlast, hentry⟩ := List.getElem?_eq_some_iff.1 hb
      rw [List.length_singleton] at hlast
      obtain rfl : id = h.registry.size :=
        Nat.le_antisymm (Nat.le_of_sub_eq_zero (Nat.lt_one_iff.1 hlast)) (Nat.le_of_not_lt hge)
      obtain ⟨rfl, rfl⟩ : c.signature = s ∧ c.balancer p = b := by simpa using hentry
      have hnone := hx.first?_eq_none hp hnew
      rw [first?] at hnone
      exact ⟨c, by simp [first?, hnone], hp, rfl⟩
  served c' id hmem := by
    rw [signatures_enter]
    rcases List.mem_append.1 hmem with hold | hmem
    · have hsig := hx.served c' id hold
      rwa [List.getElem?_append_left (List.getElem?_eq_some_iff.1 hsig).1]
    · obtain ⟨rfl, hid⟩ := Prod.mk.inj (List.mem_singleton.1 hmem)
      obtain rfl : id = h.registry.size := Except.ok.inj hid
      simp [Registry.size, Registry.signatures]
  refused c' e hmem := by
    rcases List.mem_append.1 hmem with hold | hnew
    · exact hx.refused c' e hold
    · cases (Prod.mk.inj (List.mem_singleton.1 hnew)).2

theorem ask (hx : h.Exact) (c : Call) : (h.after (.ask c)).Exact := by
  rcases h.registry.ask_cases c with ⟨e, hp, hask⟩ | ⟨p, id, hp, hget, hask⟩ | ⟨p, hp, hget, hask⟩
  all_goals simp only [after, hask]
  · refine hx.answer (fun id hid => nomatch hid) fun e' he => ?_
    obtain rfl := Except.error.inj he
    exact hp
  · refine hx.answer (fun id' hid => ?_) fun e he => nomatch he
    obtain rfl := Except.ok.inj hid
    exact (get?_eq_some_iff hx.apart).1 hget
  · exact hx.enter hp (get?_eq_none_iff.1 hget)

/-- The use of a balancer touches neither its signature nor what it was made with. -/
theorem use (hx : h.Exact) (id : BalancerId) (pool : Pool) (turn : Turn) (taken returned : Nat) :
    (h.after (.use id pool turn taken returned)).Exact := by
  cases hb : h.registry.balancer? id with
  | none =>
    simp only [after, hb]
    exact hx
  | some b =>
    simp only [after, hb]
    refine ⟨by simpa only [signatures_put] using hx.apart, fun s b' j hj => ?_,
      fun c j hmem => by simpa only [signatures_put] using hx.served c j hmem, hx.refused⟩
    rw [Registry.put, List.getElem?_modify] at hj
    split at hj
    · rename_i hid
      obtain ⟨⟨s', b₀⟩, hentry, heq⟩ := Option.map_eq_some_iff.1 hj
      obtain ⟨rfl, rfl⟩ := Prod.mk.inj heq
      obtain rfl : b₀ = b := by simpa [Registry.balancer?, hid, hentry] using hb
      exact hx.made s' b₀ j hentry
    · exact hx.made s b' j (by simpa using hj)

/-- A registry mirrors its answers after whatever happened to it. -/
theorem run (events : List RegistryEvent) : (RegistryHistory.run events).Exact := by
  induction events using List.reverseRecOn with
  | nil => exact empty
  | append_singleton events e ih =>
    rw [RegistryHistory.run, List.foldl_append]
    cases e with
    | ask c => exact ih.ask c
    | use id pool turn taken returned => exact ih.use id pool turn taken returned

variable (hx : h.Exact)

include hx

theorem get?_iff {s : Signature} {id : BalancerId} :
    h.registry.get? s = some id ↔ ∃ c, (c, .ok id) ∈ h.answers ∧ c.signature = s := by
  rw [get?_eq_some_iff hx.apart]
  constructor
  · intro hs
    obtain ⟨⟨s', b⟩, hentry, rfl⟩ := Option.map_eq_some_iff.1 ((List.getElem?_map ..).symm.trans hs)
    obtain ⟨c, hfirst, -⟩ := hx.made s' b id hentry
    exact ⟨c, mem_of_first? hfirst⟩
  · rintro ⟨c, hmem, rfl⟩
    exact hx.served c id hmem

theorem eq_iff {c c' : Call} {id id' : BalancerId} (hc : (c, .ok id) ∈ h.answers)
    (hc' : (c', .ok id') ∈ h.answers) : id = id' ↔ c.signature = c'.signature := by
  have hs := hx.served c id hc
  have hs' := hx.served c' id' hc'
  constructor
  · rintro rfl
    exact Option.some.inj (hs.symm.trans hs')
  · intro hsig
    obtain ⟨hlt, heq⟩ := List.getElem?_eq_some_iff.1 hs
    obtain ⟨hlt', heq'⟩ := List.getElem?_eq_some_iff.1 hs'
    exact hx.apart.getElem_inj_iff.1 (by rw [heq, heq', hsig])

/-- The signatures that got a balancer, each once. -/
theorem size_eq : h.registry.size =
    ((h.answers.filter (·.2.isOk)).map (·.1.signature)).dedup.length := by
  have hperm : h.registry.signatures.Perm
      ((h.answers.filter (·.2.isOk)).map (·.1.signature)).dedup := by
    refine (List.perm_ext_iff_of_nodup hx.apart (List.nodup_dedup _)).2 fun s => ?_
    rw [List.mem_dedup, List.mem_map]
    constructor
    · intro hs
      obtain ⟨id, hid⟩ := List.mem_iff_getElem?.1 hs
      obtain ⟨c, hc, rfl⟩ := hx.get?_iff.1 ((get?_eq_some_iff hx.apart).2 hid)
      exact ⟨(c, .ok id), List.mem_filter.2 ⟨hc, rfl⟩, rfl⟩
    · rintro ⟨⟨c, answer⟩, hmem, rfl⟩
      obtain ⟨hmem, hok⟩ := List.mem_filter.1 hmem
      cases answer with
      | ok id => exact List.mem_of_getElem? (hx.served c id hmem)
      | error e => cases hok
  rw [← hperm.length_eq]
  simp [Registry.size, Registry.signatures]

end Exact

/-! ## Exact sharing -/

/-- What a registry owes to those who ask it. -/
structure SharesExactly (h : RegistryHistory) : Prop where
  /-- Two calls get the same balancer if and only if their seeds are the same addresses and their
  preference texts are the same. -/
  shared : ∀ (c c' : Call) (id id' : BalancerId), (c, .ok id) ∈ h.answers →
    (c', .ok id') ∈ h.answers → (id = id' ↔
      (∀ a, a ∈ c.seeds ↔ a ∈ c'.seeds) ∧ c.config.topologyKeys = c'.config.topologyKeys)
  /-- The balancer has the preference and the settings of the first call with its signature. -/
  kept : ∀ (c : Call) (id : BalancerId), (c, .ok id) ∈ h.answers →
    ∃ first b, h.first? c.signature = some (first, .ok id) ∧ h.registry.balancer? id = some b ∧
      first.preference = .ok b.preference ∧ b.settings = .ofConfig first.config first.defaultPort
  /-- A call with a malformed preference text fails with a configuration error and leaves the
  registry as it is. -/
  refused : ∀ (c : Call) (e : RoutingError), c.preference = .error e →
    e.isConfiguration = true ∧ (h.after (.ask c)).registry = h.registry ∧
      (h.after (.ask c)).answers = h.answers ++ [(c, .error e)]
  /-- Every other call gets a balancer. -/
  granted : ∀ (c : Call) (p : Option Preference), c.preference = .ok p →
    ∃ id, (h.after (.ask c)).answers = h.answers ++ [(c, .ok id)]
  /-- There is one balancer for each signature of a call that got one. -/
  size_eq : h.registry.size =
    ((h.answers.filter (·.2.isOk)).map (·.1.signature)).dedup.length
  /-- A signature finds the balancer that calls with it got, and no other signature finds one. -/
  found : ∀ (s : Signature) (id : BalancerId), h.registry.get? s = some id ↔
    ∃ c, (c, .ok id) ∈ h.answers ∧ c.signature = s

/-- **A registry shares its balancers exactly**, whatever calls were made and however the balancers
were used in between. -/
theorem run_shares_exactly (events : List RegistryEvent) : (run events).SharesExactly where
  shared c c' id id' hc hc' := by
    rw [(Exact.run events).eq_iff hc hc', Call.signature, Call.signature, Signature.ofSeeds_eq_iff]
  kept c id hc := by
    obtain ⟨⟨s, b⟩, hentry, hs⟩ := Option.map_eq_some_iff.1
      ((List.getElem?_map ..).symm.trans ((Exact.run events).served c id hc))
    obtain ⟨first, hfirst, hp, hsettings⟩ := (Exact.run events).made s b id hentry
    exact ⟨first, b, hs ▸ hfirst, by simp [balancer?, hentry], hp, hsettings⟩
  refused c e he := by
    refine ⟨c.failsOnConfiguration_preference e he, ?_⟩
    simp [after, Registry.ask_eq, he, Except.bind]
  granted c p hp := by
    rcases (run events).registry.ask_cases c with
      ⟨e, he, -⟩ | ⟨_, id, -, -, hask⟩ | ⟨_, -, -, hask⟩
    · rw [hp] at he
      cases he
    · exact ⟨id, by simp [after, hask]⟩
    · exact ⟨(run events).registry.size, by simp [after, hask]⟩
  size_eq := (Exact.run events).size_eq
  found _ _ := (Exact.run events).get?_iff

/-- A seed named twice and other settings change nothing; another port, another preference or a
malformed one does. -/
example : (run [.ask ⟨[⟨"::1", 1⟩], {}, 5433⟩,
      .ask ⟨[⟨"::1", 1⟩, ⟨"::1", 1⟩], { failedHostTtlSecs := 9 }, 5433⟩,
      .ask ⟨[⟨"::1", 2⟩], {}, 5433⟩,
      .ask ⟨[⟨"::1", 1⟩], { topologyKeys := some "c.r.z" }, 5433⟩,
      .ask ⟨[⟨"::1", 1⟩], { topologyKeys := some "c.r" }, 5433⟩]).answers.map (·.2.toOption) =
    [some 0, some 0, some 1, some 2, none] := by decide +kernel

end RegistryHistory

end ConnectionRouter
