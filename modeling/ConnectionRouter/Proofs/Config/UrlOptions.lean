import ConnectionRouter.Proofs.Config.UrlParts
import ConnectionRouter.Proofs.Config.UrlSeeds
import ConnectionRouter.Proofs.Numeral

/-!
# The options of a connection URL

The query of a connection URL is a list of pairs, and each of its five options may be set by any
number of them, under several keys. What a URL sets an option to depends on the values that the
query holds for it, in order, and on nothing else (`UrlOption.values`).

* `UrlOption.Denotes`: the values of an option as texts, beside the functions that read them.
* `Config.get`, `Config.put`: the setting behind an option.
* `Config.exists_foldlM_set_iff`: a list of pairs is accepted if every value is well formed.
* `Config.get_foldlM_set`: the last value of an option counts.
* `Url.Parts.Acceptable`, `Url.Parts.Describes`: what a URL of given parts has to satisfy, and
  what it describes.
* `Config.ofUrl_options`: when a URL is accepted, what it sets, and that pairs of different options
  may change places.
-/

namespace ConnectionRouter

open Text

namespace UrlOption

/-! ## Keys -/

/-- The keys that mean an option. -/
def spellings : UrlOption → List String
  | loadBalance => ["loadBalanceHosts", "load-balance"]
  | topologyKeys => ["topologyKeys", "topology-keys"]
  | refreshInterval => ["ybServersRefreshInterval", "yb-servers-refresh-interval"]
  | failedHostTtl => ["failedHostReconnectDelaySecs", "failed-host-reconnect-delay-secs"]
  | connectTimeout => ["connectTimeout"]

/-- No key means two options. -/
theorem ofKey?_eq_some_iff {key : String} {o : UrlOption} :
    ofKey? key = some o ↔ key ∈ o.spellings := by
  constructor
  · intro h
    unfold ofKey? at h
    split_ifs at h <;> cases h <;> simpa [spellings]
  · intro h
    cases o <;> simp only [spellings, List.mem_cons, List.not_mem_nil, or_false] at h <;>
      rcases h with rfl | rfl <;> rfl

/-- The values that a list of pairs holds for an option, in order and without the blanks around
them. -/
def values (o : UrlOption) (pairs : List (List Char × List Char)) : List (List Char) :=
  (pairs.filter fun pair => String.ofList pair.1 ∈ o.spellings).map fun pair => trim pair.2

section Values

variable {o : UrlOption} {key value : List Char} {pairs : List (List Char × List Char)}

theorem values_append (pairs' : List (List Char × List Char)) :
    o.values (pairs ++ pairs') = o.values pairs ++ o.values pairs' := by
  rw [values, List.filter_append, List.map_append]
  rfl

theorem values_singleton_of_ofKey? (h : ofKey? (String.ofList key) = some o) :
    o.values [(key, value)] = [trim value] := by
  simp [values, ofKey?_eq_some_iff.mp h]

theorem values_singleton_of_ne (h : ofKey? (String.ofList key) ≠ some o) :
    o.values [(key, value)] = [] := by
  simp [values, mt ofKey?_eq_some_iff.mpr h]

end Values

/-! ## Values -/

/-- What an option is set to. -/
def Value : UrlOption → Type
  | loadBalance => Bool
  | topologyKeys => Option String
  | refreshInterval => Int
  | failedHostTtl | connectTimeout => Nat

/-- What an option is without a value for it: balancing is off. -/
def default : (o : UrlOption) → o.Value
  | loadBalance => false
  | topologyKeys => none
  | refreshInterval => (300 : Int)
  | failedHostTtl | connectTimeout => (5 : Nat)

/-- A trimmed text and the value of an option that it writes out: `true` or `false` in any case, the
text itself unless it is empty, or a numeral within the range of a type. -/
def Denotes : (o : UrlOption) → List Char → o.Value → Prop
  | loadBalance, s, (b : Bool) => s.map Char.toLower = (toString b).toList
  | topologyKeys, s, keys => keys = if s = [] then none else some (String.ofList s)
  | refreshInterval, s, (i : Int) => IntNumeral s i ∧ -(maxSigned : Int) - 1 ≤ i ∧ i ≤ maxSigned
  | failedHostTtl, s, (n : Nat) | connectTimeout, s, (n : Nat) => NatNumeral s n ∧ n ≤ maxUnsigned

theorem readBool?_eq_some_iff {s : List Char} {b : Bool} :
    readBool? s = some b ↔ s.map Char.toLower = (toString b).toList := by
  unfold readBool?
  dsimp only
  split_ifs with htrue hfalse
  · rw [htrue]
    cases b <;> decide
  · rw [hfalse]
    cases b <;> decide
  · cases b
    · exact iff_of_false (by simp) hfalse
    · exact iff_of_false (by simp) htrue

end UrlOption

namespace Config

/-! ## Settings -/

/-- The setting behind an option. -/
def get (c : Config) : (o : UrlOption) → o.Value
  | .loadBalance => c.loadBalance.enabled
  | .topologyKeys => c.loadBalance.topologyKeys
  | .refreshInterval => c.loadBalance.refreshIntervalSecs
  | .failedHostTtl => c.loadBalance.failedHostTtlSecs
  | .connectTimeout => c.timeouts.connectSecs

/-- The configuration with another setting behind an option. -/
def put (c : Config) : (o : UrlOption) → o.Value → Config
  | .loadBalance, b => { c with loadBalance := { c.loadBalance with enabled := b } }
  | .topologyKeys, keys => { c with loadBalance := { c.loadBalance with topologyKeys := keys } }
  | .refreshInterval, i =>
    { c with loadBalance := { c.loadBalance with refreshIntervalSecs := i } }
  | .failedHostTtl, n => { c with loadBalance := { c.loadBalance with failedHostTtlSecs := n } }
  | .connectTimeout, n => { c with timeouts := { connectSecs := n } }

section Settings

variable {c c' : Config} {o : UrlOption}

@[simp] theorem get_put_self (x : o.Value) : (c.put o x).get o = x := by cases o <;> rfl

theorem get_put_of_ne {o' : UrlOption} (h : o' ≠ o) (x : o.Value) :
    (c.put o x).get o' = c.get o' := by
  cases o <;> cases o' <;> first | rfl | exact absurd rfl h

@[simp] theorem observability_put (x : o.Value) : (c.put o x).observability = c.observability := by
  cases o <;> rfl

/-- Beside the options a configuration has only its cluster and its observability. -/
theorem ext_get (hcluster : c.cluster = c'.cluster)
    (hobservability : c.observability = c'.observability) (hget : ∀ o, c.get o = c'.get o) :
    c = c' := by
  obtain ⟨cluster, ⟨enabled, keys, interval, ttl⟩, ⟨limit⟩, observability⟩ := c
  obtain ⟨cluster', ⟨enabled', keys', interval', ttl'⟩, ⟨limit'⟩, observability'⟩ := c'
  have henabled : enabled = enabled' := hget .loadBalance
  have hkeys : keys = keys' := hget .topologyKeys
  have hinterval : interval = interval' := hget .refreshInterval
  have httl : ttl = ttl' := hget .failedHostTtl
  have hlimit : limit = limit' := hget .connectTimeout
  subst hcluster hobservability henabled hkeys hinterval httl hlimit
  rfl

end Settings

/-- An option is set to what its text denotes. -/
theorem set?_eq_some_iff {c c' : Config} {value : List Char} {o : UrlOption} :
    c.set? value o = some c' ↔ ∃ x, o.Denotes value x ∧ c' = c.put o x := by
  cases o with
  | loadBalance =>
    rw [set?, Option.map_eq_some_iff]
    exact exists_congr fun b => and_congr UrlOption.readBool?_eq_some_iff eq_comm
  | topologyKeys =>
    rw [set?, Option.some.injEq]
    constructor
    · rintro rfl
      exact ⟨_, rfl, rfl⟩
    · rintro ⟨_, rfl, rfl⟩
      rfl
  | refreshInterval =>
    rw [set?, Option.map_eq_some_iff]
    exact exists_congr fun i => and_congr readSigned64?_eq_some_iff eq_comm
  | failedHostTtl | connectTimeout =>
    rw [set?, Option.map_eq_some_iff]
    exact exists_congr fun n => and_congr readUnsigned64?_eq_some_iff eq_comm

end Config

namespace UrlOption

section Effect

variable {o : UrlOption}

/-- A text denotes at most one value of an option. -/
theorem Denotes.unique {value : List Char} {x y : o.Value} (hx : o.Denotes value x)
    (hy : o.Denotes value y) : x = y := by
  have hset : ∀ z, o.Denotes value z → Config.set? {} value o = some (Config.put {} o z) :=
    fun z hz => Config.set?_eq_some_iff.mpr ⟨z, hz, rfl⟩
  have hput : Config.put {} o x = Config.put {} o y :=
    Option.some.inj ((hset x hx).symm.trans (hset y hy))
  rw [← Config.get_put_self (c := {}) x, hput, Config.get_put_self]

/-- What values for an option make of its setting: the last one counts, and without any the setting
stays. -/
def SetsTo (o : UrlOption) (values : List (List Char)) (before after : o.Value) : Prop :=
  match values.getLast? with
  | none => after = before
  | some v => o.Denotes v after

theorem setsTo_nil {before after : o.Value} : o.SetsTo [] before after ↔ after = before := Iff.rfl

theorem setsTo_concat {values : List (List Char)} {v : List Char} {before after : o.Value} :
    o.SetsTo (values ++ [v]) before after ↔ o.Denotes v after := by
  rw [SetsTo, List.getLast?_concat]

theorem SetsTo.unique {values : List (List Char)} {before x y : o.Value}
    (hx : o.SetsTo values before x) (hy : o.SetsTo values before y) : x = y := by
  rcases List.eq_nil_or_concat' values with rfl | ⟨values, v, rfl⟩
  · exact hx.trans hy.symm
  · exact (setsTo_concat.mp hx).unique (setsTo_concat.mp hy)

theorem SetsTo.append {values values' : List (List Char)} {x y z : o.Value}
    (h : o.SetsTo values x y) (h' : o.SetsTo values' y z) : o.SetsTo (values ++ values') x z := by
  rcases List.eq_nil_or_concat' values' with rfl | ⟨values', v, rfl⟩
  · obtain rfl := setsTo_nil.mp h'
    rwa [List.append_nil]
  · rw [← List.append_assoc]
    exact setsTo_concat.mpr (setsTo_concat.mp h')

end Effect

end UrlOption

namespace Config

/-! ## A single pair -/

section Pair

variable {c c' : Config} {key value : List Char}

theorem set_of_ofKey?_eq_none (h : UrlOption.ofKey? (String.ofList key) = none) :
    c.set (key, value) = .ok c := by
  simp only [set, h]

theorem set_eq_ok_iff {o : UrlOption} (h : UrlOption.ofKey? (String.ofList key) = some o) :
    c.set (key, value) = .ok c' ↔ ∃ x, o.Denotes (trim value) x ∧ c' = c.put o x := by
  rw [← set?_eq_some_iff]
  simp only [set, h]
  cases c.set? (trim value) o <;> simp

/-- Whether a pair is accepted depends on the pair alone. -/
theorem exists_set_iff {pair : List Char × List Char} :
    (∃ c', c.set pair = .ok c') ↔ ∀ o : UrlOption, ∀ v ∈ o.values [pair], ∃ x, o.Denotes v x := by
  obtain ⟨key, value⟩ := pair
  cases hkey : UrlOption.ofKey? (String.ofList key) with
  | none =>
    refine iff_of_true ⟨c, set_of_ofKey?_eq_none hkey⟩ fun o v hv => ?_
    rw [UrlOption.values_singleton_of_ne (by simp [hkey])] at hv
    cases hv
  | some o =>
    simp only [set_eq_ok_iff hkey]
    constructor
    · rintro ⟨-, x, hx, -⟩ o' v hv
      by_cases ho : o' = o
      · subst ho
        rw [UrlOption.values_singleton_of_ofKey? hkey, List.mem_singleton] at hv
        exact ⟨x, hv ▸ hx⟩
      · rw [UrlOption.values_singleton_of_ne (by simpa [hkey] using Ne.symm ho)] at hv
        cases hv
    · intro h
      obtain ⟨x, hx⟩ := h o (trim value) (by
        rw [UrlOption.values_singleton_of_ofKey? hkey, List.mem_singleton])
      exact ⟨c.put o x, x, hx, rfl⟩

theorem observability_set {pair : List Char × List Char} (h : c.set pair = .ok c') :
    c'.observability = c.observability := by
  obtain ⟨key, value⟩ := pair
  cases hkey : UrlOption.ofKey? (String.ofList key) with
  | none =>
    rw [set_of_ofKey?_eq_none hkey] at h
    cases h
    rfl
  | some o =>
    obtain ⟨x, -, rfl⟩ := (set_eq_ok_iff hkey).mp h
    exact observability_put x

/-- A pair sets its own option and leaves every other alone. -/
theorem get_set {pair : List Char × List Char} (h : c.set pair = .ok c') (o : UrlOption) :
    o.SetsTo (o.values [pair]) (c.get o) (c'.get o) := by
  obtain ⟨key, value⟩ := pair
  cases hkey : UrlOption.ofKey? (String.ofList key) with
  | none =>
    rw [set_of_ofKey?_eq_none hkey] at h
    cases h
    rw [UrlOption.values_singleton_of_ne (by simp [hkey])]
    exact UrlOption.setsTo_nil.mpr rfl
  | some o' =>
    obtain ⟨x, hx, rfl⟩ := (set_eq_ok_iff hkey).mp h
    by_cases ho : o = o'
    · subst ho
      rw [UrlOption.values_singleton_of_ofKey? hkey, get_put_self]
      show o.SetsTo ([] ++ [trim value]) (c.get o) x
      exact UrlOption.setsTo_concat.mpr hx
    · rw [UrlOption.values_singleton_of_ne (by simpa [hkey] using Ne.symm ho), get_put_of_ne ho]
      exact UrlOption.setsTo_nil.mpr rfl

end Pair

/-! ## Lists of pairs -/

section Pairs

variable {c c' : Config} {pairs : List (List Char × List Char)}

/-- Every value has to be well formed, whether or not a later one overrides it. -/
theorem exists_foldlM_set_iff : (∃ c', pairs.foldlM set c = .ok c') ↔
    ∀ o : UrlOption, ∀ v ∈ o.values pairs, ∃ x, o.Denotes v x := by
  induction pairs generalizing c with
  | nil => exact iff_of_true ⟨c, rfl⟩ fun o v hv => nomatch hv
  | cons pair pairs ih =>
    have hsplit : (∀ o : UrlOption, ∀ v ∈ o.values (pair :: pairs), ∃ x, o.Denotes v x) ↔
        (∃ c', c.set pair = .ok c') ∧
          ∀ o : UrlOption, ∀ v ∈ o.values pairs, ∃ x, o.Denotes v x := by
      rw [exists_set_iff, ← forall_and]
      refine forall_congr' fun o => ?_
      rw [← List.singleton_append, UrlOption.values_append, List.forall_mem_append]
    rw [hsplit, List.foldlM_cons]
    simp only [Except.bind_eq_ok_iff]
    constructor
    · rintro ⟨c', c₁, hset, hrest⟩
      exact ⟨⟨c₁, hset⟩, ih.mp ⟨c', hrest⟩⟩
    · rintro ⟨⟨c₁, hset⟩, hrest⟩
      obtain ⟨c', hc'⟩ := (ih (c := c₁)).mpr hrest
      exact ⟨c', c₁, hset, hc'⟩

theorem observability_foldlM_set (h : pairs.foldlM set c = .ok c') :
    c'.observability = c.observability := by
  induction pairs generalizing c with
  | nil =>
    cases h
    rfl
  | cons pair pairs ih =>
    obtain ⟨c₁, hset, hrest⟩ := Except.bind_eq_ok_iff.mp h
    exact (ih hrest).trans (observability_set hset)

/-- The last value of an option counts. -/
theorem get_foldlM_set (h : pairs.foldlM set c = .ok c') (o : UrlOption) :
    o.SetsTo (o.values pairs) (c.get o) (c'.get o) := by
  induction pairs generalizing c with
  | nil =>
    cases h
    exact UrlOption.setsTo_nil.mpr rfl
  | cons pair pairs ih =>
    obtain ⟨c₁, hset, hrest⟩ := Except.bind_eq_ok_iff.mp h
    rw [← List.singleton_append, UrlOption.values_append]
    exact (get_set hset o).append (ih hrest)

end Pairs

end Config

/-! ## A whole URL -/

namespace Url.Parts

/-- The pairs of the query. -/
def pairs (p : Parts) : List (List Char × List Char) := FormEncoding.pairs (p.query.getD [])

/-- The hosts of a URL all have addresses, and every value for an option is well formed. -/
structure Acceptable (p : Parts) : Prop where
  hosts : ∀ host ∈ p.hosts.splitOn ',',
    ∃ a, HostAddr.parse (String.ofList host) standardPort = .ok a
  options : ∀ o : UrlOption, ∀ value ∈ o.values p.pairs, ∃ x, o.Denotes value x

/-- A configuration has the addresses of the hosts of a URL as its seeds, the last value that the
query holds for an option, and the defaults for everything else. -/
structure Describes (p : Parts) (c : Config) : Prop where
  seeds : ∃ addrs, List.Forall₂
    (fun host a => HostAddr.parse (String.ofList host) standardPort = .ok a)
    (p.hosts.splitOn ',') addrs ∧ c.cluster = { seeds := addrs.map HostAddr.text }
  options : ∀ o : UrlOption, o.SetsTo (o.values p.pairs) o.default (c.get o)
  observability : c.observability = {}

/-- Parts with the same hosts and the same values for every option describe the same. -/
theorem Describes.unique {p p' : Parts} {c c' : Config} (h : p.Describes c) (h' : p'.Describes c')
    (hosts_eq : p'.hosts = p.hosts)
    (values_eq : ∀ o : UrlOption, o.values p'.pairs = o.values p.pairs) : c = c' := by
  obtain ⟨addrs, hread, hcluster⟩ := h.seeds
  obtain ⟨addrs', hread', hcluster'⟩ := h'.seeds
  rw [hosts_eq, ← List.mapM_eq_ok_iff, List.mapM_eq_ok_iff.mpr hread, Except.ok.injEq] at hread'
  refine Config.ext_get ?_ (h.observability.trans h'.observability.symm) fun o => ?_
  · rw [hcluster, hcluster', hread']
  · exact (h.options o).unique (values_eq o ▸ h'.options o)

end Url.Parts

namespace Config

variable {url : String} {p : Url.Parts} {config : Config}

/-- The configuration that the pairs of a URL start from. -/
def seeded (addrs : List HostAddr) : Config :=
  { cluster := { seeds := addrs.map HostAddr.text }, loadBalance := { enabled := false } }

theorem get_seeded (addrs : List HostAddr) (o : UrlOption) : (seeded addrs).get o = o.default := by
  cases o <;> rfl

theorem exists_parts_of_ofUrl (h : ofUrl url = .ok config) :
    ∃ p : Url.Parts, trim url.toList = p.text := by
  unfold ofUrl at h
  split at h
  · cases h
  · rename_i rest hrest
    obtain ⟨p, htext, -⟩ := Url.exists_parts hrest
    exact ⟨p, htext⟩

/-- The hosts are read first, then the pairs. -/
theorem ofUrl_eq_ok_iff (h : trim url.toList = p.text) : ofUrl url = .ok config ↔
    ∃ addrs, List.Forall₂ (fun host a => HostAddr.parse (String.ofList host) standardPort = .ok a)
        (p.hosts.splitOn ',') addrs ∧
      p.pairs.foldlM set (seeded addrs) = .ok config := by
  rw [ofUrl_of_trim_eq h, ofHosts, Except.bind_eq_ok_iff]
  exact exists_congr fun addrs => and_congr_left' List.mapM_eq_ok_iff

theorem exists_ofUrl_iff (h : trim url.toList = p.text) :
    (∃ config, ofUrl url = .ok config) ↔ p.Acceptable := by
  simp only [ofUrl_eq_ok_iff h]
  constructor
  · rintro ⟨config, addrs, hread, hfold⟩
    exact ⟨List.exists_forall₂_iff.mp ⟨addrs, hread⟩, exists_foldlM_set_iff.mp ⟨config, hfold⟩⟩
  · rintro ⟨hhosts, hoptions⟩
    obtain ⟨addrs, hread⟩ := List.exists_forall₂_iff.mpr hhosts
    obtain ⟨config, hfold⟩ := exists_foldlM_set_iff.mpr hoptions
    exact ⟨config, addrs, hread, hfold⟩

theorem describes_of_ofUrl (h : trim url.toList = p.text) (accepted : ofUrl url = .ok config) :
    p.Describes config := by
  obtain ⟨addrs, hread, hfold⟩ := (ofUrl_eq_ok_iff h).mp accepted
  refine ⟨⟨addrs, hread, cluster_foldlM_set hfold⟩, fun o => ?_, observability_foldlM_set hfold⟩
  rw [← get_seeded addrs o]
  exact get_foldlM_set hfold o

/-- What one URL describes, so does another with the same hosts and the same values. -/
theorem ofUrl_of_values_eq {url' : String} {p' : Url.Parts} (h : trim url.toList = p.text)
    (h' : trim url'.toList = p'.text) (hosts_eq : p'.hosts = p.hosts)
    (values_eq : ∀ o : UrlOption, o.values p'.pairs = o.values p.pairs)
    (accepted : ofUrl url = .ok config) : ofUrl url' = .ok config := by
  have hacceptable : p'.Acceptable := by
    obtain ⟨hhosts, hoptions⟩ := (exists_ofUrl_iff h).mp ⟨config, accepted⟩
    exact ⟨hosts_eq ▸ hhosts, fun o => values_eq o ▸ hoptions o⟩
  obtain ⟨config', accepted'⟩ := (exists_ofUrl_iff h').mpr hacceptable
  rw [accepted', (describes_of_ofUrl h accepted).unique (describes_of_ofUrl h' accepted') hosts_eq
    values_eq]

/-- **When a URL is accepted, and what it sets.** A URL is accepted if it has a supported scheme,
all its hosts have addresses and every value for an option is well formed, overridden or not. Each
option is set to its last value, or else left at its default. Two URLs with the same hosts and, for
each option by itself, the same values in the same order describe the same configuration or none:
pairs of different options may change places, keys may be spelt either way and pairs with other keys
may come and go. -/
theorem ofUrl_options (url : String) :
    ((∃ config, ofUrl url = .ok config) ↔
      ∃ p : Url.Parts, trim url.toList = p.text ∧ p.Acceptable) ∧
    ∀ p : Url.Parts, trim url.toList = p.text →
      (∀ config, ofUrl url = .ok config → p.Describes config) ∧
      ∀ (url' : String) (p' : Url.Parts), trim url'.toList = p'.text → p'.hosts = p.hosts →
        (∀ o : UrlOption, o.values p'.pairs = o.values p.pairs) →
        (ofUrl url').toOption = (ofUrl url).toOption := by
  refine ⟨⟨?_, ?_⟩, fun p h => ⟨fun _ => describes_of_ofUrl h, ?_⟩⟩
  · rintro ⟨config, accepted⟩
    obtain ⟨p, h⟩ := exists_parts_of_ofUrl accepted
    exact ⟨p, h, (exists_ofUrl_iff h).mp ⟨config, accepted⟩⟩
  · rintro ⟨p, h, hacceptable⟩
    exact (exists_ofUrl_iff h).mpr hacceptable
  · intro url' p' h' hosts_eq values_eq
    cases accepted : ofUrl url with
    | ok config => rw [ofUrl_of_values_eq h h' hosts_eq values_eq accepted]
    | error e =>
      cases accepted' : ofUrl url' with
      | error e' => rfl
      | ok config =>
        have values_eq' : ∀ o : UrlOption, o.values p.pairs = o.values p'.pairs :=
          fun o => (values_eq o).symm
        rw [ofUrl_of_values_eq h' h hosts_eq.symm values_eq' accepted'] at accepted
        cases accepted

/-- A URL that turns balancing on and off again under its other key and takes its topology keys
back. -/
def overridingUrl : String :=
  "postgres://h?load-balance=true&topologyKeys=a.b.c&x=1&loadBalanceHosts=FALSE&topology-keys=+"

/-- The same URL with the pairs of one option before those of the other. -/
def sortedUrl : String :=
  "postgresql://h/db?topologyKeys=a.b.c&topologyKeys=&loadBalanceHosts=true&load-balance=FALSE"

/-- The second value of either option counts in both. -/
theorem ofUrl_options_overriding :
    (∃ config, ofUrl overridingUrl = .ok config ∧ config.get .loadBalance = false ∧
      config.get .topologyKeys = none ∧ config.get .failedHostTtl = (5 : Nat)) ∧
      (ofUrl sortedUrl).toOption = (ofUrl overridingUrl).toOption := by
  let p : Url.Parts :=
    ⟨false, .postgres, none, "h".toList, none,
      some "load-balance=true&topologyKeys=a.b.c&x=1&loadBalanceHosts=FALSE&topology-keys=+".toList,
      by decide, by decide, by decide⟩
  let q : Url.Parts :=
    ⟨false, .postgresql, none, "h".toList, some "db".toList,
      some "topologyKeys=a.b.c&topologyKeys=&loadBalanceHosts=true&load-balance=FALSE".toList,
      by decide, by decide, by decide⟩
  have hp : trim overridingUrl.toList = p.text := by decide +kernel
  have hq : trim sortedUrl.toList = q.text := by decide +kernel
  obtain ⟨hdescribes, hreorder⟩ := (ofUrl_options overridingUrl).2 p hp
  let config : Config := { cluster := { seeds := ["h:5433"] }, loadBalance := { enabled := false } }
  have accepted : ofUrl overridingUrl = .ok config := by decide +kernel
  have hpairs : p.pairs =
      [("load-balance".toList, "true".toList), ("topologyKeys".toList, "a.b.c".toList),
        ("x".toList, "1".toList), ("loadBalanceHosts".toList, "FALSE".toList),
        ("topology-keys".toList, " ".toList)] := by decide +kernel
  have hpairs' : q.pairs =
      [("topologyKeys".toList, "a.b.c".toList), ("topologyKeys".toList, "".toList),
        ("loadBalanceHosts".toList, "true".toList), ("load-balance".toList, "FALSE".toList)] := by
    decide +kernel
  have values_eq : ∀ o : UrlOption, o.values q.pairs = o.values p.pairs := by
    intro o
    rw [hpairs, hpairs']
    cases o <;> decide +kernel
  exact ⟨⟨config, accepted, rfl, rfl, (hdescribes config accepted).options .failedHostTtl⟩,
    hreorder sortedUrl q hq rfl values_eq⟩

end Config

end ConnectionRouter
