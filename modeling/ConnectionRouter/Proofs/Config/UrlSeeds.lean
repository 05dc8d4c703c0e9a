import ConnectionRouter.Config.Url
import ConnectionRouter.Proofs.Config.Faults

/-!
# The seeds of a connection URL

A connection URL names its hosts in one syntax, its configuration keeps them as texts, and a
router reads the texts again. Only a bracket can come between: inside brackets any text without a
closing one is a host, and a host without a colon is written without brackets. A colon-free host
that starts with another bracket or with a blank is thus not read back as it was; every other host
is (`Url.Faithful`).

* `Url.hostTexts`: the texts of the hosts that a URL names.
* `Config.ofUrl_eq_ok`: the addresses of these hosts, written out, are the seeds.
* `Config.ofUrl_seeds`: which seeds are read back, and what follows for the router if all are.
-/

namespace ConnectionRouter

open Text

namespace Url

/-- The texts of the hosts that a URL names, in order. -/
def hostTexts (url : String) : List (List Char) :=
  ((afterScheme? (trim url.toList)).map hosts).getD []

/-- The text of a host is not one in brackets that starts with another bracket or a blank and goes
on without a colon. -/
def Faithful (text : List Char) (a : HostAddr) : Prop :=
  ':' ∈ a.host.toList ∨
    ∀ (c : Char) (rest : List Char), trim text = '[' :: c :: rest → c ≠ '[' ∧ isBlank c = false

/-- The legible addresses among those that were read, by the texts they were read from. -/
theorem legible_iff_faithful {text : List Char} {d : UInt16} {a : HostAddr}
    (h : HostAddr.parse (String.ofList text) d = .ok a) : a.Legible ↔ Faithful text a := by
  obtain ⟨hne, hread⟩ := HostAddr.reading_of_parse h
  rw [String.toList_ofList] at hread
  by_cases hcolon : ':' ∈ a.host.toList
  · exact ⟨fun _ => .inl hcolon, fun _ => HostAddr.legible_of_parse h (.inl hcolon)⟩
  · cases hread with
    | plain rest htrim _ hbracket =>
      refine ⟨fun _ => .inr fun c t ht => absurd (by simp [ht]) hbracket, fun _ => ?_⟩
      exact HostAddr.legible_of_parse h (.inr (by rwa [String.toList_ofList]))
    | bracketed rest htrim _ =>
      obtain ⟨c, t, hs⟩ := List.exists_cons_of_ne_nil hne
      rw [HostAddr.legible_of_no_colon hcolon, Faithful, or_iff_right hcolon, htrim, hs]
      simp

theorem hosts_ne_nil (rest : List Char) : hosts rest ≠ [] := List.splitOn_ne_nil _ _

end Url

namespace Config

/-! ## The configuration of a URL -/

theorem cluster_set? {c c' : Config} {value : List Char} {option : UrlOption}
    (h : c.set? value option = some c') : c'.cluster = c.cluster := by
  cases option <;> simp only [set?, Option.map_eq_some_iff, Option.some.injEq] at h
  case topologyKeys => rw [← h]
  all_goals
    obtain ⟨_, -, rfl⟩ := h
    rfl

theorem cluster_set {c c' : Config} {pair : List Char × List Char} (h : c.set pair = .ok c') :
    c'.cluster = c.cluster := by
  obtain ⟨key, value⟩ := pair
  simp only [set] at h
  split at h
  · cases h
    rfl
  · split at h
    · rename_i hset
      cases h
      exact cluster_set? hset
    · cases h

/-- The options of a URL leave the cluster alone. -/
theorem cluster_foldlM_set {c c' : Config} {pairs : List (List Char × List Char)}
    (h : pairs.foldlM set c = .ok c') : c'.cluster = c.cluster := by
  induction pairs generalizing c with
  | nil =>
    cases h
    rfl
  | cons pair pairs ih =>
    rw [List.foldlM_cons] at h
    cases hset : c.set pair with
    | error e =>
      rw [hset] at h
      cases h
    | ok c₁ =>
      rw [hset] at h
      exact (ih h).trans (cluster_set hset)

/-- The seeds of an accepted URL are the written addresses of its hosts. -/
theorem ofUrl_eq_ok {url : String} {config : Config} (h : ofUrl url = .ok config) :
    ∃ addrs, addrs ≠ [] ∧
      List.Forall₂ (fun text a => HostAddr.parse (String.ofList text) standardPort = .ok a)
        (Url.hostTexts url) addrs ∧
      config.cluster = { seeds := addrs.map HostAddr.text } := by
  unfold ofUrl at h
  split at h
  · cases h
  · rename_i rest hrest
    cases hread : (Url.hosts rest).mapM fun t => HostAddr.parse (String.ofList t) standardPort with
    | error e =>
      rw [hread] at h
      cases h
    | ok addrs =>
      rw [hread] at h
      have hall := List.mapM_eq_ok_iff.1 hread
      refine ⟨addrs, ?_, by simpa [Url.hostTexts, hrest] using hall, cluster_foldlM_set h⟩
      rintro rfl
      exact Url.hosts_ne_nil rest (List.forall₂_nil_right_iff.1 hall)

/-! ## Reading the seeds again -/

theorem mapM_parse_text_iff {addrs : List HostAddr} {d : UInt16} :
    (addrs.map HostAddr.text).mapM (HostAddr.parse · d) = .ok addrs ↔ ∀ a ∈ addrs, a.Legible := by
  rw [List.mapM_eq_ok_iff, List.forall₂_map_left_iff, List.forall₂_same]
  simp only [HostAddr.parse_text_iff]

/-- Seeds that can all be read are no fault of a configuration. -/
theorem seed_not_mem_faults {config : Config}
    (h : ∀ s ∈ config.cluster.seeds, ∃ a, HostAddr.parse s config.cluster.defaultPort = .ok a)
    (e : RoutingError) : .seed e ∉ config.faults := by
  intro hmem
  obtain ⟨_, -, hviolates⟩ := config.reports_faults.mem_iff.mp hmem
  cases hviolates with
  | seed listed refused =>
    obtain ⟨a, ha⟩ := h _ (List.mem_of_getElem? listed)
    rw [ha] at refused
    cases refused

end Config

/-- **The seeds of an accepted URL are the addresses of its hosts, written out; a seed is read back
under every default port unless its host was in brackets, without a colon and behind another
bracket or a blank.** If no host is such a one, the router dials what the URL named, and validation
finds no fault with the seeds. -/
theorem Config.ofUrl_seeds {url : String} {config : Config} (accepted : ofUrl url = .ok config) :
    ∃ addrs, config.cluster = { seeds := addrs.map HostAddr.text } ∧
      List.Forall₂ (fun text a => HostAddr.parse (String.ofList text) standardPort = .ok a ∧
        ∀ d, HostAddr.parse a.text d = .ok a ↔ Url.Faithful text a) (Url.hostTexts url) addrs ∧
      (List.Forall₂ Url.Faithful (Url.hostTexts url) addrs →
        (∀ d, config.cluster.seeds.mapM (HostAddr.parse · d) = .ok addrs) ∧
        (∀ e, .seed e ∉ config.faults) ∧
        ∀ registry,
          (∀ r registry', Router.create config registry = .ok (r, registry') → r.seeds = addrs) ∧
          ∀ e, Router.create config registry = .error e → config.loadBalance.enabled = true ∧
            config.loadBalance.topologyKeys.mapM Preference.parse = .error e) := by
  obtain ⟨addrs, hne, hread, hcluster⟩ := ofUrl_eq_ok accepted
  have hback (text : List Char) (a : HostAddr)
      (ha : HostAddr.parse (String.ofList text) standardPort = .ok a) (d : UInt16) :
      HostAddr.parse a.text d = .ok a ↔ Url.Faithful text a :=
    (a.parse_text_iff d).trans (Url.legible_iff_faithful ha)
  refine ⟨addrs, hcluster, hread.imp fun text a ha => ⟨ha, hback text a ha⟩, fun hfaithful => ?_⟩
  have hlegible : ∀ a ∈ addrs, a.Legible :=
    ((List.forall₂_and_left _ _).1 (hread.mp (fun text a ha hf =>
      ⟨(Url.legible_iff_faithful ha).2 hf, hf⟩) hfaithful).flip).1
  have hseeds (d : UInt16) : config.cluster.seeds.mapM (HostAddr.parse · d) = .ok addrs := by
    rw [hcluster]
    exact mapM_parse_text_iff.2 hlegible
  refine ⟨hseeds, seed_not_mem_faults fun s hs => ?_, Router.create_of_seeds hne (hseeds _)⟩
  rw [hcluster] at hs
  obtain ⟨a, ha, rfl⟩ := List.mem_map.1 hs
  exact ⟨a, HostAddr.parse_text (hlegible a ha) _⟩

/-- A URL of two hosts, the second in two brackets. -/
def nestedBracketUrl : String := "postgresql://a:1,[[b]:2"

/-- The first seed is read back; the second cannot be read at all. -/
theorem Config.ofUrl_seeds_nestedBracket :
    ∃ config, ofUrl nestedBracketUrl = .ok config ∧ config.cluster.seeds = ["a:1", "[b:2"] ∧
      (∀ d, HostAddr.parse "a:1" d = .ok ⟨"a", 1⟩) ∧
      (∀ d, HostAddr.parse "[b:2" d ≠ .ok ⟨"[b", 2⟩) ∧
      config.faults = [.seed (.configuration (.hostAddress "[b:2"))] := by
  let config : Config :=
    { cluster := { seeds := ["a:1", "[b:2"] }, loadBalance := { enabled := false } }
  have accepted : ofUrl nestedBracketUrl = .ok config := by decide +kernel
  obtain ⟨addrs, hcluster, hread, -⟩ := ofUrl_seeds accepted
  have htexts : [⟨"a", 1⟩, ⟨"[b", 2⟩].map HostAddr.text = addrs.map HostAddr.text :=
    .trans (by decide +kernel) (congrArg Cluster.seeds hcluster)
  obtain rfl := HostAddr.text_injective.list_map htexts
  have hhosts : Url.hostTexts nestedBracketUrl = ["a:1".toList, "[[b]:2".toList] := by
    decide +kernel
  rw [hhosts, List.forall₂_cons, List.forall₂_cons] at hread
  obtain ⟨⟨-, ha⟩, ⟨-, hb⟩, -⟩ := hread
  refine ⟨config, accepted, rfl, fun d => ?_, fun d => ?_, by decide +kernel⟩
  · exact (ha d).2 (.inr fun c rest h => absurd h (by
      rw [show Text.trim "a:1".toList = "a:1".toList by decide +kernel]
      simp))
  · refine mt (hb d).1 ?_
    rintro (hcolon | hstart)
    · exact absurd hcolon (by decide +kernel)
    · exact (hstart '[' "b]:2".toList (by decide +kernel)).1 rfl

end ConnectionRouter
