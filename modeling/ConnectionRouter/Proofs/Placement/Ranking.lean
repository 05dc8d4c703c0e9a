import ConnectionRouter.Proofs.LetterCase
import ConnectionRouter.Proofs.Placement.Grammar
import ConnectionRouter.Proofs.Pool.Choice
import Mathlib.Order.Bounds.Defs

/-!
# What a preference means

A preference gives a place the smallest rank of the entries of its text whose pattern the place
falls under, and the rest of the cluster if there is no such entry (`Preference.Ranked`). Tiers,
their order and what they leave out of the text play no part in it.

So a preference whose entries cover those of another one ranks no place worse
(`Preference.priorityOf_le_of_covers`). Entries may be permuted and repeated, and letters written in
either case: each of two such texts covers the other.

* `Placement.FallsUnder`: the match of a place against a pattern, part by part.
* `Preference.ranked_priorityOf`: the tier that the lookup finds is the smallest.
* `Preference.Entry.Reads.eqUpToCase`: texts that differ in case declare entries that do.
-/

namespace ConnectionRouter

open Text

namespace Placement

/-! ## Places and patterns up to case -/

/-- A place falls under a pattern: cloud and region are the same up to case, and so is the zone
unless one of the two zones stands for all. -/
structure FallsUnder (p pattern : Placement) : Prop where
  cloud : eqUpToCase p.cloud pattern.cloud = true
  region : eqUpToCase p.region pattern.region = true
  zone : pattern.zone = "*" ∨ p.zone = "*" ∨ eqUpToCase p.zone pattern.zone = true

theorem fallsUnder_iff {p pattern : Placement} :
    p.fallsUnder pattern = true ↔ p.FallsUnder pattern := by
  simp only [fallsUnder, isWildcard, wildcard, Bool.and_eq_true, Bool.or_eq_true, beq_iff_eq,
    or_assoc]
  exact ⟨fun ⟨⟨hcloud, hregion⟩, hzone⟩ => ⟨hcloud, hregion, hzone⟩,
    fun ⟨hcloud, hregion, hzone⟩ => ⟨⟨hcloud, hregion⟩, hzone⟩⟩

/-- Every part is the same up to the case of ASCII letters. -/
structure EqUpToCase (p q : Placement) : Prop where
  cloud : eqUpToCase p.cloud q.cloud = true
  region : eqUpToCase p.region q.region = true
  zone : eqUpToCase p.zone q.zone = true

/-- The wildcard has no other spelling. -/
theorem eq_wildcard_of_eqUpToCase {a b : String} (h : eqUpToCase a b = true) (ha : a = "*") :
    b = "*" := by
  rw [eqUpToCase_iff, ha, eq_comm] at h
  exact String.toList_inj.mp ((map_toLower_eq_singleton_iff (by decide)).mp h)

theorem EqUpToCase.refl (p : Placement) : p.EqUpToCase p := by
  constructor <;> exact eqUpToCase_iff.mpr rfl

theorem EqUpToCase.symm {p q : Placement} (h : p.EqUpToCase q) : q.EqUpToCase p :=
  ⟨eqUpToCase_symm h.cloud, eqUpToCase_symm h.region, eqUpToCase_symm h.zone⟩

/-- The case of letters plays no part in a match, neither in the place nor in the pattern. -/
theorem FallsUnder.congr {p p' pattern pattern' : Placement} (h : p.FallsUnder pattern)
    (hp : p.EqUpToCase p') (hpattern : pattern.EqUpToCase pattern') : p'.FallsUnder pattern' := by
  have hpart : ∀ {a a' b b' : String}, eqUpToCase a b = true → eqUpToCase a a' = true →
      eqUpToCase b b' = true → eqUpToCase a' b' = true := by
    simp only [eqUpToCase_iff]
    exact fun hab ha hb => ha.symm.trans (hab.trans hb)
  refine ⟨hpart h.cloud hp.cloud hpattern.cloud, hpart h.region hp.region hpattern.region, ?_⟩
  rcases h.zone with hall | hall | hzone
  · exact .inl (eq_wildcard_of_eqUpToCase hpattern.zone hall)
  · exact .inr (.inl (eq_wildcard_of_eqUpToCase hp.zone hall))
  · exact .inr (.inr (hpart hzone hp.zone hpattern.zone))

/-- A text that is a pattern's up to case is a pattern's. -/
theorem IsPattern.exists_of_map_toLower {p : Placement} (h : p.IsPattern) {s : List Char}
    (hs : s.map Char.toLower = p.text.toList.map Char.toLower) :
    ∃ q : Placement, s = q.text.toList ∧ q.IsPattern ∧ p.EqUpToCase q := by
  have hparts : (s.splitOn '.').map (·.map Char.toLower) =
      p.components.map (·.map Char.toLower) := by
    rw [← splitOn_map_toLower (by decide), hs, splitOn_map_toLower (by decide), splitOn_text h]
  have hthree : (s.splitOn '.').length = 3 := by
    simpa [components] using congrArg List.length hparts
  obtain ⟨cloud, region, zone, hsplit⟩ := List.length_eq_three.mp hthree
  let q : Placement := ⟨String.ofList cloud, String.ofList region, String.ofList zone⟩
  have hq : s.splitOn '.' = q.components := by simpa [q, components] using hsplit
  obtain ⟨htext, -, hdot⟩ := splitOn_eq_iff.mp hq
  rw [hq] at hparts
  have heq : p.EqUpToCase q := by
    simp only [components, List.map_cons, List.map_nil, List.cons.injEq, and_true] at hparts
    obtain ⟨hcloud, hregion, hzone⟩ := hparts
    exact ⟨eqUpToCase_iff.mpr hcloud.symm, eqUpToCase_iff.mpr hregion.symm,
      eqUpToCase_iff.mpr hzone.symm⟩
  refine ⟨q, by rw [htext, toList_text], ⟨fun c hc hnil => ?_, hdot, fun hall => ?_, fun hall => ?_⟩,
    heq⟩
  · obtain ⟨c', hc', he⟩ := List.mem_map.mp (hparts ▸ List.mem_map_of_mem hc)
    rw [hnil] at he
    exact h.ne_nil c' hc' (List.map_eq_nil_iff.mp he)
  · exact h.cloud_ne (eq_wildcard_of_eqUpToCase heq.symm.cloud hall)
  · exact h.region_ne (eq_wildcard_of_eqUpToCase heq.symm.region hall)

end Placement

namespace Preference

/-! ## Entries up to case -/

/-- A text declares one entry. -/
theorem Entry.Reads.unique {s : List Char} {e e' : Entry} (h : Entry.Reads s e)
    (h' : Entry.Reads s e') : e = e' := by
  have hread : Entry.parse "" s = .ok e := Entry.parse_eq_ok_iff.mpr h
  have hread' : Entry.parse "" s = .ok e' := Entry.parse_eq_ok_iff.mpr h'
  exact Except.ok.inj (hread.symm.trans hread')

/-- Texts that differ in case declare entries that do. -/
theorem Entry.Reads.eqUpToCase {s s' : List Char} {e : Entry} (h : Entry.Reads s e)
    (hs : s'.map Char.toLower = s.map Char.toLower) :
    ∃ e', Entry.Reads s' e' ∧ e'.rank = e.rank ∧ e.pattern.EqUpToCase e'.pattern := by
  have htrim : (trim s').map Char.toLower = (trim s).map Char.toLower := by
    rw [← trim_map_toLower, hs, trim_map_toLower]
  cases h with
  | @unranked pattern hcolon hnamed hpattern =>
    obtain ⟨q, hq, hqpattern, heq⟩ := hpattern.exists_of_map_toLower (hnamed ▸ htrim)
    have hcolon' : ':' ∉ trim s' := by
      rwa [← mem_map_toLower_iff (by decide), htrim, mem_map_toLower_iff (by decide)]
    exact ⟨⟨q, 1⟩, .unranked hcolon' hq hqpattern, rfl, heq⟩
  | @ranked piece numeral pattern rank hcut hcolon hnamed hpattern hdenotes hone hmax =>
    have hparts : ((trim s').splitOn ':').map (·.map Char.toLower) =
        [piece, numeral].map (·.map Char.toLower) := by
      rw [← splitOn_map_toLower (by decide), htrim, splitOn_map_toLower (by decide),
        splitOn_eq_pair_iff.mpr ⟨hcut, hcolon⟩]
    simp only [List.map_cons, List.map_nil, List.map_eq_cons_iff, List.map_eq_nil_iff] at hparts
    obtain ⟨piece', _, hsplit, hpiece, numeral', _, rfl, hnumeral, rfl⟩ := hparts
    obtain ⟨hcut', hcolon'⟩ := splitOn_eq_pair_iff.mp hsplit
    obtain ⟨q, hq, hqpattern, heq⟩ := hpattern.exists_of_map_toLower (s := trim piece')
      (by rw [← trim_map_toLower, hpiece, trim_map_toLower, hnamed])
    have hdenotes' : readSigned64? (trim numeral') = some (rank : Int) := by
      rw [← readSigned64?_map_toLower, ← trim_map_toLower, hnumeral, trim_map_toLower,
        readSigned64?_map_toLower, hdenotes]
    exact ⟨⟨q, rank⟩, .ranked hcut' hcolon' hq hqpattern hdenotes' hone hmax, rfl, heq⟩

/-! ## The smallest rank -/

/-- The priority that entries give a place. -/
def Ranked (es : List Entry) (place : Placement) : Priority → Prop
  | .tier rank => IsLeast {r | ∃ e ∈ es, e.rank = r ∧ place.FallsUnder e.pattern} rank
  | .restOfCluster => ∀ e ∈ es, ¬ place.FallsUnder e.pattern

theorem fallsUnderAny_iff {place : Placement} {patterns : List Placement} :
    place.fallsUnderAny patterns = true ↔ ∃ pattern ∈ patterns, place.FallsUnder pattern := by
  simp only [Placement.fallsUnderAny, List.any_eq_true, Placement.fallsUnder_iff]

theorem mem_listed_iff_exists {tiers : Std.ExtTreeMap Nat (List Placement)} {e : Entry} :
    e ∈ listed tiers ↔ ∃ patterns, (e.rank, patterns) ∈ tiers.toList ∧ e.pattern ∈ patterns := by
  rw [mem_listed]
  simp only [Std.ExtTreeMap.mem_toList_iff_getElem?_eq_some]
  cases tiers[e.rank]? <;> simp

/-- **The first tier that a place falls under has the smallest rank.** -/
theorem ranked_priorityOf (p : Preference) (place : Placement) :
    Ranked (listed p.tiers) place (p.priorityOf place) := by
  unfold priorityOf
  split
  · rename_i rank patterns hfind
    obtain ⟨hunder, before, behind, hlist, hbefore⟩ := List.find?_eq_some_iff_append.mp hfind
    obtain ⟨pattern, hpattern, hfalls⟩ := fallsUnderAny_iff.mp hunder
    refine ⟨⟨⟨pattern, rank⟩, mem_listed_iff_exists.mpr ⟨patterns, ?_, hpattern⟩, rfl, hfalls⟩, ?_⟩
    · simp [hlist]
    · rintro _ ⟨e, he, rfl, hfalls⟩
      obtain ⟨ps, hmem, hp⟩ := mem_listed_iff_exists.mp he
      have hordered := Std.ExtTreeMap.ordered_keys_toList (t := p.tiers)
      rw [hlist] at hmem hordered
      -- a tier before the first is none that the place falls under, and those behind rank higher
      rcases List.mem_append.mp hmem with hmem | hmem
      · have hnot := hbefore _ hmem
        simp [fallsUnderAny_iff.mpr ⟨_, hp, hfalls⟩] at hnot
      · rcases List.mem_cons.mp hmem with heq | hmem
        · exact Nat.le_of_eq (congrArg Prod.fst heq).symm
        · have hlt := (List.pairwise_cons.mp (List.pairwise_append.mp hordered).2.1).1 _ hmem
          exact Nat.le_of_lt (Nat.compare_eq_lt.mp hlt)
  · rename_i hfind
    intro e he hfalls
    obtain ⟨ps, hmem, hp⟩ := mem_listed_iff_exists.mp he
    exact List.find?_eq_none.mp hfind _ hmem (fallsUnderAny_iff.mpr ⟨_, hp, hfalls⟩)

theorem Ranked.of_mem_iff {es es' : List Entry} {place : Placement} {q : Priority}
    (h : Ranked es place q) (hmem : ∀ e, e ∈ es ↔ e ∈ es') : Ranked es' place q := by
  cases q <;> simpa only [Ranked, hmem] using h

/-- Entries that cover others give no worse priority. -/
theorem Ranked.le {es es' : List Entry} {place place' : Placement} {q q' : Priority}
    (hq : Ranked es place q) (hq' : Ranked es' place' q')
    (covers : ∀ e ∈ es, place.FallsUnder e.pattern →
      ∃ e' ∈ es', e'.rank = e.rank ∧ place'.FallsUnder e'.pattern) : q' ≤ q := by
  rw [Priority.le_iff]
  cases q with
  | restOfCluster => rfl
  | tier rank =>
    obtain ⟨⟨e, he, rfl, hfalls⟩, -⟩ := hq
    obtain ⟨e', he', hrank, hfalls'⟩ := covers e he hfalls
    cases q' with
    | restOfCluster => exact absurd hfalls' (hq' e' he')
    | tier rank' =>
      have hle : rank' ≤ e.rank := hq'.2 ⟨e', he', hrank, hfalls'⟩
      simpa [Priority.isBefore] using hle

/-! ## Texts -/

/-- An accepted text ranks places as its entries do. -/
theorem exists_ranked {source : String} {p : Preference} (h : parse source = .ok p) :
    ∃ es, List.Forall₂ Entry.Reads (pieces source) es ∧
      ∀ place, Ranked es place (p.priorityOf place) := by
  obtain ⟨es, hes, rfl⟩ := parse_eq_ok_iff.mp h
  exact ⟨es, entries_eq_ok_iff.mp hes, fun place =>
    (ranked_priorityOf _ place).of_mem_iff fun _ => mem_listed_foldl⟩

/-- Every piece of the first text is one of the second, up to case. -/
def CoveredBy (source source' : String) : Prop :=
  ∀ piece ∈ pieces source,
    ∃ piece' ∈ pieces source', piece'.map Char.toLower = piece.map Char.toLower

namespace CoveredBy

variable {source source' : String} {p p' : Preference}

theorem of_subset (h : pieces source ⊆ pieces source') : CoveredBy source source' :=
  fun piece hpiece => ⟨piece, h hpiece, rfl⟩

theorem of_eqUpToCase (h : eqUpToCase source source' = true) : CoveredBy source source' := by
  intro piece hpiece
  have hpieces : (pieces source').map (·.map Char.toLower) =
      (pieces source).map (·.map Char.toLower) := by
    rw [pieces, pieces, ← splitOn_map_toLower (by decide), ← eqUpToCase_iff.mp h,
      splitOn_map_toLower (by decide)]
  exact List.mem_map.mp (hpieces ▸ List.mem_map_of_mem hpiece)

/-- A text whose pieces are those of an accepted one is accepted. -/
theorem exists_parse (h : CoveredBy source' source) (accepted : parse source = .ok p) :
    ∃ p', parse source' = .ok p' := by
  refine exists_parse_iff.mpr fun piece' hpiece' => ?_
  obtain ⟨piece, hpiece, heq⟩ := h piece' hpiece'
  obtain ⟨e, hreads⟩ := exists_parse_iff.mp ⟨p, accepted⟩ piece hpiece
  obtain ⟨e', hreads', -⟩ := hreads.eqUpToCase heq.symm
  exact ⟨e', hreads'⟩

/-- More entries rank no place worse, and case plays no part. -/
theorem priorityOf_le (h : CoveredBy source source') (accepted : parse source = .ok p)
    (accepted' : parse source' = .ok p') {place place' : Placement}
    (hplace : place.EqUpToCase place') : p'.priorityOf place' ≤ p.priorityOf place := by
  obtain ⟨es, hes, hranked⟩ := exists_ranked accepted
  obtain ⟨es', hes', hranked'⟩ := exists_ranked accepted'
  refine (hranked place).le (hranked' place') fun e he hfalls => ?_
  obtain ⟨piece, hpiece, hreads⟩ := List.exists_of_forall₂ hes.flip he
  obtain ⟨piece', hpiece', heq⟩ := h piece hpiece
  obtain ⟨e', he', hreads'⟩ := List.exists_of_forall₂ hes' hpiece'
  obtain ⟨_, hsame, hrank, hpattern⟩ := hreads.eqUpToCase heq
  obtain rfl := hsame.unique hreads'
  exact ⟨_, he', hrank, hfalls.congr hplace hpattern⟩

theorem exists_same (h : CoveredBy source source') (h' : CoveredBy source' source)
    (accepted : parse source = .ok p) :
    ∃ p', parse source' = .ok p' ∧ ∀ place, p'.priorityOf place = p.priorityOf place := by
  obtain ⟨p', accepted'⟩ := h'.exists_parse accepted
  exact ⟨p', accepted', fun place => Std.le_antisymm
    (h.priorityOf_le accepted accepted' (.refl place))
    (h'.priorityOf_le accepted' accepted (.refl place))⟩

end CoveredBy

/-- **An accepted preference gives every place the smallest rank of the entries it falls under**,
and the rest of the cluster if there is none. So its entries may be permuted and repeated and the
letters of the text and of a place written in either case, and nothing is ranked otherwise; and
whatever is added to the text, no place is ranked worse. -/
theorem ranks_by_smallest {source : String} {p : Preference} (accepted : parse source = .ok p) :
    (∃ es, List.Forall₂ Entry.Reads (pieces source) es ∧
      ∀ place, Ranked es place (p.priorityOf place)) ∧
    (∀ source', (∀ piece, piece ∈ pieces source' ↔ piece ∈ pieces source) →
      ∃ p', parse source' = .ok p' ∧ ∀ place, p'.priorityOf place = p.priorityOf place) ∧
    (∀ source', eqUpToCase source source' = true →
      ∃ p', parse source' = .ok p' ∧ ∀ place, p'.priorityOf place = p.priorityOf place) ∧
    (∀ place place', place.EqUpToCase place' → p.priorityOf place' = p.priorityOf place) ∧
    ∀ source' p', pieces source ⊆ pieces source' → parse source' = .ok p' →
      ∀ place, p'.priorityOf place ≤ p.priorityOf place := by
  refine ⟨exists_ranked accepted, fun source' hpieces => ?_, fun source' hcase => ?_,
    fun place place' hplace => ?_, fun source' p' hmore accepted' place => ?_⟩
  · exact CoveredBy.exists_same (.of_subset fun piece => (hpieces piece).mpr)
      (.of_subset fun piece => (hpieces piece).mp) accepted
  · exact CoveredBy.exists_same (.of_eqUpToCase hcase) (.of_eqUpToCase (eqUpToCase_symm hcase))
      accepted
  · have hself : CoveredBy source source := .of_subset (List.Subset.refl _)
    exact Std.le_antisymm (hself.priorityOf_le accepted accepted hplace)
      (hself.priorityOf_le accepted accepted hplace.symm)
  · exact (CoveredBy.of_subset hmore).priorityOf_le accepted accepted' (.refl place)

/-- Patterns that have places in common, ranks out of order, and a blank. -/
def overlappingKeys : String := "aws.us.*:2,AWS.us.a ,gcp.eu.b:03"

theorem ranks_by_smallest_overlapping :
    ∃ p p' p'', parse overlappingKeys = .ok p ∧ p.priorityOf ⟨"Aws", "us", "*"⟩ = .tier 1 ∧
      parse "gcp.eu.b:03,aws.us.*:2,AWS.us.a ,aws.us.*:2" = .ok p' ∧
      (∀ place, p'.priorityOf place = p.priorityOf place) ∧
      parse "AWS.us.*:2,aws.US.A ,Gcp.eu.b:03" = .ok p'' ∧
      ∀ place, p''.priorityOf place = p.priorityOf place := by
  let p : Preference := ofEntries overlappingKeys
    [⟨⟨"aws", "us", "*"⟩, 2⟩, ⟨⟨"AWS", "us", "a"⟩, 1⟩, ⟨⟨"gcp", "eu", "b"⟩, 3⟩]
  have accepted : parse overlappingKeys = .ok p := by decide +kernel
  obtain ⟨-, hpieces, hcase, -⟩ := ranks_by_smallest accepted
  have hsub : pieces "gcp.eu.b:03,aws.us.*:2,AWS.us.a ,aws.us.*:2" ⊆ pieces overlappingKeys := by
    decide +kernel
  have hsub' : pieces overlappingKeys ⊆ pieces "gcp.eu.b:03,aws.us.*:2,AWS.us.a ,aws.us.*:2" := by
    decide +kernel
  obtain ⟨p', hp', hsame'⟩ := hpieces _ fun piece => ⟨@hsub piece, @hsub' piece⟩
  obtain ⟨p'', hp'', hsame''⟩ := hcase "AWS.us.*:2,aws.US.A ,Gcp.eu.b:03" (by decide +kernel)
  exact ⟨p, p', p'', accepted, by decide +kernel, hp', hsame', hp'', hsame''⟩

end Preference

end ConnectionRouter
