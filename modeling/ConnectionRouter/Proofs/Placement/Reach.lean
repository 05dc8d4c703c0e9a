import ConnectionRouter.Proofs.Placement.Ranking
import ConnectionRouter.Proofs.Topology.Rows

/-!
# Which patterns a member can fall under

The text of a preference and the rows of the servers query are read by different rules. Blanks
inside an entry belong to its pattern, even those beside a dot, while every column of a row is
trimmed by itself. So a pattern is out of reach of every member if a blank stands at either end of
its cloud or of its region. A blank at the start of its zone leaves it the members that stand for
every zone.

* `Member.exists_placement_ofRow_iff`: the places that rows describe are those with trimmed parts.
* `Placement.Reachable`: a row with an address describes a member that falls under the pattern.
* `Preference.reachable_of_parse`: which patterns of an accepted text are reachable.
-/

namespace ConnectionRouter

open Text

/-! ## The places of rows -/

/-- A place with no blanks around its parts. -/
structure Placement.IsTrimmed (p : Placement) : Prop where
  cloud : Trimmed p.cloud.toList
  region : Trimmed p.region.toList
  zone : Trimmed p.zone.toList

namespace Row

/-- A row of a member in a place. -/
def ofPlacement (p : Placement) : Row :=
  ((((∅ : Row).insert "host" "h").insert "cloud" p.cloud).insert "region" p.region).insert
    "zone" p.zone

theorem getElem?_ofPlacement (p : Placement) (column : String) :
    (ofPlacement p)[column]? =
      if "zone" = column then some p.zone
      else if "region" = column then some p.region
      else if "cloud" = column then some p.cloud
      else if "host" = column then some "h" else none := by
  simp only [ofPlacement, Std.ExtTreeMap.getElem?_insert, Std.compare_eq_iff_eq,
    Std.ExtTreeMap.getElem?_empty]

end Row

namespace Member

theorem isTrimmed_placement_ofRow (row : Row) : (ofRow row).placement.IsTrimmed :=
  ⟨row.trimmed_value? "cloud", row.trimmed_value? "region", row.trimmed_value? "zone"⟩

theorem hasAddress_ofPlacement (p : Placement) :
    (ofRow (Row.ofPlacement p)).hasAddress = true := by
  have hhost : (Row.ofPlacement p)["host"]? = some "h" := by
    rw [Row.getElem?_ofPlacement]
    rfl
  have hvalue : (Row.ofPlacement p).value? "host" = some "h" := by
    rw [Row.value?, hhost]
    rfl
  rw [hasAddress, ofRow, hvalue]
  rfl

theorem placement_ofPlacement {p : Placement} (h : p.IsTrimmed) :
    (ofRow (Row.ofPlacement p)).placement = p := by
  have hcloud : (Row.ofPlacement p)["cloud"]? = some p.cloud := by
    rw [Row.getElem?_ofPlacement]
    rfl
  have hregion : (Row.ofPlacement p)["region"]? = some p.region := by
    rw [Row.getElem?_ofPlacement]
    rfl
  have hzone : (Row.ofPlacement p)["zone"]? = some p.zone := by
    rw [Row.getElem?_ofPlacement]
    rfl
  simp only [ofRow, Row.getD_value? hcloud h.cloud, Row.getD_value? hregion h.region,
    Row.getD_value? hzone h.zone]

/-- A row can describe a member in any place with trimmed parts, and in no other one. -/
theorem exists_placement_ofRow_iff {p : Placement} :
    (∃ row, (ofRow row).hasAddress = true ∧ (ofRow row).placement = p) ↔ p.IsTrimmed := by
  constructor
  · rintro ⟨row, -, rfl⟩
    exact isTrimmed_placement_ofRow row
  · intro h
    exact ⟨Row.ofPlacement p, hasAddress_ofPlacement p, placement_ofPlacement h⟩

end Member

/-! ## Patterns within reach -/

/-- Blanks are not letters, so texts that are equal up to case have them in the same places. -/
theorem Text.Trimmed.of_eqUpToCase {a b : String} (h : eqUpToCase a b = true)
    (ha : Trimmed a.toList) : Trimmed b.toList := by
  have hmap : (trim b.toList).map Char.toLower = b.toList.map Char.toLower := by
    rw [← trim_map_toLower, ← eqUpToCase_iff.mp h, trim_map_toLower, ha.trim_eq]
  -- Trimming never makes a text of the same length.
  have hb : trim b.toList = b.toList :=
    (trim_sublist _).eq_of_length (by simpa using congrArg List.length hmap)
  exact hb ▸ trimmed_trim _

namespace Placement

/-- The servers query can report a member with an address that falls under a pattern. -/
def Reachable (pattern : Placement) : Prop :=
  ∃ row, (Member.ofRow row).hasAddress = true ∧
    (Member.ofRow row).placement.fallsUnder pattern = true

variable {pattern : Placement}

/-- The parts of a pattern that have to be met are those of a trimmed place. -/
theorem trimmed_of_fallsUnder_ofRow {row : Row}
    (h : (Member.ofRow row).placement.fallsUnder pattern = true) :
    Trimmed pattern.cloud.toList ∧ Trimmed pattern.region.toList := by
  have hfalls := fallsUnder_iff.mp h
  have hplace := Member.isTrimmed_placement_ofRow row
  exact ⟨hplace.cloud.of_eqUpToCase hfalls.cloud, hplace.region.of_eqUpToCase hfalls.region⟩

theorem trimmed_wildcard : Trimmed wildcard.toList where
  start := by
    rintro c ⟨rfl⟩
    decide
  finish := by
    rintro c ⟨rfl⟩
    decide

/-- Members that stand for every zone reach a pattern whatever its zone is. -/
theorem reachable_iff :
    pattern.Reachable ↔ Trimmed pattern.cloud.toList ∧ Trimmed pattern.region.toList := by
  constructor
  · rintro ⟨row, -, hfalls⟩
    exact trimmed_of_fallsUnder_ofRow hfalls
  · rintro ⟨hcloud, hregion⟩
    let place : Placement := ⟨pattern.cloud, pattern.region, wildcard⟩
    have hplace : place.IsTrimmed := ⟨hcloud, hregion, trimmed_wildcard⟩
    obtain ⟨row, haddress, hrow⟩ := Member.exists_placement_ofRow_iff.mpr hplace
    refine ⟨row, haddress, ?_⟩
    rw [hrow, fallsUnder_iff]
    exact ⟨eqUpToCase_iff.mpr rfl, eqUpToCase_iff.mpr rfl, .inr (.inl rfl)⟩

end Placement

namespace Preference

variable {source : String} {p : Preference} {rank : Nat} {pattern : Placement}

theorem writable_of_parse (accepted : parse source = .ok p) (declared : pattern ∈ p.tier rank) :
    pattern.Writable := by
  have hlisted : ⟨pattern, rank⟩ ∈ listed p.tiers := mem_listed.mpr declared
  exact ((written_of_parse accepted).legible _ hlisted).writable

/-- **Which patterns of an accepted text members can fall under**: those whose cloud does not end in
a blank and whose region neither starts nor ends in one. No row at all describes a member that falls
under any other pattern. -/
theorem reachable_of_parse (accepted : parse source = .ok p) (declared : pattern ∈ p.tier rank) :
    (pattern.Reachable ↔
      (∀ c, pattern.cloud.toList.getLast? = some c → isBlank c = false) ∧
        Trimmed pattern.region.toList) ∧
    (¬ pattern.Reachable → ∀ row, (Member.ofRow row).placement.fallsUnder pattern = false) := by
  have hwritable := writable_of_parse accepted declared
  rw [Placement.reachable_iff]
  refine ⟨and_congr_left' ⟨fun h => h.finish, fun h => ⟨hwritable.start, h⟩⟩, fun hnot row => ?_⟩
  rw [← Bool.not_eq_true]
  exact mt Placement.trimmed_of_fallsUnder_ofRow hnot

/-- Of the two patterns one has a blank inside its region and the other one beside a dot. -/
theorem reachable_of_parse_untidy :
    ∃ p, parse untidyKeys = .ok p ∧
      (∃ pattern ∈ p.tier 3, pattern.region = "us west" ∧ pattern.Reachable) ∧
      ∃ pattern ∈ p.tier 1, pattern.region = " eu" ∧ ¬ pattern.Reachable := by
  let p : Preference := ofEntries untidyKeys
    [⟨⟨"aws", "us west", "*"⟩, 3⟩, ⟨⟨"gcp ", " eu", "b"⟩, 1⟩, ⟨⟨"aws", "us west", "*"⟩, 3⟩,
      ⟨⟨"gcp ", " eu", "b"⟩, 1⟩]
  have accepted : parse untidyKeys = .ok p := by decide +kernel
  have haws : ⟨"aws", "us west", "*"⟩ ∈ p.tier 3 := by decide +kernel
  have hgcp : ⟨"gcp ", " eu", "b"⟩ ∈ p.tier 1 := by decide +kernel
  refine ⟨p, accepted, ⟨_, haws, rfl, ?_⟩, ⟨_, hgcp, rfl, ?_⟩⟩
  · refine (reachable_of_parse accepted haws).1.mpr ⟨?_, ?_, ?_⟩ <;>
      · rintro c ⟨rfl⟩
        decide
  · intro h
    obtain ⟨-, hregion⟩ := (reachable_of_parse accepted hgcp).1.mp h
    exact absurd (hregion.start ' ' rfl) (by decide)

/-- A preference that no member can meet: a blank stands before the first dot. -/
def blankBeforeDot : String := "aws .us-west.a"

/-- The text is accepted, and no row describes a member that falls under its pattern. -/
theorem exists_parse_unreachable :
    ∃ p, parse blankBeforeDot = .ok p ∧ ∃ pattern ∈ p.tier 1,
      ∀ row, (Member.ofRow row).placement.fallsUnder pattern = false := by
  refine ⟨ofEntries blankBeforeDot [⟨⟨"aws ", "us-west", "a"⟩, 1⟩], by decide +kernel,
    ⟨"aws ", "us-west", "a"⟩, by decide +kernel, fun row => ?_⟩
  rw [← Bool.not_eq_true]
  intro h
  obtain ⟨hcloud, -⟩ := Placement.trimmed_of_fallsUnder_ofRow h
  exact absurd (hcloud.finish ' ' (by decide)) (by decide)

end Preference

end ConnectionRouter
