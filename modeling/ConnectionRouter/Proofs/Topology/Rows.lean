import ConnectionRouter.Proofs.Numeral
import ConnectionRouter.Topology.Member
import Mathlib.Data.List.Forall2

/-!
# What the rows of the servers query say

A column of a row may be missing, blank, padded or malformed. What it says is the text that stands
in it between blanks, if there is one (`Row.Says`, `Row.value?_eq_some_iff`).

* `Row.Describes`: a member has what its row says, and nothing else.
* `Member.ofAnswer_ok`: an answer describes the rows with an address, in order.
* `Member.ofAnswer_error`: whatever goes wrong counts as a failure of the query.
-/

namespace ConnectionRouter

open Text

namespace Row

variable {row : Row} {column text : String}

/-! ## Columns -/

/-- A column says a text: it stands there with at most blanks around it, neither starts nor ends
with one, and is not empty. -/
structure Says (row : Row) (column text : String) : Prop where
  ne_empty : text ≠ ""
  trimmed : Trimmed text.toList
  written : ∃ raw before after, row[column]? = some raw ∧ Blanks before ∧ Blanks after ∧
    raw.toList = before ++ text.toList ++ after

/-- Whether anything but blanks stands in a column. -/
def isFilled (row : Row) (column : String) : Bool :=
  (row[column]?).any fun raw => raw.toList.any fun c => !isBlank c

/-- **A column reads as the text that it says.** -/
theorem value?_eq_some_iff : row.value? column = some text ↔ row.Says column text := by
  have hread : row.value? column = some text ↔
      text ≠ "" ∧ ∃ raw, row[column]? = some raw ∧ trim raw.toList = text.toList := by
    rw [value?, Option.filter_eq_some_iff, Option.map_eq_some_iff, decide_eq_true_eq, and_comm]
    simp only [← String.toList_inj, String.toList_ofList]
  rw [hread]
  constructor
  · rintro ⟨hne, raw, hraw, htrim⟩
    obtain ⟨ht, before, after, hbefore, hafter, he⟩ := trim_eq_iff.mp htrim
    exact ⟨hne, ht, raw, before, after, hraw, hbefore, hafter, he⟩
  · rintro ⟨hne, ht, raw, before, after, hraw, hbefore, hafter, he⟩
    exact ⟨hne, raw, hraw, trim_eq_iff.mpr ⟨ht, before, after, hbefore, hafter, he⟩⟩

/-- A column says something exactly if anything but blanks stands in it. -/
theorem isSome_value? (row : Row) (column : String) :
    (row.value? column).isSome = row.isFilled column := by
  unfold value? isFilled
  cases row[column]? with
  | none => rfl
  | some raw =>
    have hblank : String.ofList (trim raw.toList) = "" ↔ Blanks raw.toList := by
      rw [← String.toList_inj, String.toList_ofList, String.toList_empty, trim_eq_nil_iff]
    have hfilled : (raw.toList.any fun c => !isBlank c) = true ↔ ¬Blanks raw.toList := by
      simp [Blanks]
    rw [Option.map_some, Option.any_some, Bool.eq_iff_iff, hfilled, ← hblank]
    by_cases h : String.ofList (trim raw.toList) = "" <;> simp [h]

theorem value?_eq_none_iff : row.value? column = none ↔ row.isFilled column = false := by
  rw [← isSome_value?, Option.isSome_eq_false_iff, Option.isNone_iff_eq_none]

theorem trimmed_value? (row : Row) (column : String) :
    Trimmed ((row.value? column).getD "").toList := by
  cases h : row.value? column with
  | none => exact trimmed_trim []
  | some text => exact (value?_eq_some_iff.mp h).trimmed

/-- A column that holds a text reads as what trimming leaves of it. -/
theorem getD_value?_eq {raw : String} (h : row[column]? = some raw) :
    (row.value? column).getD "" = String.ofList (trim raw.toList) := by
  rw [value?, h, Option.map_some]
  by_cases hempty : String.ofList (trim raw.toList) = ""
  · rw [hempty]
    rfl
  · rw [Option.filter_some, if_pos (by simpa using hempty), Option.getD_some]

theorem getD_value? {v : String} (h : row[column]? = some v) (hv : Trimmed v.toList) :
    (row.value? column).getD "" = v := by
  rw [getD_value?_eq h, hv.trim_eq, String.ofList_toList]

/-! ## Members -/

/-- The port column says the numeral of a port. -/
def NamesPort (row : Row) (port : UInt16) : Prop :=
  ∃ text, row.Says "port" text ∧ NatNumeral text.toList port.toNat

/-- What a column says, or nothing if it is blank or missing. -/
def SaysAtMost (row : Row) (column text : String) : Prop :=
  row.Says column text ∨ row.isFilled column = false ∧ text = ""

/-- Whether a row has an address of either family. -/
def hasAddress (row : Row) : Bool := row.isFilled "host" || row.isFilled "public_ip"

/-- A member has what its row says, and nothing else. -/
structure Describes (row : Row) (m : Member) : Prop where
  host : ∀ text, m.host = some text ↔ row.Says "host" text
  publicIp : ∀ text, m.publicIp = some text ↔ row.Says "public_ip" text
  port : ∀ p, m.port = some p ↔ row.NamesPort p
  cloud : row.SaysAtMost "cloud" m.placement.cloud
  region : row.SaysAtMost "region" m.placement.region
  zone : row.SaysAtMost "zone" m.placement.zone

theorem saysAtMost_getD (row : Row) (column : String) :
    row.SaysAtMost column ((row.value? column).getD "") := by
  cases h : row.value? column with
  | none => exact .inr ⟨value?_eq_none_iff.mp h, rfl⟩
  | some text => exact .inl (value?_eq_some_iff.mp h)

theorem describes_ofRow (row : Row) : row.Describes (Member.ofRow row) where
  host _ := value?_eq_some_iff
  publicIp _ := value?_eq_some_iff
  port p := by
    simp only [Member.ofRow, Option.bind_eq_some_iff, value?_eq_some_iff, readPort?_eq_some_iff,
      NamesPort]
  cloud := row.saysAtMost_getD "cloud"
  region := row.saysAtMost_getD "region"
  zone := row.saysAtMost_getD "zone"

end Row

namespace Member

theorem hasAddress_ofRow (row : Row) : (ofRow row).hasAddress = row.hasAddress := by
  simp only [hasAddress, ofRow, Row.isSome_value?, Row.hasAddress]

/-- The rows of an answer, as members. -/
def ofRows (rows : List Row) : List Member := (rows.filter Row.hasAddress).map ofRow

theorem ofAnswer_ok (rows : List Row) : ofAnswer (.ok rows) = .ok (ofRows rows) := by
  rw [ofAnswer, ofRows, List.filter_map]
  congr 3
  funext row
  exact hasAddress_ofRow row

/-- **The members of an answer are those of its rows with an address, in order.** -/
theorem describes_ofRows (rows : List Row) :
    List.Forall₂ Row.Describes (rows.filter Row.hasAddress) (ofRows rows) := by
  rw [ofRows, List.forall₂_map_right_iff, List.forall₂_same]
  exact fun row _ => row.describes_ofRow

/-- **Every failure counts as a failure of the query**, told in the same words. -/
theorem ofAnswer_error (e : RoutingError) : ∃ fault,
    ofAnswer (.error e) = .error (.topologyQuery fault) ∧
      (e = .topologyQuery fault ∨ fault = .other e.message) := by
  cases e with
  | topologyQuery fault => exact ⟨fault, rfl, .inl rfl⟩
  | configuration | nodeUnreachable | clusterUnavailable | io => exact ⟨_, rfl, .inr rfl⟩

/-- An answer that is read is one with rows. -/
theorem rows_of_ofAnswer {answer : Except RoutingError (List Row)} {members : List Member}
    (h : ofAnswer answer = .ok members) : ∃ rows, answer = .ok rows ∧ members = ofRows rows := by
  cases answer with
  | ok rows =>
    rw [ofAnswer_ok] at h
    exact ⟨rows, rfl, (Except.ok.inj h).symm⟩
  | error e =>
    obtain ⟨fault, he, -⟩ := ofAnswer_error e
    rw [he] at h
    cases h

end Member

end ConnectionRouter
