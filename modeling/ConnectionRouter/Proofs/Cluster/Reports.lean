import ConnectionRouter.Cluster.Basic
import ConnectionRouter.Proofs.Topology.Rows

/-!
# What a cluster reports of its nodes

A node is put into a row of texts, and a member is read out of the row: an absent public address is
written as an empty text and a port as a numeral, blanks are trimmed, and texts that are blank read
as absent. What comes out is the node as it was, but for the blanks (`Node.IsReportedAs`).

* `Node.isReportedAs_ofRow`: the row of a node describes the node.
* `Cluster.members_of_query`: the answer of the servers query, node by node.
-/

namespace ConnectionRouter

open Text

/-! ## Texts without the blanks around them -/

/-- A text is what stands in another between blanks, and neither starts nor ends with one. -/
structure StripsTo (raw text : String) : Prop where
  trimmed : Trimmed text.toList
  written : ∃ before after, Blanks before ∧ Blanks after ∧
    raw.toList = before ++ text.toList ++ after

/-- A field reads as the text between its blanks; if it is blank or missing it reads as absent. -/
def Reads (field value : Option String) : Prop :=
  ∀ text, value = some text ↔ text ≠ "" ∧ ∃ raw, field = some raw ∧ StripsTo raw text

theorem stripsTo_iff {raw text : String} :
    StripsTo raw text ↔ trim raw.toList = text.toList := by
  rw [trim_eq_iff]
  exact ⟨fun h => ⟨h.trimmed, h.written⟩, fun h => ⟨h.1, h.2⟩⟩

theorem StripsTo.eq {raw text other : String} (h : StripsTo raw text) (h' : StripsTo raw other) :
    text = other :=
  String.toList_inj.mp ((stripsTo_iff.mp h).symm.trans (stripsTo_iff.mp h'))

theorem Reads.eq {field value other : Option String} (h : Reads field value)
    (h' : Reads field other) : value = other :=
  Option.ext fun text => (h text).trans (h' text).symm

/-- Writing an absent field as an empty text loses nothing. -/
theorem Reads.of_getD {field value : Option String} (h : Reads (some (field.getD "")) value) :
    Reads field value := by
  cases field with
  | some raw => exact h
  | none =>
    intro text
    rw [h text]
    refine iff_of_false ?_ (by simp)
    rintro ⟨hne, raw, hraw, hstrips⟩
    cases hraw
    exact hne (String.toList_inj.mp (stripsTo_iff.mp hstrips).symm)

namespace Row

variable {row : Row} {column : String}

theorem reads_value? (row : Row) (column : String) : Reads row[column]? (row.value? column) := by
  intro text
  rw [value?_eq_some_iff]
  constructor
  · rintro ⟨hne, htrimmed, raw, before, after, hraw, hwritten⟩
    exact ⟨hne, raw, hraw, htrimmed, before, after, hwritten⟩
  · rintro ⟨hne, raw, hraw, htrimmed, before, after, hwritten⟩
    exact ⟨hne, htrimmed, raw, before, after, hraw, hwritten⟩

theorem stripsTo_value? {raw : String} (h : row[column]? = some raw) :
    StripsTo raw ((row.value? column).getD "") := by
  rw [stripsTo_iff, getD_value?_eq h, String.toList_ofList]

end Row

/-- A port that was written as a numeral is read back. -/
theorem Member.port_ofRow {row : Row} {port : Option UInt16}
    (h : row["port"]? = port.map (toString ·.toNat)) : (ofRow row).port = port := by
  cases port with
  | none =>
    have hvalue : row.value? "port" = none := by
      rw [Row.value?, h]
      rfl
    simp only [ofRow, hvalue, Option.bind_none]
  | some p =>
    have hne : toString p.toNat ≠ "" := fun he => toList_toString_ne_nil p.toNat (by rw [he]; rfl)
    have hvalue : row.value? "port" = some (toString p.toNat) :=
      Row.value?_eq_some_iff.mpr
        ⟨hne, trimmed_toString _, _, [], [], h, by simp [Blanks], by simp [Blanks], by simp⟩
    simp only [ofRow, hvalue, Option.bind_some, readPort?_toString]

/-! ## The row of a node -/

namespace Node

/-- Anything but blanks stands in either address. -/
def isAddressed (n : Node) : Bool :=
  (n.host.toList.any fun c => !isBlank c) || n.publicIp.any (·.toList.any fun c => !isBlank c)

/-- A member is the node as it is, but for the blanks around its texts. -/
structure IsReportedAs (n : Node) (m : Member) : Prop where
  host : Reads (some n.host) m.host
  publicIp : Reads n.publicIp m.publicIp
  port : m.port = n.port
  cloud : StripsTo n.cloud m.placement.cloud
  region : StripsTo n.region m.placement.region
  zone : StripsTo n.zone m.placement.zone

/-- A node that has no port has none in its row; an absent public address is there as empty text. -/
theorem getElem?_row (n : Node) (column : String) :
    n.row[column]? =
      if "port" = column then n.port.map (toString ·.toNat)
      else if "zone" = column then some n.zone
      else if "region" = column then some n.region
      else if "cloud" = column then some n.cloud
      else if "public_ip" = column then some (n.publicIp.getD "")
      else if "host" = column then some n.host else none := by
  cases hp : n.port <;>
    simp only [row, hp, Std.ExtTreeMap.ofList_cons, Std.ExtTreeMap.insertMany_cons,
      Std.ExtTreeMap.insertMany_nil, Std.ExtTreeMap.getElem?_insert, Std.compare_eq_iff_eq,
      Std.ExtTreeMap.getElem?_empty]
  case none =>
    by_cases hcolumn : "port" = column
    · subst hcolumn
      rfl
    · rw [if_neg hcolumn]
  case some p => rfl

theorem getElem?_row_host (n : Node) : n.row["host"]? = some n.host := n.getElem?_row "host"

theorem getElem?_row_publicIp (n : Node) : n.row["public_ip"]? = some (n.publicIp.getD "") :=
  n.getElem?_row "public_ip"

/-- **The row of a node describes the node.** -/
theorem isReportedAs_ofRow (n : Node) : n.IsReportedAs (Member.ofRow n.row) := by
  refine ⟨?_, Reads.of_getD ?_, Member.port_ofRow (n.getElem?_row "port"),
    Row.stripsTo_value? (n.getElem?_row "cloud"), Row.stripsTo_value? (n.getElem?_row "region"),
    Row.stripsTo_value? (n.getElem?_row "zone")⟩
  · rw [← getElem?_row_host]
    exact n.row.reads_value? "host"
  · rw [← getElem?_row_publicIp]
    exact n.row.reads_value? "public_ip"

/-- A node is reported as the member that its row describes, and as no other one. -/
theorem isReportedAs_iff {n : Node} {m : Member} :
    n.IsReportedAs m ↔ Member.ofRow n.row = m := by
  constructor
  · intro h
    have hrow := n.isReportedAs_ofRow
    obtain ⟨host, publicIp, port, cloud, region, zone⟩ := m
    simp only [Member.ofRow, Member.mk.injEq, Placement.mk.injEq]
    exact ⟨hrow.host.eq h.host, hrow.publicIp.eq h.publicIp, hrow.port.trans h.port.symm,
      hrow.cloud.eq h.cloud, hrow.region.eq h.region, hrow.zone.eq h.zone⟩
  · rintro rfl
    exact n.isReportedAs_ofRow

theorem hasAddress_row (n : Node) : n.row.hasAddress = n.isAddressed := by
  rw [Row.hasAddress, Row.isFilled, Row.isFilled, getElem?_row_host, getElem?_row_publicIp,
    isAddressed]
  cases n.publicIp <;> rfl

end Node

/-! ## The answer of a query -/

namespace Cluster

variable {c : Cluster} {conn : Connection}

/-- The listed nodes that have an address, in order. -/
def reported (c : Cluster) : List Node := c.nodes.filter fun n => n.listed && n.isAddressed

theorem query_eq_ok (hopen : conn.closed = false)
    (hup : (c.node? conn.addr).any (·.up) = true) (hanswers : c.queryFailure = false) :
    (c.query conn).2 = .ok ((c.nodes.filter (·.listed)).map Node.row) := by
  simp [query, hopen, hup, hanswers]

theorem ofRows_eq (c : Cluster) : Member.ofRows ((c.nodes.filter (·.listed)).map Node.row) =
    c.reported.map fun n => Member.ofRow n.row := by
  have haddressed : Row.hasAddress ∘ Node.row = Node.isAddressed := funext Node.hasAddress_row
  rw [Member.ofRows, List.filter_map, haddressed, List.filter_filter, List.map_map, reported]
  simp only [Bool.and_comm]
  rfl

/-- **The servers query tells the nodes as they are.** A query over an open connection to a node
that is up, unless queries fail, is answered with one member for each listed node that has an
address, in order: the member that the node is reported as. -/
theorem members_of_query (hopen : conn.closed = false)
    (hup : (c.node? conn.addr).any (·.up) = true) (hanswers : c.queryFailure = false) :
    ∃ members, Member.ofAnswer (c.query conn).2 = .ok members ∧
      ∀ others, List.Forall₂ Node.IsReportedAs c.reported others ↔ others = members := by
  refine ⟨c.reported.map fun n => Member.ofRow n.row, ?_, fun others => ?_⟩
  · rw [query_eq_ok hopen hup hanswers, Member.ofAnswer_ok, ofRows_eq]
  · have hreported : Node.IsReportedAs = fun n m => Member.ofRow n.row = m := by
      funext n m
      exact propext Node.isReportedAs_iff
    calc List.Forall₂ Node.IsReportedAs c.reported others
      _ ↔ List.Forall₂ Eq (c.reported.map fun n => Member.ofRow n.row) others := by
          rw [hreported, List.forall₂_map_left_iff]
      _ ↔ others = c.reported.map fun n => Member.ofRow n.row := by
          rw [List.forall₂_eq_eq_eq, eq_comm]

/-- Nodes with blanks around their texts: one has no address but blanks, one is not listed, and one
that is listed does not accept connections. -/
def paddedNodes : List Node :=
  [{ host := "a" }, { host := "\u3000", publicIp := some " ", port := some 1 },
    { host := "b", listed := false },
    { host := "\t", publicIp := some " 54.0.0.1\n", port := some 65535, cloud := " aws",
      region := " ", zone := "us west ", up := false }]

theorem members_of_query_paddedNodes :
    let c : Cluster := { nodes := paddedNodes }
    let conn : Connection := { addr := ⟨"a", 5433⟩ }
    let members : List Member := [⟨some "a", none, none, ⟨"", "", ""⟩⟩,
      ⟨none, some "54.0.0.1", some 65535, ⟨"aws", "", "us west"⟩⟩]
    conn.closed = false ∧ (c.node? conn.addr).any (·.up) = true ∧ c.queryFailure = false ∧
      Member.ofAnswer (c.query conn).2 = .ok members ∧
      List.Forall₂ Node.IsReportedAs c.reported members := by
  intro c conn members
  have hup : (c.node? conn.addr).any (·.up) = true := by decide
  obtain ⟨members', hmembers, hreported⟩ := members_of_query rfl hup rfl
  have hanswer : Member.ofAnswer (c.query conn).2 = .ok members := by decide +kernel
  have heq : members = members' := Except.ok.inj (hanswer.symm.trans hmembers)
  exact ⟨rfl, hup, rfl, hanswer, (hreported members).mpr heq⟩

end Cluster

end ConnectionRouter
