import ConnectionRouter.HostAddr
import ConnectionRouter.Placement.Basic
import ConnectionRouter.Table

/-!
# Cluster members

The rows of the servers query and the members they describe.

* `Row.value?`: a column of a row; blank reads as absent.
* `Member.ofRow`: the member that a row describes.
* `Member.ofAnswer`: the members of a query's answer; rows without any address are left out.
-/

namespace ConnectionRouter

open Text

/-- The query that lists every member of the cluster. -/
def serversQuery : String := "select * from yb_servers()"

/-- A row of the servers query, by column. -/
abbrev Row : Type := Table String

/-- The trimmed text of a column, unless it is blank or missing. -/
def Row.value? (row : Row) (column : String) : Option String :=
  (row[column]?.map fun v => String.ofList (trim v.toList)).filter (· ≠ "")

/-- Through which column of addresses members are reached. -/
inductive AddressFamily
  | privateAddress
  | publicAddress
  deriving DecidableEq

/-- A member as one topology query reports it. -/
structure Member where
  /-- The private address. -/
  host : Option String
  publicIp : Option String
  port : Option UInt16
  placement : Placement
  deriving DecidableEq

namespace Member

/-- A port column that is no port numeral reads as absent, a missing place as empty. -/
def ofRow (row : Row) : Member where
  host := row.value? "host"
  publicIp := row.value? "public_ip"
  port := (row.value? "port").bind fun p => readPort? p.toList
  placement :=
    { cloud := (row.value? "cloud").getD ""
      region := (row.value? "region").getD ""
      zone := (row.value? "zone").getD "" }

/-- The address in the given family, if the member has one. -/
def address (m : Member) : AddressFamily → Option String
  | .privateAddress => m.host
  | .publicAddress => m.publicIp

def hasAddress (m : Member) : Bool := m.host.isSome || m.publicIp.isSome

/-- The members of a query's answer, in row order, without those that have no address. Every
failure counts as a failure of the query. -/
def ofAnswer : Except RoutingError (List Row) → Except RoutingError (List Member)
  | .ok rows => .ok ((rows.map ofRow).filter hasAddress)
  | .error (.topologyQuery fault) => .error (.topologyQuery fault)
  | .error e => .error (.topologyQuery (.other e.message))

end Member

end ConnectionRouter
