import ConnectionRouter.Error
import ConnectionRouter.Text.Blank
import ConnectionRouter.Text.Numeral
import ConnectionRouter.Text.Pieces

/-!
# Host addresses

The network endpoint of a cluster member: a host text and a port.

* `HostAddr.parse`: reads `host`, `host:port`, `[host]` and `[host]:port`.
* `HostAddr.text`: the full written form; a host with a colon stands in brackets.
* `HostAddr.key`: the name under which a member is kept, the bare host on the default port.
-/

namespace ConnectionRouter

open Text

/-- The network endpoint of a cluster member. -/
structure HostAddr where
  host : String
  port : UInt16
  deriving DecidableEq

/-- The name under which a host is kept: `HostAddr.key` of its address. -/
abbrev HostKey : Type := String

/-- The port of a member that names none. -/
def standardPort : UInt16 := 5433

namespace HostAddr

/-- Addresses are ordered by host, then by port. -/
instance : Ord HostAddr := ⟨compareLex (compareOn (·.host)) (compareOn (·.port))⟩

/-- The full written form; a host with a colon stands in brackets. -/
def text (a : HostAddr) : String :=
  (if ':' ∈ a.host.toList then "[" ++ a.host ++ "]" else a.host) ++ ":" ++ toString a.port.toNat

/-- The name under which a member is kept: the bare host on the default port, else the full
form, so that members of one host on different ports stay apart. -/
def key (a : HostAddr) (defaultPort : UInt16) : HostKey :=
  if a.port = defaultPort then a.host else a.text

/-- Reads what follows the opening bracket of a bracketed address. -/
def readBracketed? (defaultPort : UInt16) (s : List Char) : Option (List Char × UInt16) :=
  match cutFirst ']' s with
  | none => none
  | some ([], _) => none
  | some (host, []) => some (host, defaultPort)
  | some (host, ':' :: port) => (readPort? port).map fun p => (host, p)
  | some (_, _ :: _) => none

/-- Reads an address without brackets: at most one colon, and a host before it. -/
def readPlain? (defaultPort : UInt16) (s : List Char) : Option (List Char × UInt16) :=
  match cutFirst ':' s with
  | none => if s = [] then none else some (s, defaultPort)
  | some ([], _) => none
  | some (host, port) => (readPort? port).map fun p => (host, p)

/-- Reads a trimmed address. -/
def read? (defaultPort : UInt16) : List Char → Option (List Char × UInt16)
  | '[' :: s => readBracketed? defaultPort s
  | s => readPlain? defaultPort s

/-- The address that a text names, blanks around it ignored. -/
def parse (s : String) (defaultPort : UInt16) : Except RoutingError HostAddr :=
  match read? defaultPort (trim s.toList) with
  | some (host, port) => .ok ⟨String.ofList host, port⟩
  | none => .error (.configuration (.hostAddress (String.ofList (trim s.toList))))

end HostAddr

end ConnectionRouter
