/-!
# Errors

What can go wrong while connections are routed, as causes. The wording of every cause stands in
one function of its type (`ConfigurationFault.message`, …, `RoutingError.message`).

* `RoutingError`: the five kinds of error and their causes.
* `RoutingError.isRetryable`: the errors that a router absorbs by trying another way.
-/

namespace ConnectionRouter

/-- Why a setting is refused. -/
inductive ConfigurationFault
  /-- A text that is no host address. -/
  | hostAddress (text : String)
  /-- A text that is no placement preference, or no pattern of one. -/
  | topologyKeys (text : String)
  /-- A rank outside the declared range, in a preference text. -/
  | rank (raw text : String)
  /-- A connection URL of another scheme. -/
  | scheme (url : String)
  /-- An option of a connection URL whose value is not of the option's type. -/
  | urlOption (key value : String)
  /-- A configuration that names no seed. -/
  | noSeeds
  /-- Any other cause, in words. -/
  | other (text : String)
  deriving DecidableEq

/-- Why a node could not be reached. -/
inductive UnreachableReason
  /-- The node does not accept connections. -/
  | refused
  /-- No node has the address. -/
  | unknownHost
  /-- The node of an open connection is gone. -/
  | reset
  /-- No answer within the given number of seconds. -/
  | timedOut (seconds : Nat)
  /-- Any other cause, in words. -/
  | other (text : String)
  deriving DecidableEq

/-- Why no member of the cluster can serve a request. -/
inductive ClusterFault
  /-- None of so many seeds and known members accepted a control connection. -/
  | noControlHost (tried : Nat)
  /-- No candidate is left for a data connection. -/
  | noCandidate
  /-- There is no seed to fall back on. -/
  | noSeeds
  /-- So many of the connections asked for could not be opened. -/
  | connectionsFailed (failed total : Nat)
  /-- Any other cause, in words. -/
  | other (text : String)
  deriving DecidableEq

/-- Why a topology query has no answer. -/
inductive QueryFault
  /-- The connection was closed before. -/
  | closed
  /-- The server refused the query. -/
  | refused
  /-- Any other cause, in words. -/
  | other (text : String)
  deriving DecidableEq

/-- What can go wrong while connections are routed. -/
inductive RoutingError
  /-- A malformed setting; trying again does not help. -/
  | configuration (fault : ConfigurationFault)
  /-- One node refused or did not answer. -/
  | nodeUnreachable (host : String) (reason : UnreachableReason)
  /-- Seeds or candidates are exhausted. -/
  | clusterUnavailable (fault : ClusterFault)
  /-- The topology query failed. -/
  | topologyQuery (fault : QueryFault)
  /-- The transport failed. -/
  | io (text : String)
  deriving DecidableEq

def ConfigurationFault.message : ConfigurationFault → String
  | hostAddress text => "Invalid host address: '" ++ text ++ "'"
  | topologyKeys text => "Malformed topology-keys property value: " ++ text
  | rank raw text =>
    "Invalid preference value '" ++ raw ++ "' in topology-keys '" ++ text ++ "': expected 1..=10"
  | scheme url => "Unsupported connection URL: " ++ url
  | urlOption key value => "Invalid value for " ++ key ++ ": '" ++ value ++ "'"
  | noSeeds => "at least one seed host is required"
  | other text => text

/-- A limit of no seconds is written in the smallest unit of time. -/
def UnreachableReason.message : UnreachableReason → String
  | refused => "connection refused"
  | unknownHost => "unknown host"
  | reset => "connection reset"
  | timedOut 0 => "connect timed out after 0ns"
  | timedOut (s + 1) => "connect timed out after " ++ toString (s + 1) ++ "s"
  | other text => text

def ClusterFault.message : ClusterFault → String
  | noControlHost tried =>
    "could not connect to any of " ++ toString tried ++ " seed or known hosts"
  | noCandidate => "no reachable host in cluster"
  | noSeeds => "no seed hosts"
  | connectionsFailed failed total =>
    toString failed ++ " of " ++ toString total ++ " connections failed"
  | other text => text

def QueryFault.message : QueryFault → String
  | closed => "connection is closed"
  | refused => "yb_servers() failed"
  | other text => text

namespace RoutingError

def message : RoutingError → String
  | configuration fault => "Configuration error: " ++ fault.message
  | nodeUnreachable host reason => "Node unreachable: " ++ host ++ ": " ++ reason.message
  | clusterUnavailable fault => "Cluster unavailable: " ++ fault.message
  | topologyQuery fault => "Topology query failed: " ++ fault.message
  | io text => "I/O error: " ++ text

/-- The errors of one node, one query or the transport, which another attempt may avoid. -/
def isRetryable : RoutingError → Bool
  | nodeUnreachable .. | topologyQuery _ | io _ => true
  | configuration _ | clusterUnavailable _ => false

def isConfiguration : RoutingError → Bool
  | configuration _ => true
  | _ => false

end RoutingError

/-- The kinds of error, without their causes. -/
inductive ErrorKind
  | configuration
  | node
  | cluster
  | topology
  | io
  deriving DecidableEq

/-- The error of a kind that carries only words; an unreachable node goes by the name
`scripted`. -/
def ErrorKind.withText : ErrorKind → String → RoutingError
  | configuration, text => .configuration (.other text)
  | node, text => .nodeUnreachable "scripted" (.other text)
  | cluster, text => .clusterUnavailable (.other text)
  | topology, text => .topologyQuery (.other text)
  | io, text => .io text

end ConnectionRouter
