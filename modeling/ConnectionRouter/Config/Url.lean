import ConnectionRouter.Config.Basic
import ConnectionRouter.Text.FormEncoding

/-!
# Connection URLs

A connection URL names the seeds and may set balancing options:
`[r2dbc:]postgresql://[user[:password]@]host[:port][,…][/database][?options]`, with `postgres`
as another spelling of the scheme. The user and the database have no influence.

* `Config.ofUrl`: the configuration that a URL describes. Balancing is off unless an option
  turns it on.
* `UrlOption.ofKey?`: the options and their spellings; any other key is ignored.
* `Config.set`: the effect of an option. Of two values for one setting the later counts, but
  both have to be of the setting's type.
-/

namespace ConnectionRouter

open Text

/-- The options of a connection URL. -/
inductive UrlOption
  | loadBalance
  | topologyKeys
  | refreshInterval
  | failedHostTtl
  | connectTimeout
  deriving DecidableEq

/-- The option that a key means. -/
def UrlOption.ofKey? (key : String) : Option UrlOption :=
  if key = "loadBalanceHosts" ∨ key = "load-balance" then some .loadBalance
  else if key = "topologyKeys" ∨ key = "topology-keys" then some .topologyKeys
  else if key = "ybServersRefreshInterval" ∨ key = "yb-servers-refresh-interval" then
    some .refreshInterval
  else if key = "failedHostReconnectDelaySecs" ∨ key = "failed-host-reconnect-delay-secs" then
    some .failedHostTtl
  else if key = "connectTimeout" then some .connectTimeout
  else none

/-- Reads `true` or `false` in any ASCII case. -/
def readBool? (s : List Char) : Option Bool :=
  let folded := s.map Char.toLower
  if folded = "true".toList then some true
  else if folded = "false".toList then some false
  else none

namespace Config

/-- The configuration with an option set to a trimmed value, if the value is of its type. -/
def set? (c : Config) (value : List Char) : UrlOption → Option Config
  | .loadBalance =>
    (readBool? value).map fun b => { c with loadBalance := { c.loadBalance with enabled := b } }
  | .topologyKeys =>
    let keys := if value = [] then none else some (String.ofList value)
    some { c with loadBalance := { c.loadBalance with topologyKeys := keys } }
  | .refreshInterval =>
    (readSigned64? value).map fun n =>
      { c with loadBalance := { c.loadBalance with refreshIntervalSecs := n } }
  | .failedHostTtl =>
    (readUnsigned64? value).map fun n =>
      { c with loadBalance := { c.loadBalance with failedHostTtlSecs := n } }
  | .connectTimeout =>
    (readUnsigned64? value).map fun n => { c with timeouts := { connectSecs := n } }

/-- The configuration after a pair of key and value. -/
def set (c : Config) (pair : List Char × List Char) : Except RoutingError Config :=
  let (key, value) := pair
  match UrlOption.ofKey? (String.ofList key) with
  | none => .ok c
  | some option =>
    match c.set? (trim value) option with
    | some c => .ok c
    | none => .error (.configuration (.urlOption (String.ofList key) (String.ofList value)))

end Config

namespace Url

/-- The text after the scheme of a trimmed URL. -/
def afterScheme? (url : List Char) : Option (List Char) :=
  let url := ("r2dbc:".toList.isPrefixOf? url).getD url
  ("postgresql://".toList.isPrefixOf? url).or ("postgres://".toList.isPrefixOf? url)

/-- Whether a character ends the authority. -/
def endsAuthority (c : Char) : Bool := c = '/' || c = '?'

/-- The hosts of what follows the scheme: what precedes the first `/` or `?`, and of that what
follows the last `@`. -/
def hosts (rest : List Char) : List (List Char) :=
  let authority := rest.takeWhile (!endsAuthority ·)
  (((cutLast '@' authority).map (·.2)).getD authority).splitOn ','

/-- The query of what follows the scheme: what comes after the first `?`. -/
def query (rest : List Char) : List Char :=
  ((cutFirst '?' (rest.dropWhile (!endsAuthority ·))).map (·.2)).getD []

end Url

/-- The configuration that a URL describes. -/
def Config.ofUrl (url : String) : Except RoutingError Config :=
  match Url.afterScheme? (trim url.toList) with
  | none => .error (.configuration (.scheme url))
  | some rest => do
    let addrs ← (Url.hosts rest).mapM fun h => HostAddr.parse (String.ofList h) standardPort
    let base : Config :=
      { cluster := { seeds := addrs.map HostAddr.text }, loadBalance := { enabled := false } }
    (FormEncoding.pairs (Url.query rest)).foldlM Config.set base

end ConnectionRouter
