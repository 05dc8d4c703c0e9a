import ConnectionRouter.Decimal.Shortest
import ConnectionRouter.Metrics.Ledger

/-!
# Metrics in text

The ledger as named series with their values, and as lines of text for a collector. A series
that was never touched does not appear.

* `Ledger.families`: the samples of a ledger by metric.
* `Ledger.render`: the whole text.
-/

namespace ConnectionRouter

/-- What a metric is. -/
inductive MetricKind
  | counter
  | gauge
  deriving DecidableEq

/-- A value of a series: the name of its metric, its label and the value in decimal. -/
structure Sample where
  label : Option (String × String)
  value : String
  deriving DecidableEq

/-- The samples of one metric. -/
structure MetricFamily where
  name : String
  kind : MetricKind
  samples : List Sample
  deriving DecidableEq

/-- A label value with its escapes. Quotes and line ends are escaped. A backslash is doubled,
unless it is itself the escape of a backslash or a quote that follows. `held` tells of a backslash
before the text that is not written yet; line ends do not settle what becomes of it. -/
def escapeLabel (held : Bool) : List Char → List Char
  | [] => if held then ['\\', '\\'] else []
  | c :: s =>
    if c = '\n' then '\\' :: 'n' :: escapeLabel held s
    else if c = '"' then '\\' :: '"' :: escapeLabel false s
    else if c = '\\' then
      if held then '\\' :: '\\' :: escapeLabel false s else escapeLabel true s
    else (if held then ['\\', '\\', c] else [c]) ++ escapeLabel false s

/-- A label value between quotes. -/
def quoteLabel (s : String) : String := "\"" ++ String.ofList (escapeLabel false s.toList) ++ "\""

/-- The name of a series in text. -/
def Sample.series (name : String) (s : Sample) : String :=
  match s.label with
  | none => name
  | some (key, value) => name ++ "\x7b" ++ key ++ "=" ++ quoteLabel value ++ "\x7d"

namespace Ledger

/-- The value of a gauge in text. -/
def gaugeText (n : Nat) : String := toString (Double.ofNat n).shortest

private def byHost (t : Table Nat) (f : Nat → String) : List Sample :=
  t.toList.map fun (host, n) => ⟨some ("host", host), f n⟩

private def byOutcome (counts : List (String × Nat)) : List Sample :=
  (counts.filter (·.2 ≠ 0)).map fun (outcome, n) => ⟨some ("outcome", outcome), toString n⟩

private def plain (n : Nat) : List Sample := if n = 0 then [] else [⟨none, toString n⟩]

/-- The samples of a ledger by metric; metrics without samples are left out. -/
def families (l : Ledger) : List MetricFamily :=
  [ ⟨"cluster_balancer_connect_attempts_total", .counter, byOutcome
      [("failed", l.attempts.failed), ("ok", l.attempts.ok), ("rejected", l.attempts.rejected)]⟩,
    ⟨"cluster_balancer_host_connections", .gauge, byHost l.hostConnections gaugeText⟩,
    ⟨"cluster_balancer_preemptions_total", .counter, plain l.preemptions⟩,
    ⟨"cluster_balancer_quarantined_total", .counter, byHost l.quarantined toString⟩,
    ⟨"cluster_balancer_refresh_total", .counter, byOutcome
      [("failed", l.refreshes.failed), ("ok", l.refreshes.ok), ("skipped", l.refreshes.skipped)]⟩,
    ⟨"cluster_balancer_single_host_fallbacks_total", .counter, plain l.singleHostFallbacks⟩
  ].filter (·.samples ≠ [])

/-- Every series with its value. -/
def series (l : Ledger) : List (String × String) :=
  l.families.flatMap fun f => f.samples.map fun s => (s.series f.name, s.value)

/-- The lines of one metric: its kind, its samples, and an empty line. -/
def renderFamily (f : MetricFamily) : String :=
  let kind := match f.kind with
    | .counter => "counter"
    | .gauge => "gauge"
  "# TYPE " ++ f.name ++ " " ++ kind ++ "\n" ++
    String.join (f.samples.map fun s => s.series f.name ++ " " ++ s.value ++ "\n") ++ "\n"

/-- The ledger as text for a collector. -/
def render (l : Ledger) : String := String.join (l.families.map renderFamily)

end Ledger

end ConnectionRouter
