import ConnectionRouter.Placement.Basic
import ConnectionRouter.Text.Numeral
import Std.Data.ExtTreeMap

/-!
# Placement preferences

A preference ranks places. It is written as a list of entries between commas, each a pattern
and, after a colon, its rank from 1 to 10; an entry without a rank has rank 1.

* `Priority`: the rank of a place, or the rest of the cluster behind every rank.
* `Preference.Entry.parse`, `Preference.parse`: the reading of an entry and of a whole text.
* `Preference.ofEntries`: the tiers that entries declare, each pattern once.
* `Preference.priorityOf`: the best tier that a place falls under.
-/

namespace ConnectionRouter

open Text

/-- How much a place is preferred. -/
inductive Priority
  /-- Under a pattern of the given rank; smaller ranks come first. -/
  | tier (rank : Nat)
  /-- Under no pattern; behind every tier. -/
  | restOfCluster
  deriving DecidableEq

namespace Priority

/-- Whether the first priority comes strictly before the second. -/
def isBefore : Priority → Priority → Bool
  | tier a, tier b => a < b
  | tier _, restOfCluster => true
  | restOfCluster, _ => false

instance : LT Priority := ⟨fun a b => a.isBefore b = true⟩

instance (a b : Priority) : Decidable (a < b) := inferInstanceAs (Decidable (_ = true))

instance : LE Priority := ⟨fun a b => ¬ b < a⟩

instance (a b : Priority) : Decidable (a ≤ b) := inferInstanceAs (Decidable (¬ _))

instance : Min Priority := ⟨fun a b => if b < a then b else a⟩

/-- The number that stands for a priority in reports: the rank, or -1 for the rest. -/
def number : Priority → Int
  | tier rank => rank
  | restOfCluster => -1

def text : Priority → String
  | tier rank => "tier-" ++ toString rank
  | restOfCluster => "rest-of-cluster"

end Priority

/-- The greatest rank that an entry may declare. -/
def maxRank : Nat := 10

/-- The patterns of each declared rank, and the text that declared them. -/
structure Preference where
  source : String
  tiers : Std.ExtTreeMap Nat (List Placement)
  deriving DecidableEq

namespace Preference

/-- A pattern with its rank. -/
structure Entry where
  pattern : Placement
  rank : Nat
  deriving DecidableEq

/-- The rank that a numeral denotes. The whole preference text goes into the error. -/
def readRank (source : String) (raw : List Char) : Except RoutingError Nat :=
  match readSigned64? raw with
  | none => .error (.configuration (.topologyKeys source))
  | some i =>
    if 1 ≤ i ∧ i ≤ maxRank then .ok i.toNat
    else .error (.configuration (.rank (String.ofList raw) source))

/-- Reads one entry. A bad rank is reported before a bad pattern. -/
def Entry.parse (source : String) (s : List Char) : Except RoutingError Entry :=
  if trim s = [] then .error (.configuration (.topologyKeys source))
  else
    match (trim s).splitOn ':' with
    | [pattern] => do
      let pattern ← Placement.parse (String.ofList pattern)
      return ⟨pattern, 1⟩
    | [pattern, rank] => do
      let rank ← readRank source (trim rank)
      let pattern ← Placement.parse (String.ofList pattern)
      return ⟨pattern, rank⟩
    | _ => .error (.configuration (.topologyKeys source))

/-- The tiers with one more entry; a pattern that its tier has already is not repeated. -/
def declare (tiers : Std.ExtTreeMap Nat (List Placement)) (e : Entry) :
    Std.ExtTreeMap Nat (List Placement) :=
  let patterns := tiers[e.rank]?.getD []
  tiers.insert e.rank (if e.pattern ∈ patterns then patterns else patterns ++ [e.pattern])

/-- The preference that a list of entries declares. -/
def ofEntries (source : String) (entries : List Entry) : Preference :=
  ⟨source, entries.foldl declare ∅⟩

/-- The entries of a text, in order; the first bad entry decides the error. -/
def entries (source : String) : Except RoutingError (List Entry) :=
  (source.toList.splitOn ',').mapM (Entry.parse source)

/-- The preference that a text declares. -/
def parse (source : String) : Except RoutingError Preference :=
  (entries source).map (ofEntries source)

/-- The patterns declared at a rank. -/
def tier (p : Preference) (rank : Nat) : List Placement := p.tiers[rank]?.getD []

/-- The number of ranks with a pattern. -/
def tierCount (p : Preference) : Nat := p.tiers.size

/-- The best tier that a place falls under. -/
def priorityOf (p : Preference) (place : Placement) : Priority :=
  match p.tiers.toList.find? fun (_, patterns) => place.fallsUnderAny patterns with
  | some (rank, _) => .tier rank
  | none => .restOfCluster

end Preference

end ConnectionRouter
