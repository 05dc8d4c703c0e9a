import ConnectionRouter.Error
import ConnectionRouter.Text.Blank

/-!
# Placements

Where a cluster member stands: cloud, region and zone. The same type serves as a pattern over
places, whose zone may be the wildcard `*`.

* `Placement.parse`: reads `cloud.region.zone`.
* `Placement.fallsUnder`: the match of a place against a pattern, ASCII case ignored.
-/

namespace ConnectionRouter

open Text

/-- A place, or a pattern over places. -/
structure Placement where
  cloud : String
  region : String
  zone : String
  deriving DecidableEq

/-- Equality of texts up to the case of ASCII letters. -/
def Text.eqUpToCase (a b : String) : Bool :=
  a.toList.map Char.toLower == b.toList.map Char.toLower

namespace Placement

/-- The zone that stands for every zone of its region. -/
def wildcard : String := "*"

def isWildcard (p : Placement) : Bool := p.zone == wildcard

def text (p : Placement) : String := p.cloud ++ "." ++ p.region ++ "." ++ p.zone

/-- Same cloud, same region, and the same zone unless one of the two zones is the wildcard. -/
def fallsUnder (p pattern : Placement) : Bool :=
  eqUpToCase p.cloud pattern.cloud && eqUpToCase p.region pattern.region &&
    (pattern.isWildcard || p.isWildcard || eqUpToCase p.zone pattern.zone)

/-- Whether some pattern of the list matches. -/
def fallsUnderAny (p : Placement) (patterns : List Placement) : Bool :=
  patterns.any p.fallsUnder

/-- Reads three non-empty components between dots; only the last may be the wildcard. -/
def read? (s : List Char) : Option Placement :=
  match (trim s).splitOn '.' with
  | [cloud, region, zone] =>
    if cloud = [] ∨ region = [] ∨ zone = [] ∨ cloud = ['*'] ∨ region = ['*'] then none
    else some ⟨String.ofList cloud, String.ofList region, String.ofList zone⟩
  | _ => none

/-- The pattern that a text names, blanks around it ignored. -/
def parse (s : String) : Except RoutingError Placement :=
  match read? s.toList with
  | some p => .ok p
  | none => .error (.configuration (.topologyKeys s))

end Placement

end ConnectionRouter
