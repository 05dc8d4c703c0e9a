/-!
# Whole numbers in double precision

A gauge holds a count as a binary floating-point number with a significand of 53 bits, and shows
the fewest decimal digits that read back as that number, filled up with zeros. Small counts are
shown as they are; a count beyond 2^53 may change.

* `Double.ofNat`: the nearest double of a natural number, ties to the even significand.
* `Double.shortest`: the number with the fewest significant digits that rounds to a double, and
  of those the nearest.
-/

namespace ConnectionRouter

/-- The number `significand * 2 ^ exponent`, with a significand below 2^53. -/
structure Double where
  significand : Nat
  exponent : Nat
  deriving DecidableEq

namespace Double

/-- The bits of a significand. -/
def precision : Nat := 53

/-- The nearest double, ties to the even significand. -/
def ofNat (n : Nat) : Double :=
  let e := (if n = 0 then 0 else n.log2 + 1) - precision
  let q := n >>> e
  let r := n % (1 <<< e)
  let up := 1 <<< e < 2 * r ∨ (1 <<< e = 2 * r ∧ q % 2 = 1)
  let m := if up then q + 1 else q
  if m = 1 <<< precision then ⟨1 <<< (precision - 1), e + 1⟩ else ⟨m, e⟩

def value (d : Double) : Nat := d.significand <<< d.exponent

/-- Four times the distance to the middle between the double and its lower neighbour; the
neighbours below a power of two are twice as dense. -/
def roomBelow (d : Double) : Nat :=
  if d.significand = 1 <<< (precision - 1) ∧ 0 < d.exponent then 1 <<< d.exponent
  else 2 <<< d.exponent

/-- Four times the distance to the middle between the double and its upper neighbour. -/
def roomAbove (d : Double) : Nat := 2 <<< d.exponent

/-- Whether a number rounds to the double; the middle itself goes to the even significand. -/
def accepts (d : Double) (x : Nat) : Bool :=
  let (distance, room) :=
    if x ≤ d.value then (4 * (d.value - x), d.roomBelow) else (4 * (x - d.value), d.roomAbove)
  distance < room || (distance == room && d.significand % 2 == 0)

/-- The multiple of `unit` next to the double that rounds to it, the nearer one of two. -/
def onGrid? (d : Double) (unit : Nat) : Option Nat :=
  let low := d.value / unit * unit
  let high := low + unit
  match d.accepts low, d.accepts high with
  | true, true => some (if d.value - low ≤ high - d.value then low else high)
  | true, false => some low
  | false, true => some high
  | false, false => none

/-- The number with the fewest significant digits that rounds to the double. -/
def shortest (d : Double) : Nat :=
  ((List.range (d.value.log2 + 1)).reverse.findSome? fun k => d.onGrid? (Nat.pow 10 k)).getD d.value

end Double

end ConnectionRouter
