import ConnectionRouter.Text.Numeral
import ConnectionRouter.Text.Pieces
import ConnectionRouter.Toml.Value

/-!
# TOML numbers and dates

The words of a TOML document that are neither keys nor strings: booleans, integers in four
bases, fractional numbers, dates and times. Underscores may stand between two digits.

* `Toml.readInteger?`: integers of 64 bits.
* `Toml.isFloat`: fractional numbers, unless they are too large to be finite.
* `Toml.isDate`, `Toml.isTime`, `Toml.isDateTime`: dates and times that exist.
* `Toml.readWord?`: the value of a word.
-/

namespace ConnectionRouter.Toml

open Text

/-- The digits of a numeral without the underscores between them. -/
def digits? (isDigit : Char → Bool) (s : List Char) : Option (List Char) :=
  let groups := s.splitOn '_'
  if groups.all fun g => g ≠ [] && g.all isDigit then some groups.flatten else none

/-- The number whose digits in a base follow those of `acc`. -/
def readBase? (base : Nat) (acc : Nat) : List Char → Option Nat
  | [] => some acc
  | c :: s => do
    let d ←
      if '0' ≤ c ∧ c ≤ '9' then some (c.toNat - '0'.toNat)
      else if 'a' ≤ c ∧ c ≤ 'f' then some (c.toNat - 'a'.toNat + 10)
      else if 'A' ≤ c ∧ c ≤ 'F' then some (c.toNat - 'A'.toNat + 10)
      else none
    guard (d < base)
    readBase? base (base * acc + d) s

/-- Whether a character is a digit of a base up to 16. -/
def isDigitOf (base : Nat) (c : Char) : Bool := (readBase? base 0 [c]).isSome

/-- The digits of a decimal whole number: no zero in front of others. -/
def decimalDigits? (s : List Char) : Option (List Char) :=
  if s.length ≠ 1 ∧ s.head? = some '0' then none else digits? (isDigitOf 10) s

/-- A sign and what follows it. -/
def splitSign : List Char → Bool × List Char
  | '-' :: s => (true, s)
  | '+' :: s => (false, s)
  | s => (false, s)

/-- The natural number of digits in a base. -/
def readDigitsOf? (base : Nat) (s : List Char) : Option Int := do
  let ds ← digits? (isDigitOf base) s
  return Int.ofNat (← readBase? base 0 ds)

/-- The integer that a word denotes, of any size. -/
def readAnyInteger? : List Char → Option Int
  | '0' :: 'x' :: s => readDigitsOf? 16 s
  | '0' :: 'o' :: s => readDigitsOf? 8 s
  | '0' :: 'b' :: s => readDigitsOf? 2 s
  | s => do
    let (negative, s) := splitSign s
    let ds ← decimalDigits? s
    let n ← readBase? 10 0 ds
    return if negative then -(n : Int) else n

/-- The integer of 64 bits that a word denotes. -/
def readInteger? (s : List Char) : Option Int := (readAnyInteger? s).bind Text.signed64?

/-- The least number that rounds to infinity in double precision. -/
def leastInfinite : Nat := (1 <<< 1024) - (1 <<< 970)

/-- Whether `digits * 10 ^ exponent` rounds to a finite number in double precision. -/
def isFinite (digits : List Char) (exponent : Int) : Bool :=
  let m := (readBase? 10 0 digits).getD 0
  let magnitude := (Nat.toDigits 10 m).length + exponent
  if m = 0 ∨ magnitude < 300 then true
  else if 320 < magnitude then false
  else if 0 ≤ exponent then m * Nat.pow 10 exponent.toNat < leastInfinite
  else m < leastInfinite * Nat.pow 10 exponent.natAbs

/-- The exponent of a fractional number, or zero if there is none. -/
def readExponent? (s : List Char) : Option Int := do
  let (negative, s) := splitSign s
  let n ← readBase? 10 0 (← digits? (isDigitOf 10) s)
  return if negative then -(n : Int) else n

/-- The digits of the parts of a fractional number before its exponent. -/
def mantissa? (s : List Char) : Option (List Char × List Char) :=
  match cutFirst '.' s with
  | none => (decimalDigits? s).map fun ds => (ds, [])
  | some (whole, fraction) => do
    return (← decimalDigits? whole, ← digits? (isDigitOf 10) fraction)

/-- Whether a word is a fractional number: with a fraction, with an exponent, or with both. A
number too large to be finite is none, unless it is negative. -/
def isFloat (s : List Char) : Bool :=
  let (negative, s) := splitSign s
  if s = "inf".toList ∨ s = "nan".toList then true
  else
    let s := s.map fun c => if c = 'E' then 'e' else c
    let (body, exponent) := match cutFirst 'e' s with
      | none => (s, if '.' ∈ s then some 0 else none)
      | some (body, e) => (body, readExponent? e)
    match mantissa? body, exponent with
    | some (whole, fraction), some e =>
      negative || isFinite (whole ++ fraction) (e - fraction.length)
    | _, _ => false

/-- The number of exactly `width` decimal digits. -/
def fixed? (width : Nat) (s : List Char) : Option Nat :=
  if s.length = width then readUnsigned? s else none

/-- The days of a month. -/
def daysIn (year month : Nat) : Nat :=
  if month = 2 then
    if year % 4 = 0 ∧ (year % 100 ≠ 0 ∨ year % 400 = 0) then 29 else 28
  else if month = 4 ∨ month = 6 ∨ month = 9 ∨ month = 11 then 30
  else 31

/-- Whether a word is a day of the calendar. -/
def isDate (s : List Char) : Bool :=
  match s.splitOn '-' with
  | [y, m, d] =>
    match fixed? 4 y, fixed? 2 m, fixed? 2 d with
    | some y, some m, some d => 1 ≤ m && m ≤ 12 && 1 ≤ d && d ≤ daysIn y m
    | _, _, _ => false
  | _ => false

/-- Whether two words are an hour and a minute. -/
def isHourMinute (h m : List Char) : Bool :=
  match fixed? 2 h, fixed? 2 m with
  | some h, some m => h ≤ 23 && m ≤ 59
  | _, _ => false

/-- Whether a word is a second, which may have a fraction. -/
def isSecond (s : List Char) : Bool :=
  match s.splitOn '.' with
  | [s] => (fixed? 2 s).any (· ≤ 60)
  | [s, fraction] => (fixed? 2 s).any (· ≤ 60) && (readUnsigned? fraction).isSome
  | _ => false

/-- Whether a word is a time of the day. -/
def isTime (s : List Char) : Bool :=
  match s.splitOn ':' with
  | [h, m, s] => isHourMinute h m && isSecond s
  | _ => false

/-- Whether a word is a distance to universal time. -/
def isOffset (s : List Char) : Bool :=
  match s.splitOn ':' with
  | [h, m] => isHourMinute h m
  | _ => false

/-- Whether a word is a time, which may have an offset. -/
def isTimeWithOffset (s : List Char) : Bool :=
  if s.getLast? = some 'Z' ∨ s.getLast? = some 'z' then isTime s.dropLast
  else
    match cutFirst '+' s, cutFirst '-' s with
    | some (t, o), none | none, some (t, o) => isTime t && isOffset o
    | none, none => isTime s
    | some _, some _ => false

/-- Whether a word is a date with a time. -/
def isDateTime (s : List Char) : Bool :=
  isDate (s.take 10) &&
    match s.drop 10 with
    | c :: t => (c = 'T' || c = 't') && isTimeWithOffset t
    | [] => false

/-- The value of a word that is neither a key nor a string. -/
def readWord? (s : List Char) : Option Value :=
  if s = "true".toList then some (.boolean true)
  else if s = "false".toList then some (.boolean false)
  else if isDate s || isTime s || isDateTime s then some (.date (String.ofList s))
  else
    match readInteger? s with
    | some i => some (.integer i)
    | none => if isFloat s then some (.float (String.ofList s)) else none

end ConnectionRouter.Toml
