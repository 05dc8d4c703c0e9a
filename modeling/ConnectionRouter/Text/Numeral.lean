/-!
# Numerals

Decimal numerals as people type them into an address, an option or a rank: ASCII digits, at
least one, leading zeros allowed, after an optional sign. A natural number may carry `+` only;
an integer may carry either sign. No blanks, no grouping.

* `readNat?`, `readInt?`: the number that a numeral denotes.
* `readPort?`: a numeral that denotes a port.
-/

namespace ConnectionRouter.Text

/-- The value of an ASCII digit. -/
def digit? (c : Char) : Option Nat :=
  if '0' ≤ c ∧ c ≤ '9' then some (c.toNat - '0'.toNat) else none

/-- The number whose digits follow those of `acc`. -/
def readDigits? (acc : Nat) : List Char → Option Nat
  | [] => some acc
  | c :: s => (digit? c).bind fun d => readDigits? (10 * acc + d) s

/-- The number written by one or more digits. -/
def readUnsigned? (s : List Char) : Option Nat :=
  if s = [] then none else readDigits? 0 s

/-- The natural number written by a numeral with an optional `+`. -/
def readNat? : List Char → Option Nat
  | '+' :: s => readUnsigned? s
  | s => readUnsigned? s

/-- The integer written by a numeral with an optional sign. -/
def readInt? : List Char → Option Int
  | '-' :: s => (readUnsigned? s).map fun n => -(n : Int)
  | s => (readNat? s).map Int.ofNat

/-- The natural number of a numeral, if it is at most `max`. -/
def readNatUpTo? (max : Nat) (s : List Char) : Option Nat :=
  (readNat? s).filter (· ≤ max)

/-- The port of a numeral that denotes one. -/
def readPort? (s : List Char) : Option UInt16 :=
  (readNatUpTo? 65535 s).map UInt16.ofNat

/-- The largest unsigned number of 64 bits. -/
def maxUnsigned : Nat := 0xFFFFFFFFFFFFFFFF

/-- The largest signed number of 64 bits. -/
def maxSigned : Nat := 0x7FFFFFFFFFFFFFFF

/-- A number as one of 64 bits with a sign, if it is one. -/
def signed64? (i : Int) : Option Int :=
  if -(maxSigned : Int) - 1 ≤ i ∧ i ≤ maxSigned then some i else none

/-- The unsigned number of 64 bits that a numeral denotes. -/
def readUnsigned64? (s : List Char) : Option Nat := readNatUpTo? maxUnsigned s

/-- The signed number of 64 bits that a numeral denotes. -/
def readSigned64? (s : List Char) : Option Int := (readInt? s).bind signed64?

end ConnectionRouter.Text
