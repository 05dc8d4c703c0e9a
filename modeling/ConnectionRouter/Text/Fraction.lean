import ConnectionRouter.Text.Numeral

/-!
# Numerals with a fraction

* `isFractionNumeral`: whether a text is a numeral with an optional sign, fraction and exponent,
  or the name of infinity or of the number that is none, in any ASCII case.
-/

namespace ConnectionRouter.Text

/-- Whether every character is an ASCII digit. -/
def allDigits (s : List Char) : Bool := s.all fun c => (digit? c).isSome

/-- Whether a text is an exponent without its letter. -/
def isExponent : List Char → Bool
  | '+' :: s | '-' :: s => s ≠ [] && allDigits s
  | s => s ≠ [] && allDigits s

/-- Whether a text is a numeral without a sign. -/
def isUnsignedFraction (s : List Char) : Bool :=
  let isLetter := fun (c : Char) => c = 'e' || c = 'E'
  let mantissa := s.takeWhile (!isLetter ·)
  let digits := mantissa.filter (· != '.')
  allDigits digits && digits ≠ [] && mantissa.length ≤ digits.length + 1 &&
    match s.dropWhile (!isLetter ·) with
    | [] => true
    | _ :: exponent => isExponent exponent

/-- Whether a text is a numeral with an optional sign, or a name of a value beyond numerals. -/
def isFractionNumeral (s : List Char) : Bool :=
  let s := match s with
    | '+' :: s | '-' :: s => s
    | s => s
  isUnsignedFraction s ||
    ["inf", "infinity", "nan"].any fun name => s.map Char.toLower = name.toList

end ConnectionRouter.Text
