import ConnectionRouter.Text.Utf8

/-!
# Form encoding

The encoding `application/x-www-form-urlencoded` of name and value pairs, as it stands in the
query of a URL: pairs between `&`, name and value around the first `=`, `+` for a space, and
`%` with two hexadecimal digits for any byte.

* `FormEncoding.pairs`: the pairs of a query. Empty pieces are skipped, a piece without `=` has
  an empty value, and a `%` that is not followed by two digits stands for itself.
-/

namespace ConnectionRouter.Text.FormEncoding

/-- The value of a hexadecimal digit. -/
def hexDigit? (b : UInt8) : Option UInt8 :=
  if 0x30 ≤ b ∧ b ≤ 0x39 then some (b - 0x30)
  else if 0x41 ≤ b ∧ b ≤ 0x46 then some (b - 0x41 + 10)
  else if 0x61 ≤ b ∧ b ≤ 0x66 then some (b - 0x61 + 10)
  else none

/-- The byte that two hexadecimal digits denote. -/
def hexByte? (high low : UInt8) : Option UInt8 := do
  return (← hexDigit? high) * 16 + (← hexDigit? low)

/-- Reads the escapes of a piece. -/
def unescape : List UInt8 → List UInt8
  | [] => []
  | 0x25 :: high :: low :: rest =>
    match hexByte? high low with
    | some b => b :: unescape rest
    | none => 0x25 :: unescape (high :: low :: rest)
  | b :: rest => b :: unescape rest

/-- The text that a piece denotes. -/
def decode (piece : List UInt8) : List Char :=
  Utf8.decode (unescape (piece.map fun b => if b = 0x2B then 0x20 else b))

/-- The name and the value of a piece. -/
def pair (piece : List UInt8) : List Char × List Char :=
  (decode (piece.takeWhile (· != 0x3D)), decode ((piece.dropWhile (· != 0x3D)).drop 1))

/-- The pairs of a query, in order. -/
def pairs (query : List Char) : List (List Char × List Char) :=
  (((Utf8.encode query).splitOn 0x26).filter (· ≠ [])).map pair

end ConnectionRouter.Text.FormEncoding
