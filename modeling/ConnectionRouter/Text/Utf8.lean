/-!
# Reading UTF-8 with replacement

Bytes that should be UTF-8 but may be anything: every longest run of bytes that starts a
character but does not finish it, and every byte that starts none, reads as U+FFFD.

* `Utf8.decode`: the characters of a list of bytes.
* `Utf8.encode`: the bytes of a list of characters.
-/

namespace ConnectionRouter.Text.Utf8

/-- The character that stands for bytes that encode none. -/
def replacement : Char := '\uFFFD'

/-- A character that is read in part: the bits so far, how many bytes are missing, and the range
in which the next one must lie. -/
structure Partial where
  bits : Nat
  missing : Nat
  low : UInt8
  high : UInt8
  deriving DecidableEq

/-- What a byte means at the start of a character: the character, a part of one, or nothing. The
ranges of the second byte leave out overlong forms, surrogates and numbers beyond U+10FFFF. -/
def start (b : UInt8) : Char ⊕ Option Partial :=
  let n := b.toNat
  if n < 0x80 then .inl (Char.ofNat n)
  else if n < 0xC2 then .inr none
  else if n < 0xE0 then .inr (some ⟨n - 0xC0, 1, 0x80, 0xBF⟩)
  else if n < 0xF0 then
    .inr (some ⟨n - 0xE0, 2, if b = 0xE0 then 0xA0 else 0x80, if b = 0xED then 0x9F else 0xBF⟩)
  else if n < 0xF5 then
    .inr (some ⟨n - 0xF0, 3, if b = 0xF0 then 0x90 else 0x80, if b = 0xF4 then 0x8F else 0xBF⟩)
  else .inr none

/-- Reads bytes while a character may be read in part. -/
def decodeFrom : Option Partial → List UInt8 → List Char
  | none, [] => []
  | some _, [] => [replacement]
  | part, b :: rest =>
    let fresh := fun (before : List Char) =>
      match start b with
      | .inl c => before ++ c :: decodeFrom none rest
      | .inr none => before ++ replacement :: decodeFrom none rest
      | .inr (some part) => before ++ decodeFrom (some part) rest
    match part with
    | none => fresh []
    | some p =>
      if p.low ≤ b ∧ b ≤ p.high then
        let bits := p.bits * 64 + (b.toNat - 0x80)
        if p.missing = 1 then Char.ofNat bits :: decodeFrom none rest
        else decodeFrom (some ⟨bits, p.missing - 1, 0x80, 0xBF⟩) rest
      else fresh [replacement]

/-- The characters of a list of bytes. -/
def decode (bytes : List UInt8) : List Char := decodeFrom none bytes

/-- The bytes of a list of characters. -/
def encode (s : List Char) : List UInt8 := s.flatMap String.utf8EncodeChar

end ConnectionRouter.Text.Utf8
