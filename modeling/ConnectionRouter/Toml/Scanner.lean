/-!
# Reading a text piece by piece

A scanner takes a value off the front of a text, or refuses the text.

* `Scanner.satisfy`, `Scanner.exactly`, `Scanner.span`: single characters and runs of them.
* `Scanner.many`: as many values as there are.
* `Scanner.run?`: the value of a whole text.
-/

namespace ConnectionRouter.Toml

/-- Takes a value off the front of a text, or refuses the text. -/
abbrev Scanner (α : Type) : Type := StateT (List Char) Option α

namespace Scanner

variable {α β : Type}

/-- The next character, if it satisfies `p`. -/
def satisfy (p : Char → Bool) : Scanner Char
  | c :: rest => if p c then some (c, rest) else none
  | [] => none

/-- The text `s` and nothing else. -/
def exactly (s : String) : Scanner Unit := fun text =>
  (s.toList.isPrefixOf? text).map ((), ·)

/-- The longest run of characters that satisfy `p`. -/
def span (p : Char → Bool) : Scanner (List Char) := fun text =>
  some (text.takeWhile p, text.dropWhile p)

/-- The longest run of characters that satisfy `p`, not empty. -/
def span1 (p : Char → Bool) : Scanner (List Char) := do
  let run ← span p
  guard (run ≠ [])
  return run

/-- A value if there is one. -/
def maybe (p : Scanner α) : Scanner (Option α) := fun text =>
  match p text with
  | some (a, rest) => some (some a, rest)
  | none => some (none, text)

/-- At most `bound` values, as many as there are. -/
def manyUpTo (p : Scanner α) : (bound : Nat) → List Char → List α × List Char
  | 0, text => ([], text)
  | bound + 1, text =>
    match p text with
    | none => ([], text)
    | some (a, rest) =>
      let (more, rest) := manyUpTo p bound rest
      (a :: more, rest)

/-- As many values as there are; each takes at least one character. -/
def many (p : Scanner α) : Scanner (List α) := fun text => some (manyUpTo p text.length text)

/-- Values between separators, at least one. -/
def separated (p : Scanner α) (separator : Scanner β) : Scanner (List α) := do
  let first ← p
  let rest ← many (do let _ ← separator; p)
  return first :: rest

/-- The end of the text. -/
def done : Scanner Unit
  | [] => some ((), [])
  | _ :: _ => none

/-- The value of a whole text. -/
def run? (p : Scanner α) (text : List Char) : Option α :=
  match p text with
  | some (a, []) => some a
  | _ => none

end Scanner

end ConnectionRouter.Toml
