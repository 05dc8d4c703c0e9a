import ConnectionRouter.Text.Alphanumeric

/-!
# Well-formed regular expressions

Whether a text is a regular expression. The dialect has groups, alternatives, repetitions with
`*`, `+` and `?`, and bracketed classes with ranges, nested classes and set operations. It has no
tables of Unicode properties, so classes such as `\d` and the folding of case are refused, and no
word boundaries, references to groups, assertions about the surroundings or counted repetitions.

* `Regex.isWellFormed`: the check.
* `Regex.escape?`, `Regex.classRest?`, `Regex.groupHead?`: what follows a backslash, an opening
  bracket, an opening parenthesis.

The functions that walk through a whole text are bounded by its length.
-/

namespace ConnectionRouter.Text.Regex

/-- What an escape stands for. -/
inductive Escape
  | char (c : Char)
  /-- The start or the end of the text. -/
  | position
  deriving DecidableEq

/-- The value of a hexadecimal digit. -/
def hexValue? (c : Char) : Option Nat :=
  if '0' ≤ c ∧ c ≤ '9' then some (c.toNat - '0'.toNat)
  else if 'a' ≤ c ∧ c ≤ 'f' then some (c.toNat - 'a'.toNat + 10)
  else if 'A' ≤ c ∧ c ≤ 'F' then some (c.toNat - 'A'.toNat + 10)
  else none

/-- The character of `width` hexadecimal digits, and what follows them. -/
def hexEscape? (width : Nat) (s : List Char) : Option (Escape × List Char) := do
  let digits ← (s.take width).mapM hexValue?
  let n := digits.foldl (16 * · + ·) 0
  if digits.length = width ∧ n.isValidChar then
    return (.char (Char.ofNat n), s.drop width)
  else failure

/-- What an escape stands for, and what follows it. Any ASCII sign may be escaped. -/
def escape? : List Char → Option (Escape × List Char)
  | [] => none
  | 'A' :: s | 'z' :: s => some (.position, s)
  | 'a' :: s => some (.char '\x07', s)
  | 'f' :: s => some (.char '\x0c', s)
  | 'n' :: s => some (.char '\n', s)
  | 'r' :: s => some (.char '\r', s)
  | 't' :: s => some (.char '\t', s)
  | 'v' :: s => some (.char '\x0b', s)
  | 'x' :: s => hexEscape? 2 s
  | 'u' :: s => hexEscape? 4 s
  | 'U' :: s => hexEscape? 8 s
  | c :: s =>
    if c.toNat < 0x80 ∧ ¬ c.isAlphanum ∧ c ≠ '<' ∧ c ≠ '>' then some (.char c, s) else none

/-! ## Classes -/

/-- One item of a class: a character, maybe escaped. -/
def classItem? : List Char → Option (Char × List Char)
  | [] => none
  | '\\' :: s =>
    match escape? s with
    | some (.char c, s) => some (c, s)
    | _ => none
  | c :: s => some (c, s)

/-- The names that a class may hold between `[:` and `:]`. -/
def classNames : List String :=
  ["alnum", "alpha", "ascii", "blank", "cntrl", "digit", "graph", "lower", "print", "punct",
    "space", "upper", "word", "xdigit"]

/-- What follows a name of a class; the text is what follows `[`. -/
def namedClassRest? : List Char → Option (List Char)
  | ':' :: s =>
    let s := match s with
      | '^' :: s => s
      | s => s
    let name := s.takeWhile (· != ':')
    match s.dropWhile (· != ':') with
    | ':' :: ']' :: rest => if String.ofList name ∈ classNames then some rest else none
    | _ => none
  | _ => none

/-- The items of a class after its opening bracket. Dashes at the start stand for themselves, and
so does a closing bracket at the very start. -/
def afterOpening (s : List Char) : List Char :=
  let s := match s with
    | '^' :: s => s
    | s => s
  match s with
  | ']' :: s => s
  | s => s.dropWhile (· = '-')

/-- A character or a range, and what follows it. -/
def classRange? (s : List Char) : Option (List Char) := do
  let (first, rest) ← classItem? s
  match rest with
  | '-' :: ']' :: _ | '-' :: '-' :: _ => return rest
  | '-' :: rest =>
    let (last, rest) ← classItem? rest
    if first ≤ last then return rest else failure
  | _ => return rest

/-- What follows a class of which `depth` brackets are open. -/
def classRest? : (fuel depth : Nat) → List Char → Option (List Char)
  | 0, _, _ => none
  | _ + 1, _, [] => none
  | fuel + 1, depth, '[' :: s =>
    match namedClassRest? s with
    | some rest => classRest? fuel depth rest
    | none => classRest? fuel (depth + 1) (afterOpening s)
  | fuel + 1, depth, ']' :: s =>
    match depth with
    | 0 | 1 => some s
    | depth + 2 => classRest? fuel (depth + 1) s
  | fuel + 1, depth, '&' :: '&' :: s | fuel + 1, depth, '-' :: '-' :: s
  | fuel + 1, depth, '~' :: '~' :: s => classRest? fuel depth s
  | fuel + 1, depth, s => (classRange? s).bind (classRest? fuel depth)

/-! ## Groups -/

/-- What an opening parenthesis introduces. -/
inductive GroupHead
  | group
  | named (name : String)
  /-- Settings for what follows in the same group. -/
  | settings
  deriving DecidableEq

/-- Whether a text is a name of a group. -/
def isGroupName : List Char → Bool
  | [] => false
  | c :: s =>
    let isLetter := fun (c : Char) => c = '_' || isAlphanumeric c
    isLetter c && !c.isDigit &&
      s.all fun c => isLetter c || c = '.' || c = '[' || c = ']'

/-- Whether a text is a list of settings: each once, after at most one `-`, which something
follows. Case folding is only turned off. -/
def isSettings (s : List Char) : Bool :=
  s.all (fun c => c ∈ ['i', 'm', 's', 'U', 'u', 'R', 'x', '-']) && s.Nodup &&
    s.getLast? ≠ some '-' && 'i' ∉ s.takeWhile (· != '-')

/-- The head of a group, and what follows it. -/
def groupHead? : List Char → Option (GroupHead × List Char)
  | '?' :: s =>
    let name? := match s with
      | 'P' :: '<' :: s | '<' :: s => some s
      | _ => none
    match name? with
    | some s =>
      let name := s.takeWhile (· != '>')
      if isGroupName name ∧ '>' ∈ s then
        some (.named (String.ofList name), s.drop (name.length + 1))
      else none
    | none =>
      let settings := s.takeWhile fun c => c ≠ ':' && c ≠ ')'
      if isSettings settings then
        match s.drop settings.length with
        | ':' :: rest => some (.group, rest)
        | ')' :: rest => if settings = [] then none else some (.settings, rest)
        | _ => none
      else none
  | s => some (.group, s)

/-! ## Whole expressions -/

/-- Where the check of an expression stands. -/
structure Position where
  /-- The number of open groups. -/
  depth : Nat := 0
  /-- The names of the groups so far. -/
  names : List String := []
  /-- Whether there is something that can be repeated. -/
  repeatable : Bool := false

/-- Whether the rest of an expression is well formed. -/
def isRestWellFormed : (fuel : Nat) → Position → List Char → Bool
  | 0, _, _ => false
  | _ + 1, p, [] => p.depth = 0
  | fuel + 1, p, c :: s =>
    match c with
    | '(' =>
      match groupHead? s with
      | none => false
      | some (.settings, rest) => isRestWellFormed fuel { p with repeatable := false } rest
      | some (.group, rest) =>
        isRestWellFormed fuel { p with depth := p.depth + 1, repeatable := false } rest
      | some (.named name, rest) =>
        !p.names.contains name &&
          isRestWellFormed fuel ⟨p.depth + 1, name :: p.names, false⟩ rest
    | ')' =>
      p.depth ≠ 0 && isRestWellFormed fuel { p with depth := p.depth - 1, repeatable := true } s
    | '|' => isRestWellFormed fuel { p with repeatable := false } s
    | '*' | '+' | '?' =>
      let rest := match s with
        | '?' :: rest => rest
        | s => s
      p.repeatable && isRestWellFormed fuel p rest
    | '{' => false
    | '[' =>
      match classRest? (s.length + 1) 1 (afterOpening s) with
      | some rest => isRestWellFormed fuel { p with repeatable := true } rest
      | none => false
    | '\\' =>
      match escape? s with
      | some (_, rest) => isRestWellFormed fuel { p with repeatable := true } rest
      | none => false
    | _ => isRestWellFormed fuel { p with repeatable := true } s

/-- Whether a text is a regular expression. -/
def isWellFormed (s : List Char) : Bool := isRestWellFormed (s.length + 1) {} s

end ConnectionRouter.Text.Regex
