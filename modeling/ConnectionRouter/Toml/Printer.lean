/-!
# Writing TOML

Settings by section, an empty line between sections.

* `Toml.quoted`: a string in quotes, of the first kind that fits it (`Quotes.ofString`).
* `Toml.printSections`: a whole document. A list of more than one item is written one item a
  line.
-/

namespace ConnectionRouter.Toml

/-- The value of a setting. -/
inductive Setting
  | string (s : String)
  | integer (n : Int)
  | boolean (b : Bool)
  | strings (items : List String)
  deriving DecidableEq

/-- The settings of a part, in order. -/
structure Section where
  name : String
  settings : List (String × Setting)
  deriving DecidableEq

/-- An upper-case hexadecimal digit. -/
def upperHexDigit (n : Nat) : Char := if n < 10 then Char.ofNat (48 + n) else Char.ofNat (55 + n)

/-- The four kinds of quotes. Only double quotes allow escapes, only triple ones line ends. -/
inductive Quotes
  | double
  | single
  | tripleDouble
  | tripleSingle
  deriving DecidableEq

/-- Whether a character can only be written as an escape. -/
def isControl (c : Char) : Bool :=
  (c.toNat < 0x20 && c ≠ '\t' && c ≠ '\n') || c.toNat = 0x7F

/-- The length of the longest run of `c`, where `run` of them precede. -/
def longestRun (c : Char) (run : Nat) : List Char → Nat
  | [] => run
  | d :: s => if d = c then longestRun c (run + 1) s else max run (longestRun c 0 s)

/-- The quotes of a string: the first kind that needs no escapes but those of tabs, and double
quotes if every kind does. -/
def Quotes.ofString (s : List Char) : Quotes :=
  let severalLines := '\n' ∈ s
  let noControls := !s.any isControl
  let doubleFit := fun (n : Nat) => noControls ∧ '\\' ∉ s ∧ longestRun '"' 0 s ≤ n
  let singleFit := fun (n : Nat) => noControls ∧ longestRun '\'' 0 s ≤ n
  if doubleFit 0 ∧ ¬ severalLines then .double
  else if singleFit 0 ∧ ¬ severalLines then .single
  else if doubleFit 2 then .tripleDouble
  else if singleFit 2 then .tripleSingle
  else if severalLines then .tripleDouble
  else .double

/-- A character other than a quote between double quotes. -/
def escapeChar (severalLines : Bool) (c : Char) : List Char :=
  if c = '\x08' then ['\\', 'b']
  else if c = '\t' then ['\\', 't']
  else if c = '\n' then (if severalLines then ['\n'] else ['\\', 'n'])
  else if c = '\x0c' then ['\\', 'f']
  else if c = '\r' then ['\\', 'r']
  else if c = '\\' then ['\\', '\\']
  else if isControl c then
    ['\\', 'u', '0', '0', upperHexDigit (c.toNat / 16), upperHexDigit (c.toNat % 16)]
  else [c]

/-- The text between double quotes. Between triple ones up to two quotes may stand together, of
which `run` precede; any other quote is escaped. -/
def escaped (triple : Bool) (run : Nat) : List Char → List Char
  | [] => []
  | c :: s =>
    if c = '"' then
      if triple ∧ run < 2 then '"' :: escaped triple (run + 1) s
      else '\\' :: '"' :: escaped triple 0 s
    else escapeChar triple c ++ escaped triple 0 s

/-- A string in quotes. In a string of several lines a line end follows the opening quotes, which
does not count. -/
def quoted (text : String) : String :=
  let s := text.toList
  let start := if '\n' ∈ s then "\n" else ""
  match Quotes.ofString s with
  | .double => "\"" ++ String.ofList (escaped false 0 s) ++ "\""
  | .single => "'" ++ text ++ "'"
  | .tripleDouble => "\"\"\"" ++ start ++ String.ofList (escaped true 0 s) ++ "\"\"\""
  | .tripleSingle => "'''" ++ start ++ text ++ "'''"

def Setting.text : Setting → String
  | string s => quoted s
  | integer n => toString n
  | boolean true => "true"
  | boolean false => "false"
  | strings [] => "[]"
  | strings [s] => "[" ++ quoted s ++ "]"
  | strings items => "[\n" ++ String.join (items.map fun s => "    " ++ quoted s ++ ",\n") ++ "]"

def Section.text (s : Section) : String :=
  "[" ++ s.name ++ "]\n" ++
    String.join (s.settings.map fun (name, v) => name ++ " = " ++ v.text ++ "\n")

/-- A whole document. -/
def printSections (sections : List Section) : String :=
  "\n".intercalate (sections.map Section.text)

end ConnectionRouter.Toml
