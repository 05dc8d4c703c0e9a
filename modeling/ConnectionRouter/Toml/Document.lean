import ConnectionRouter.Toml.Number
import ConnectionRouter.Toml.Scanner

/-!
# TOML documents

The grammar of TOML 1.0: lines with pairs and headers, comments, four kinds of strings, arrays
and tables between braces.

* `Toml.value`: values, nested at most so deep.
* `Toml.line`: what a line adds to the document.
* `Toml.parse?`: the table of a whole document.
-/

namespace ConnectionRouter.Toml

open Scanner

/-- How deep values may be nested, and how many parts a key may have. -/
def maxDepth : Nat := 79

/-- Blanks within a line. -/
def isSpace (c : Char) : Bool := c = ' ' || c = '\t'

/-- Characters that may stand anywhere in a line: all but control characters, and the tab. -/
def isPrintable (c : Char) : Bool := c = '\t' || (0x20 ≤ c.toNat && c.toNat ≠ 0x7F)

/-- Blanks within a line, maybe none. -/
def spaces : Scanner Unit := do let _ ← span isSpace

/-- A line end. -/
def newline : Scanner Unit := exactly "\n" <|> exactly "\r\n"

/-- A comment, up to the end of its line. -/
def comment : Scanner Unit := do
  exactly "#"
  let _ ← span isPrintable

/-- What may follow the content of a line. -/
def lineEnd : Scanner Unit := do
  spaces
  let _ ← maybe comment
  newline <|> done

/-- Blanks, line ends and comments between the items of an array. -/
def gap : Scanner Unit := do
  let _ ← many ((do let _ ← satisfy isSpace) <|> newline <|> comment)

/-! ## Strings -/

/-- The character of `width` hexadecimal digits. -/
def codePoint (width : Nat) : Scanner Char := fun text =>
  match readBase? 16 0 (text.take width) with
  | some n =>
    if (text.take width).length = width ∧ n.isValidChar then
      some (Char.ofNat n, text.drop width)
    else none
  | none => none

/-- An escape in a basic string. -/
def escape : Scanner (List Char) := do
  exactly "\\"
  let c ← satisfy fun _ => true
  match c with
  | 'b' => return ['\x08']
  | 't' => return ['\t']
  | 'n' => return ['\n']
  | 'f' => return ['\x0c']
  | 'r' => return ['\r']
  | '"' => return ['"']
  | '\\' => return ['\\']
  | 'u' => return [← codePoint 4]
  | 'U' => return [← codePoint 8]
  | _ => failure

/-- A backslash at the end of a line, which joins it to the next text. -/
def joinedLines : Scanner (List Char) := do
  exactly "\\"
  spaces
  newline
  let _ ← many ((do let _ ← satisfy isSpace) <|> newline)
  return []

/-- A run of plain characters between quotes of the given kind. -/
def plain (quote : Char) : Scanner (List Char) :=
  span1 fun c => isPrintable c && c ≠ quote && (quote = '\'' || c ≠ '\\')

/-- A string of one line. -/
def lineString (quote : Char) : Scanner String := do
  let _ ← satisfy (· = quote)
  let parts ← many (if quote = '"' then plain quote <|> escape else plain quote)
  let _ ← satisfy (· = quote)
  return String.ofList parts.flatten

/-- A string of several lines between triple quotes. A line end right after the opening quotes
does not count, and up to two quotes may stand next to the closing ones. -/
def textString (quote : Char) : Scanner String := do
  let delimiter := [quote, quote, quote]
  exactly (String.ofList delimiter)
  let _ ← maybe newline
  let quotes : Scanner (List Char) := do
    let run ← span1 (· = quote)
    guard (run.length < 3)
    return run
  let lineBreak : Scanner (List Char) := do
    newline
    return ['\n']
  let escaped := if quote = '"' then joinedLines <|> escape else failure
  let parts ← many (plain quote <|> lineBreak <|> escaped <|> quotes)
  let run ← span (· = quote)
  guard (3 ≤ run.length ∧ run.length ≤ 5)
  return String.ofList (parts.flatten ++ run.drop 3)

/-- A string of any kind. -/
def string : Scanner String :=
  textString '"' <|> lineString '"' <|> textString '\'' <|> lineString '\''

/-! ## Keys -/

/-- The characters of a key without quotes. -/
def isKeyChar (c : Char) : Bool := c.isAlphanum || c = '-' || c = '_'

/-- A key without dots. -/
def simpleKey : Scanner String :=
  lineString '"' <|> lineString '\'' <|> (do return String.ofList (← span1 isKeyChar))

/-- The parts of a key, the last one apart. -/
def key : Scanner (List String × String) := do
  let part : Scanner String := do
    spaces
    let k ← simpleKey
    spaces
    return k
  let parts ← separated part (exactly ".")
  guard (parts.length ≤ maxDepth)
  match parts.getLast? with
  | some last => return (parts.dropLast, last)
  | none => failure

/-! ## Values -/

/-- The characters of words. -/
def isWordChar (c : Char) : Bool :=
  c.isAlphanum || c = '+' || c = '-' || c = '_' || c = '.' || c = ':'

/-- A number, a boolean, or a date; a blank may stand between a date and a time. -/
def word : Scanner Value := do
  let w ← span1 isWordChar
  let timed : Scanner Value := do
    exactly " "
    let t ← span1 isWordChar
    guard (isDate w ∧ isTimeWithOffset t)
    return .date (String.ofList (w ++ ' ' :: t))
  timed <|> (readWord? w).elim failure pure

/-- An array of the given items, with a comma after the last one if so wished. -/
def array (item : Scanner Value) : Scanner Value := do
  let spaced : Scanner Value := do
    gap
    let v ← item
    gap
    return v
  exactly "["
  let items ← maybe (do
    let items ← separated spaced (exactly ",")
    let _ ← maybe (exactly ",")
    return items)
  gap
  exactly "]"
  return .array (items.getD [])

/-- A pair of a key and a value. -/
def pair (item : Scanner Value) : Scanner ((List String × String) × Value) := do
  let k ← key
  exactly "="
  spaces
  return (k, ← item)

/-- A table between braces. -/
def braces (item : Scanner Value) : Scanner Value := do
  let spaced : Scanner ((List String × String) × Value) := do
    let p ← pair item
    spaces
    return p
  exactly "\x7b"
  spaces
  let pairs ← maybe (separated spaced (exactly ","))
  spaces
  exactly "\x7d"
  let entries := (pairs.getD []).foldlM (fun es ((path, k), v) => addPair? path k v .braces es) []
  entries.elim failure fun es => pure (.table .braces es)

/-- A value nested at most `depth` deep. -/
def value : (depth : Nat) → Scanner Value
  | 0 => (do return .string (← string)) <|> word
  | depth + 1 =>
    (do return .string (← string)) <|> word <|> array (value depth) <|> braces (value depth)

/-! ## Lines -/

/-- A line of a document. -/
inductive Line
  | blank
  | pair (path : List String) (key : String) (v : Value)
  | header (path : List String) (key : String)
  | arrayHeader (path : List String) (key : String)

/-- A line with its end. -/
def line : Scanner Line := do
  spaces
  let headers : Scanner Line := do
    exactly "[["
    let (path, k) ← key
    exactly "]]"
    lineEnd
    return .arrayHeader path k
  let header : Scanner Line := do
    exactly "["
    let (path, k) ← key
    exactly "]"
    lineEnd
    return .header path k
  let setting : Scanner Line := do
    let ((path, k), v) ← pair (value maxDepth)
    lineEnd
    return .pair path k v
  let blank : Scanner Line := do
    let _ ← maybe comment
    newline
    return .blank
  blank <|> headers <|> header <|> setting

/-- The document so far, and the table that pairs go to. -/
structure Draft where
  root : Entries
  path : List String

/-- The document with one more line. -/
def Draft.add? (d : Draft) : Line → Option Draft
  | .blank => some d
  | .pair path k v =>
    (within? .implied (fun origin es => addPair? path k v origin es) d.path .header d.root).map
      fun root => { d with root := root }
  | .header path k => (openTable? path k d.root).map fun root => ⟨root, path ++ [k]⟩
  | .arrayHeader path k => (openTables? path k d.root).map fun root => ⟨root, path ++ [k]⟩

/-- The lines of a document. A byte order mark may precede them. -/
def lines : Scanner (List Line) := do
  let _ ← maybe (exactly "\uFEFF")
  let ls ← many line
  spaces
  let _ ← maybe comment
  done
  return ls

/-- The table of a whole document. -/
def parse? (text : String) : Option Value := do
  let ls ← lines.run? text.toList
  let d ← ls.foldlM Draft.add? ⟨[], []⟩
  return .table .header d.root

end ConnectionRouter.Toml
