/-!
# JSON text

Reports are printed as JSON, one field or item a line, indented by two blanks.

* `Json.pretty`: the text of a value.
-/

namespace ConnectionRouter

/-- A JSON value; numbers are whole. -/
inductive Json
  | null
  | bool (b : Bool)
  | number (n : Int)
  | string (s : String)
  | array (items : List Json)
  | object (fields : List (String × Json))

namespace Json

def ofNat (n : Nat) : Json := number n

/-- An absent value is null. -/
def ofOption {α : Type} (f : α → Json) : Option α → Json
  | none => null
  | some a => f a

/-- A lower-case hexadecimal digit. -/
def hexDigit (n : Nat) : Char := if n < 10 then Char.ofNat (48 + n) else Char.ofNat (87 + n)

/-- A character between quotes; only quotes, backslashes and control characters are escaped. -/
def escapeChar (c : Char) : List Char :=
  if c = '"' then ['\\', '"']
  else if c = '\\' then ['\\', '\\']
  else if c = '\n' then ['\\', 'n']
  else if c = '\r' then ['\\', 'r']
  else if c = '\t' then ['\\', 't']
  else if c = '\x08' then ['\\', 'b']
  else if c = '\x0c' then ['\\', 'f']
  else if c.toNat < 0x20 then
    ['\\', 'u', '0', '0', hexDigit (c.toNat / 16), hexDigit (c.toNat % 16)]
  else [c]

def quote (s : String) : String := "\"" ++ String.ofList (s.toList.flatMap escapeChar) ++ "\""

/-- Lines between brackets, one level deeper than the brackets; nothing between empty ones. -/
def block (left right : String) (indent : String) (lines : List String) : String :=
  if lines = [] then left ++ right
  else left ++ "\n" ++ ",\n".intercalate (lines.map fun l => indent ++ "  " ++ l) ++
    "\n" ++ indent ++ right

mutual

/-- The text of a value whose lines after the first are indented so far. -/
def prettyAt (indent : String) : Json → String
  | null => "null"
  | bool true => "true"
  | bool false => "false"
  | number n => toString n
  | string s => quote s
  | array items => block "[" "]" indent (prettyItems (indent ++ "  ") items)
  | object fields => block "\x7b" "\x7d" indent (prettyFields (indent ++ "  ") fields)

/-- The texts of the items of an array. -/
def prettyItems (indent : String) : List Json → List String
  | [] => []
  | v :: rest => prettyAt indent v :: prettyItems indent rest

/-- The texts of the fields of an object. -/
def prettyFields (indent : String) : List (String × Json) → List String
  | [] => []
  | (k, v) :: rest => (quote k ++ ": " ++ prettyAt indent v) :: prettyFields indent rest

end

/-- The text of a value. -/
def pretty (v : Json) : String := prettyAt "" v

end Json

end ConnectionRouter
