import ConnectionRouter.Config.Basic
import ConnectionRouter.Text.Blank
import ConnectionRouter.Text.ByteCut
import ConnectionRouter.Text.Fraction
import ConnectionRouter.Text.Regex
import ConnectionRouter.Text.Utf8

/-!
# Log directives

The directive of a configuration is a list of entries between commas. An entry is a level, or a
target with a level after `=`, which may be missing. Between brackets after the target may stand
the name of a span and, between braces, a field with a pattern for its value.

* `checkLogDirective`: whether every entry is well formed.
* `LogEntryPart.next`: how an entry is read, character by character.

Blanks around an entry are skipped on reading, but the offsets of its parts, counted without the
blanks before it, are used to cut them out of the entry with all blanks. So a level is only found
if no blank precedes the entry, and a cut may even come to lie inside a character.
-/

namespace ConnectionRouter

open Text

/-- What can be wrong with a log directive. -/
inductive LogDirectiveFault
  /-- An entry is not well formed. -/
  | malformed
  /-- A part of an entry would begin or end inside a character. -/
  | splitCharacter
  deriving DecidableEq

/-- Whether a word is a log level: a name in any ASCII case, or a number from 0 to 5. -/
def isLogLevel (s : List Char) : Bool :=
  ((readUnsigned64? s).any (· ≤ 5)) ||
    ["trace", "debug", "info", "warn", "error", "off"].any fun name =>
      s.map Char.toLower = name.toList

/-- Whether a target may start with a character. -/
def startsLogTarget (c : Char) : Bool := c = '-' || c = ':' || c = '_' || isAlphanumeric c

/-- Whether a text is a field with an optional pattern for its value after `=`. A number is matched
as such, anything else as a regular expression. -/
def isLogField (s : List Char) : Bool :=
  s ≠ [] && match s.splitOn '=' with
    | _ :: value :: _ => isFractionNumeral value || Regex.isWellFormed value
    | _ => true

/-- The part of an entry that is being read, with the offset at which it began. -/
inductive LogEntryPart
  | start
  /-- A level or a target, at the start of the entry. -/
  | word
  | span (first : Nat)
  | field (first : Nat)
  /-- Behind the fields of a span. -/
  | afterFields
  /-- Behind a span. -/
  | afterSpan
  | level (first : Nat)
  deriving DecidableEq

/-- What stands in an entry between two offsets. -/
def cutLogEntry (entry : List Char) (first last : Nat) :
    Except LogDirectiveFault (List Char) :=
  match cutBytes? first last entry with
  | some part => .ok part
  | none => .error .splitCharacter

namespace LogEntryPart

/-- The part after the character at an offset. -/
def next (entry : List Char) (offset : Nat) (c : Char) :
    LogEntryPart → Except LogDirectiveFault LogEntryPart
  | start =>
    if c = '[' then .ok (span (offset + 1))
    else if startsLogTarget c then .ok word
    else .error .malformed
  | word =>
    if c = '=' then (cutLogEntry entry 0 offset).map fun _ => level (offset + 1)
    else if c = '[' then (cutLogEntry entry 0 offset).map fun _ => span (offset + 1)
    else .ok word
  | span first =>
    if c = ']' then (cutLogEntry entry first offset).map fun _ => afterSpan
    else if c = '{' then (cutLogEntry entry first offset).map fun _ => field (offset + 1)
    else .ok (span first)
  | field first =>
    if c = '}' then do
      if isLogField (← cutLogEntry entry first offset) then return afterFields
      else throw .malformed
    else .ok (field first)
  | afterFields => if c = ']' then .ok afterSpan else .error .malformed
  | afterSpan => if c = '=' then .ok (level (offset + 1)) else .error .malformed
  | level first => .ok (level first)

/-- The part that is reached behind the characters from an offset on. -/
def read (entry : List Char) (offset : Nat) (part : LogEntryPart) :
    List Char → Except LogDirectiveFault LogEntryPart
  | [] => .ok part
  | c :: s => do read entry (offset + c.utf8Size) (← part.next entry offset c) s

/-- Whether an entry may end in a part. -/
def finish (entry : List Char) : LogEntryPart → Except LogDirectiveFault Unit
  | word | afterSpan => .ok ()
  | level first => do
    let text ← cutLogEntry entry first (Utf8.encode entry).length
    if text = [] ∨ isLogLevel text then return () else throw .malformed
  | _ => .error .malformed

end LogEntryPart

/-- Whether an entry is well formed. -/
def checkLogEntry (entry : List Char) : Except LogDirectiveFault Unit := do
  (← LogEntryPart.start.read entry 0 (trim entry)).finish entry

/-- Whether every entry of a directive is well formed; empty entries are skipped, and the first bad
one decides. -/
def checkLogDirective (directive : String) : Except LogDirectiveFault Unit :=
  ((directive.toList.splitOn ',').filter (· ≠ [])).forM checkLogEntry

end ConnectionRouter
