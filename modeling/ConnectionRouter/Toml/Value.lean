/-!
# TOML values

A TOML document is a table of values. Tables remember how they came to be, because that decides
whether a later line of the document may add to them.

* `Toml.Value`: values.
* `Toml.addPair`, `Toml.openTable`, `Toml.openTables`: what the lines of a document add to it.
-/

namespace ConnectionRouter.Toml

/-- How a table came to be. -/
inductive TableOrigin
  /-- By a header of its own. -/
  | header
  /-- By the header of a table below it. -/
  | implied
  /-- By a dotted key. -/
  | dotted
  /-- Between braces. -/
  | braces
  deriving DecidableEq

/-- A TOML value. Fractional numbers and dates keep their written form only. -/
inductive Value
  | string (text : String)
  | integer (n : Int)
  | float (text : String)
  | boolean (b : Bool)
  | date (text : String)
  | array (items : List Value)
  | table (origin : TableOrigin) (entries : List (String × Value))
  /-- Tables under one double-bracketed header, in order. -/
  | tables (items : List Value)

/-- The entries of a table, in the order in which they were written. -/
abbrev Entries : Type := List (String × Value)

/-- Changes the entry of a key, or adds one at the end; `f` may refuse. -/
def change? (key : String) (f : Option Value → Option Value) : Entries → Option Entries
  | [] => (f none).map fun v => [(key, v)]
  | (k, v) :: rest =>
    if k = key then (f (some v)).map fun v => (k, v) :: rest
    else (change? key f rest).map ((k, v) :: ·)

/-- Whether the key of a deeper table may lead through a table. Nothing adds to a table between
braces, and a dotted key adds to no table with a header. -/
def leadsThrough (made : TableOrigin) : TableOrigin → Bool
  | .header => made != .dotted
  | .implied | .dotted => true
  | .braces => false

/-- Changes the table at the end of a path; tables that are missing on the way are made as
`made` says. The path leads into the last of several tables with one header. -/
def within? (made : TableOrigin) (f : TableOrigin → Entries → Option Entries) :
    List String → TableOrigin → Entries → Option Entries
  | [], origin, entries => f origin entries
  | key :: path, _, entries =>
    change? key (fun
      | none => (within? made f path made []).map (.table made)
      | some (.table origin inner) =>
        if leadsThrough made origin then
          (within? made f path origin inner).map (.table origin)
        else none
      | some (.tables items) =>
        match items.getLast? with
        | some (.table origin inner) =>
          (within? made f path origin inner).map fun inner =>
            .tables (items.dropLast ++ [.table origin inner])
        | _ => none
      | some _ => none) entries

/-- Adds a value under a dotted key. A key may be set once, and a key with dots only adds to
tables that such keys have made. -/
def addPair? (path : List String) (key : String) (v : Value) (origin : TableOrigin)
    (entries : Entries) : Option Entries :=
  within? .dotted (fun origin entries =>
    if path ≠ [] ∧ origin ≠ .dotted then none
    else change? key (fun old => if old.isNone then some v else none) entries) path origin entries

/-- Opens the table of a header. It may exist already, but only because headers of tables below
it implied it. -/
def openTable? (path : List String) (key : String) (root : Entries) : Option Entries :=
  within? .implied (fun _ entries =>
    change? key (fun
      | none => some (.table .header [])
      | some (.table .implied inner) => some (.table .header inner)
      | some _ => none) entries) path .header root

/-- Opens another table of a double-bracketed header. -/
def openTables? (path : List String) (key : String) (root : Entries) : Option Entries :=
  within? .implied (fun _ entries =>
    change? key (fun
      | none => some (.tables [.table .header []])
      | some (.tables items) => some (.tables (items ++ [.table .header []]))
      | some _ => none) entries) path .header root

end ConnectionRouter.Toml
