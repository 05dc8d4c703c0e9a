import ConnectionRouter.Text.Numeral
import ConnectionRouter.Text.Pieces

/-!
# Arguments

The commands of the program and how their arguments are read.

* `Command`: what the program is asked to do.
* `Command.parse`: the command of a list of arguments, or why there is none.

Options may come in any order, each at most once. A long option takes its value after `=` or as
the next argument, a short one also right behind its letter. After `--` nothing is an option.
-/

namespace ConnectionRouter

open Text

/-- What to simulate, and how. -/
structure SimulateOptions where
  /-- The file of the configuration. -/
  config : String
  /-- The file of the cluster. -/
  topology : String
  connections : Nat := 10
  concurrent : Bool := false
  metrics : Bool := false
  deriving DecidableEq

/-- What the program is asked to do. -/
inductive Command
  /-- Show the tiers of a preference. -/
  | checkKeys (text : String)
  /-- Show the configuration that a connection URL describes. -/
  | parseUrl (url : String)
  /-- Open connections to a simulated cluster. -/
  | simulate (options : SimulateOptions)
  deriving DecidableEq

/-- What a help text is about. -/
inductive HelpTopic
  | program
  | checkKeys
  | parseUrl
  | simulate
  | help
  deriving DecidableEq

/-- Why arguments are no command. -/
inductive Refusal
  /-- A help text is asked for. -/
  | help (topic : HelpTopic)
  /-- The arguments are wrong. -/
  | usage
  deriving DecidableEq

/-- Whether an argument has the form of an option. -/
def isOption (arg : String) : Bool := "-".toList.isPrefixOf arg.toList && arg ≠ "-"

/-- Whether an argument asks for help. -/
def asksHelp (arg : String) : Bool :=
  arg = "--help" || ("-h".toList.isPrefixOf arg.toList && arg.toList[1]? ≠ some '-')

/-- Reads the one argument of a command. -/
def readSingle (topic : HelpTopic) : (found : Option String) → (onlyValues : Bool) →
    List String → Except Refusal String
  | some text, _, [] => .ok text
  | none, _, [] => .error .usage
  | found, onlyValues, arg :: rest =>
    if !onlyValues && arg = "--" then readSingle topic found true rest
    else if !onlyValues && isOption arg then
      .error (if asksHelp arg then .help topic else .usage)
    else
      match found with
      | none => readSingle topic (some arg) onlyValues rest
      | some _ => .error .usage

/-- The options of a simulation as far as they are read. -/
structure OptionDraft where
  config : Option String := none
  topology : Option String := none
  connections : Option Nat := none
  concurrent : Bool := false
  metrics : Bool := false
  deriving DecidableEq

/-- The options that take a value. -/
inductive ValueOption
  | config
  | topology
  | connections
  deriving DecidableEq

namespace OptionDraft

/-- The draft with an option set; an option is set at most once, and a file has a name. -/
def set? (d : OptionDraft) (value : String) : ValueOption → Option OptionDraft
  | .config =>
    if value ≠ "" ∧ d.config.isNone then some { d with config := some value } else none
  | .topology =>
    if value ≠ "" ∧ d.topology.isNone then some { d with topology := some value } else none
  | .connections =>
    if d.connections.isNone then
      (readUnsigned64? value.toList).map fun n => { d with connections := some n }
    else none

/-- The options once all arguments are read. -/
def finish? (d : OptionDraft) : Option SimulateOptions := do
  return { config := ← d.config
           topology := ← d.topology
           connections := d.connections.getD 10
           concurrent := d.concurrent
           metrics := d.metrics }

end OptionDraft

/-- The option that a long name means. -/
def ValueOption.ofLong? (name : String) : Option ValueOption :=
  if name = "--config" then some .config
  else if name = "--topology" then some .topology
  else if name = "--connections" then some .connections
  else none

/-- The option that a letter means. -/
def ValueOption.ofLetter? (c : Char) : Option ValueOption :=
  if c = 'c' then some .config
  else if c = 't' then some .topology
  else if c = 'n' then some .connections
  else none

/-- An argument that sets an option: the option, and the value if it is part of it. -/
def readOption? (arg : String) : Option (ValueOption × Option String) :=
  match arg.toList with
  | '-' :: '-' :: name =>
    match cutFirst '=' name with
    | some (name, value) =>
      (ValueOption.ofLong? (String.ofList ('-' :: '-' :: name))).map fun o =>
        (o, some (String.ofList value))
    | none => (ValueOption.ofLong? arg).map fun o => (o, none)
  | '-' :: letter :: value =>
    (ValueOption.ofLetter? letter).map fun o =>
      match value with
      | [] => (o, none)
      | '=' :: value => (o, some (String.ofList value))
      | value => (o, some (String.ofList value))
  | _ => none

/-- Reads the options of a simulation. -/
def readOptions : OptionDraft → List String → Except Refusal OptionDraft
  | d, [] => .ok d
  | d, arg :: rest =>
    if arg = "--" then if rest = [] then .ok d else .error .usage
    else if !isOption arg then .error .usage
    else if asksHelp arg then .error (.help .simulate)
    else if arg = "--concurrent" then
      if d.concurrent then .error .usage else readOptions { d with concurrent := true } rest
    else if arg = "--metrics" then
      if d.metrics then .error .usage else readOptions { d with metrics := true } rest
    else
      match readOption? arg, rest with
      | none, _ => .error .usage
      | some (o, some value), rest =>
        match d.set? value o with
        | some d => readOptions d rest
        | none => .error .usage
      | some (_, none), [] => .error .usage
      | some (o, none), value :: rest =>
        if isOption value then .error .usage
        else
          match d.set? value o with
          | some d => readOptions d rest
          | none => .error .usage

namespace Command

/-- Reads what follows the command `help`. -/
def parseHelp : List String → Refusal
  | [] => .help .program
  | ["check-keys"] => .help .checkKeys
  | ["parse-url"] => .help .parseUrl
  | ["simulate"] => .help .simulate
  | ["help"] => .help .help
  | _ => .usage

/-- The command of a list of arguments. -/
def parse : List String → Except Refusal Command
  | [] => .error .usage
  | name :: args =>
    if name = "check-keys" then (readSingle .checkKeys none false args).map checkKeys
    else if name = "parse-url" then (readSingle .parseUrl none false args).map parseUrl
    else if name = "simulate" then
      match readOptions {} args with
      | .error r => .error r
      | .ok d => (d.finish?).elim (.error .usage) fun o => .ok (simulate o)
    else if name = "help" then .error (parseHelp args)
    else .error (if asksHelp name then .help .program else .usage)

/-- The files that a command reads. -/
def files : Command → List String
  | checkKeys _ | parseUrl _ => []
  | simulate o => [o.config, o.topology]

end Command

end ConnectionRouter
