import ShardDump.Text.Decimal
import ShardDump.Cli.Choice

/-!
# Command-line grammar

A command line is a program name, options, and a subcommand with options and positional
arguments of its own. Each argument is described by an `ArgSpec`: its short and long
flags, the name its value is shown under, how the value is checked, and its place in
help. A `CommandSpec` gathers the arguments one level of the command line accepts, in
the order they are looked up: its own, then the program's global options, then the help
and version flags.

Help lists subcommands, then positional arguments, then options; options are sorted by
their display order, then by flag, so a global option declared first sorts among the
first options of every subcommand. Columns line up within each section.
-/

namespace ShardDump

namespace Cli

/-- What giving an argument does. -/
inductive ArgAction where
  /-- Keeps the argument's value. -/
  | store
  /-- Shows help. -/
  | help
  /-- Shows the version. -/
  | version
  deriving DecidableEq, Repr

/-- How the value of an argument is checked. -/
inductive ValueKind where
  /-- A path: any text but the empty one. -/
  | path
  /-- Any text. -/
  | text
  /-- A machine-word count. -/
  | count
  /-- A selection of shard files. -/
  | selection
  /-- A report format. -/
  | format
  deriving DecidableEq, Repr

/-- Why a value was refused: it was empty where one is required, or it does not read as
its kind, for the reason given. -/
inductive ValueFault where
  | missing
  | invalid (reason : String)
  deriving DecidableEq, Repr

/-- Checks a value against its kind. -/
def ValueKind.check : ValueKind → String → Option ValueFault
  | .path, v => if v.isEmpty then some .missing else none
  | .text, _ => none
  | .count, v =>
    match Text.parseUnsigned v with
    | .ok _ => none
    | .error e => some (.invalid e.message)
  | .selection, v =>
    match Selection.parse v with
    | .ok _ => none
    | .error e => some (.invalid e)
  | .format, v =>
    match ReportFormat.parse v with
    | .ok _ => none
    | .error e => some (.invalid e)

/-- One argument of a command line. -/
structure ArgSpec where
  id : String
  short : Option Char
  long : Option String
  /-- The name a value is shown under; `none` for a flag without a value. -/
  valueName : Option String
  /-- The place among positional arguments, from 1; `none` for an option. -/
  position : Option Nat
  required : Bool
  global : Bool
  defaultValue : Option String
  action : ArgAction
  kind : ValueKind
  /-- The display order among options. -/
  order : Nat
  help : String
  deriving DecidableEq, Repr

namespace ArgSpec

/-- Whether the argument is positional. -/
def isPositional (a : ArgSpec) : Bool := a.position.isSome

/-- Whether the argument takes a value. -/
def takesValue (a : ArgSpec) : Bool := a.valueName.isSome

/-- The value placeholder: `<NAME>`, or `[NAME]` for a positional that may be left out. -/
def placeholder (a : ArgSpec) (required : Bool) : String :=
  match a.valueName with
  | none => ""
  | some n => if a.isPositional && !required then "[" ++ n ++ "]" else "<" ++ n ++ ">"

/-- How errors and usage name the argument: its long flag (or else its short one) with
the placeholder, or the placeholder alone for a positional. -/
def display (a : ArgSpec) : String :=
  if a.isPositional then a.placeholder a.required
  else
    let flag := match a.long, a.short with
      | some l, _ => "--" ++ l
      | none, some s => "-" ++ s.toString
      | none, none => ""
    if a.takesValue then flag ++ " " ++ a.placeholder true else flag

/-- The flag column of help: `-s, --long <NAME>`, with four spaces for a missing short
flag. -/
def flagColumn (a : ArgSpec) : String :=
  let short := match a.short with
    | some s => "-" ++ s.toString
    | none => if a.long.isSome then "    " else ""
  let long := match a.long with
    | some l => (if a.short.isSome then ", " else "") ++ "--" ++ l
    | none => ""
  let suffix := if a.takesValue then " " ++ a.placeholder true else ""
  short ++ long ++ suffix

/-- The width an option takes in the help column, counting room for a short flag. -/
def optionWidth (a : ArgSpec) : Nat := a.display.length + 4

/-- The sort key of an option in help: its short flag in lower case, upper case after
lower, or else its long flag. -/
def sortKey (a : ArgSpec) : String :=
  match a.short, a.long with
  | some s, _ => s.toLower.toString ++ (if s.isLower then "0" else "1")
  | none, some l => l
  | none, none => "\x7b" ++ a.id

/-- The help text with the default value, if any. -/
def helpText (a : ArgSpec) : String :=
  match a.defaultValue with
  | some d => if a.help.isEmpty then "[default: " ++ d ++ "]" else a.help ++ " [default: " ++ d ++ "]"
  | none => a.help

end ArgSpec

/-- One level of a command line. -/
structure CommandSpec where
  /-- The words that call this level, such as `vd export`. -/
  name : String
  about : String
  /-- Arguments in lookup order. -/
  args : List ArgSpec
  /-- Subcommands with what they do, in help order. -/
  subcommands : List (String × String)
  /-- The arguments declared together at this level, which some usage lines show as
  one group. -/
  group : List String
  deriving DecidableEq, Repr

namespace CommandSpec

/-- The positional arguments, in order. -/
def positionals (c : CommandSpec) : List ArgSpec :=
  (c.args.filter ArgSpec.isPositional).mergeSort fun a b => a.position.getD 0 ≤ b.position.getD 0

/-- The options. -/
def options (c : CommandSpec) : List ArgSpec := c.args.filter fun a => !a.isPositional

/-- The argument with short flag `s`. -/
def findShort (c : CommandSpec) (s : Char) : Option ArgSpec :=
  c.args.find? fun a => a.short == some s

/-- The argument with long flag `l`. -/
def findLong (c : CommandSpec) (l : String) : Option ArgSpec :=
  c.args.find? fun a => a.long == some l

/-- The argument named `id`. -/
def findId (c : CommandSpec) (id : String) : Option ArgSpec :=
  c.args.find? fun a => a.id == id

/-- The positional argument at place `n`. -/
def positionalAt (c : CommandSpec) (n : Nat) : Option ArgSpec :=
  c.args.find? fun a => a.position == some n

/-- Whether usage shows `[OPTIONS]`: some option other than help and version. -/
def hasOptions (c : CommandSpec) : Bool :=
  c.options.any fun a => a.action == .store && !a.required

/-- The usage line shown in help and most errors. -/
def usage (c : CommandSpec) : String :=
  c.name ++ (if c.hasOptions then " [OPTIONS]" else "")
    ++ String.join (c.positionals.map fun a => " " ++ a.placeholder a.required)
    ++ (if c.subcommands.isEmpty then "" else " <COMMAND>")

/-- The usage line after a mistake, naming what was given: the options among `used`, in
order, then the required positional arguments and those among `used`. -/
def usageWith (c : CommandSpec) (used : List String) : String :=
  let opts := (used.filterMap c.findId).filter fun a => !a.isPositional
  let opts := opts.foldl (fun acc a => if acc.contains a then acc else acc ++ [a]) []
  let shown := c.positionals.filter fun a => a.required || used.contains a.id
  c.name ++ String.join (opts.map fun a => " " ++ a.display)
    ++ String.join (shown.map fun a => " " ++ a.placeholder true)
    ++ (if c.subcommands.isEmpty then "" else " <COMMAND>")

/-- The level's group as a usage line shows it: its members between angle brackets,
separated by bars. -/
def groupText (c : CommandSpec) : String :=
  "<" ++ "|".intercalate ((c.group.filterMap c.findId).map fun a =>
    if a.isPositional then a.valueName.getD a.id else a.display) ++ ">"

/-- The usage line after a flag was given a value it does not take. `given` names the
arguments taken so far with the flag last. Once a member of the level's group is among
them, the group stands for all its members. The options among `given` come first, then
the group, then the required positional arguments outside it. -/
def usageGrouped (c : CommandSpec) (given : List String) : String :=
  let grouped := given.any c.group.contains
  let outside := fun (a : ArgSpec) => !(grouped && c.group.contains a.id)
  let opts := (given.filterMap c.findId).filter fun a => !a.isPositional && outside a
  let opts := opts.foldl (fun acc a => if acc.contains a then acc else acc ++ [a]) []
  let shown := c.positionals.filter fun a => a.required && outside a
  c.name ++ String.join (opts.map fun a => " " ++ a.display)
    ++ (if grouped then " " ++ c.groupText else "")
    ++ String.join (shown.map fun a => " " ++ a.placeholder true)
    ++ (if c.subcommands.isEmpty then "" else " <COMMAND>")

/-- Spaces. -/
def spaces (n : Nat) : String := String.ofList (List.replicate n ' ')

/-- The lines of the subcommand section. -/
def subcommandLines (c : CommandSpec) : List String :=
  let width := (c.subcommands.map fun s => s.1.length).foldl max 0
  c.subcommands.map fun (name, about) => "  " ++ name ++ spaces (width + 2 - name.length) ++ about

/-- The lines of the positional section. -/
def positionalLines (c : CommandSpec) : List String :=
  let width := (c.positionals.map fun a => a.display.length).foldl max 2
  c.positionals.map fun a =>
    "  " ++ a.display ++ spaces (width + 2 - a.display.length) ++ a.helpText

/-- The options in help order. -/
def optionsInOrder (c : CommandSpec) : List ArgSpec :=
  c.options.mergeSort fun a b => a.order < b.order || (a.order == b.order && a.sortKey ≤ b.sortKey)

/-- The lines of the option section. -/
def optionLines (c : CommandSpec) : List String :=
  let width := (c.options.map ArgSpec.optionWidth).foldl max 2
  c.optionsInOrder.map fun a =>
    let pad := width + (if a.long.isSome then 2 else 6) - a.optionWidth
    "  " ++ a.flagColumn ++ spaces pad ++ a.helpText

/-- The help text of this level. -/
def helpText (c : CommandSpec) : String :=
  let sections :=
    (if c.subcommands.isEmpty then [] else ["Commands:" :: c.subcommandLines])
    ++ (if c.positionals.isEmpty then [] else ["Arguments:" :: c.positionalLines])
    ++ (if c.options.isEmpty then [] else ["Options:" :: c.optionLines])
  let body := "\n\n".intercalate (sections.map fun lines => "\n".intercalate lines)
  c.about ++ "\n\nUsage: " ++ c.usage ++ "\n\n" ++ body ++ "\n"

end CommandSpec

end Cli

end ShardDump
