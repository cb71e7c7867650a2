import ShardDump.Cli.Arguments

/-!
# The `vd` command line

`vd` has three subcommands: `export` writes a dump from a file of JSON lines, `import`
prints one shard of a dump as JSON lines, and `inspect` counts the records of every
shard. The options `--config` and `--log-level` are global: they may be given before the
subcommand or after it, and a value given after it wins.
-/

namespace ShardDump

namespace Cli

/-- An option that takes a value. -/
def option (id : String) (short : Char) (long valueName : String) (kind : ValueKind)
    (defaultValue : Option String) (global : Bool) (order : Nat) (help : String) : ArgSpec :=
  ⟨id, some short, some long, some valueName, none, false, global, defaultValue, .store, kind,
    order, help⟩

/-- A required positional argument. -/
def positional (id valueName : String) (position : Nat) (kind : ValueKind) (help : String) :
    ArgSpec :=
  ⟨id, none, none, some valueName, some position, true, false, none, .store, kind, 999, help⟩

/-- A flag that stops reading. -/
def stopFlag (id : String) (short : Char) (action : ArgAction) (help : String) : ArgSpec :=
  ⟨id, some short, some id, none, none, false, false, none, action, .text, 999, help⟩

/-- The configuration file option. -/
def configArg : ArgSpec :=
  option "config" 'c' "config" "CONFIG" .path none true 0 "Path to config file"

/-- The log level option. -/
def logLevelArg : ArgSpec :=
  option "log_level" 'l' "log-level" "LOG_LEVEL" .text none true 1
    "Log level (TRACE, DEBUG, INFO, WARN, ERROR)"

/-- The help flag. -/
def helpArg : ArgSpec := stopFlag "help" 'h' .help "Print help"

/-- The version flag. -/
def versionArg : ArgSpec := stopFlag "version" 'V' .version "Print version"

/-- What each subcommand does, in help order. -/
def subcommandAbouts : List (String × String) :=
  [("export", "Dump a JSON Lines file of records into a new sharded dump"),
   ("import", "Print one shard of a dump as JSON Lines"),
   ("inspect", "Count the records in every shard and check they line up"),
   ("help", "Print this message or the help of the given subcommand(s)")]

/-- The program's own level, whose group is the global options. -/
def topLevel : CommandSpec :=
  ⟨"vd", "Sharded binary dumps of vector records", [configArg, logLevelArg, helpArg, versionArg],
    subcommandAbouts, [configArg.id, logLevelArg.id]⟩

/-- A subcommand's level: its own arguments, which form its group, the global options,
and help. -/
def subLevel (name : String) (args : List ArgSpec) : CommandSpec :=
  ⟨"vd " ++ name, (subcommandAbouts.lookup name).getD "", args ++ [configArg, logLevelArg, helpArg], [],
    args.map (·.id)⟩

/-- The level of `export`. -/
def exportLevel : CommandSpec :=
  subLevel "export"
    [positional "input" "INPUT" 1 .path
      "Input file, one \x7b\"id\", \"vector\", \"metadata\"\x7d object per line",
     positional "root" "ROOT" 2 .path "Dump directory to create (must not exist)",
     option "shards" 's' "shards" "SHARDS" .count none false 0
      "Number of shards (default: config default_shards)"]

/-- The level of `import`. -/
def importLevel : CommandSpec :=
  subLevel "import"
    [positional "root" "ROOT" 1 .path "Dump directory",
     positional "shard" "SHARD" 2 .count "Shard index",
     option "what" 'w' "what" "WHAT" .selection (some "records") false 0
      "What to read: records, vectors or metas"]

/-- The level of `inspect`. -/
def inspectLevel : CommandSpec :=
  subLevel "inspect"
    [positional "root" "ROOT" 1 .path "Dump directory",
     option "format" 'f' "format" "FORMAT" .format (some "text") false 0 "Output format"]

/-- The `vd` program. -/
def program : Program :=
  ⟨topLevel, [("export", exportLevel), ("import", importLevel), ("inspect", inspectLevel)],
    "Print this message or the help of the given subcommand(s)\n\nUsage: vd help [COMMAND]...\n\n"
      ++ "Arguments:\n  [COMMAND]...  Print help for the subcommand(s)\n",
    "0.1.0"⟩

end Cli

/-- What a command line asks for. -/
inductive Command where
  /-- Writes a new dump at `root` from the JSON lines of `input`. -/
  | exportDump (input root : String) (shards : Option Nat)
  /-- Prints the selected files of one shard. -/
  | importShard (root : String) (shard : Nat) (selection : Selection)
  /-- Counts the records of every shard. -/
  | inspectDump (root : String) (format : ReportFormat)
  deriving DecidableEq, Repr

/-- A command line read: the global options and the command. -/
structure Invocation where
  config : Option String
  logLevel : Option String
  command : Command
  deriving DecidableEq, Repr

namespace Invocation

/-- A count read from a checked value. -/
def countOf (v : Option String) : Option Nat :=
  v.bind fun s => (Text.parseUnsigned s).toOption

/-- The invocation of a command line read; values were checked as they were read. -/
def ofReading (r : Cli.Reading) : Invocation :=
  let get := fun id => r.values.lookup id
  let command := match r.subcommand with
    | "export" => Command.exportDump ((get "input").getD "") ((get "root").getD "") (countOf (get "shards"))
    | "import" =>
      Command.importShard ((get "root").getD "") ((countOf (get "shard")).getD 0)
        ((((get "what").getD "records") |> Selection.parse).toOption.getD .records)
    | _ =>
      Command.inspectDump ((get "root").getD "")
        ((((get "format").getD "text") |> ReportFormat.parse).toOption.getD .text)
  ⟨r.global "config", r.global "log_level", command⟩

/-- Reads the words after the program name. -/
def parse (words : List String) : Except Cli.Stop Invocation :=
  ofReading <$> Cli.read Cli.program words

end Invocation

end ShardDump
