import ShardDump.Cli.Invocation
import ShardDump.Settings
import ShardDump.Export
import ShardDump.Inspect
import ShardDump.Reader.Records
import ShardDump.Json.RecordLine
import ShardDump.Text.Case

/-!
# Running `vd`

A run reads the command line, then the settings, then checks the log level and runs
the command on the disk. It ends with an exit status, what it wrote to standard output
and standard error, and the disk as the command left it.

* `export` reads the input twice: once to count the lines that are not blank, which
  fixes how many records each shard gets, and once to hand the records to the export.
  Line numbers count every line, blank ones included.
* `import` prints one JSON line per record, or per id paired with its vector or its
  metadata; lines printed before an error stay printed.
* `inspect` prints the counts of every shard, as text or as one JSON document, and
  fails when the dump is not consistent.

Help and the version end a run with status 0; a mistake on the command line with
status 2; any other error with status 1 and a report on standard error.
-/

namespace ShardDump

/-- How a run ended. -/
structure Outcome where
  status : Nat
  stdout : String
  stderr : String
  disk : Disk

namespace Cli

/-- A line of text without the line break that ends it: a line feed, and a carriage return
just before it. A carriage return with no line feed after it stays. -/
def withoutLineBreak (line : String) : String :=
  if line.endsWith "\n" then
    let line := (line.dropEnd 1).toString
    if line.endsWith "\r" then (line.dropEnd 1).toString else line
  else line

/-- The text of a line read with its line break, or the error for a line that is not UTF-8. -/
def lineText (bytes : Bytes) : Except IoError String :=
  match String.fromUTF8? ⟨bytes.toArray⟩ with
  | none => .error Disk.invalidTextError
  | some line => .ok (withoutLineBreak line)

/-- The lines of a text file, read with at most `fuel` reads. A line that is not UTF-8 is an
error in its place, and reading goes on after it; an error of the disk ends the lines, since
nothing reads past an error. -/
def lineItemsUpTo (d : Disk) : Nat → BufferedReader → List (Except IoError String)
  | 0, _ => []
  | fuel + 1, r =>
    match r.readLine d with
    | (.error e, _) => [.error (.os e)]
    | (.ok bytes, r') =>
      if bytes.isEmpty then [] else lineText bytes :: lineItemsUpTo d fuel r'

/-- Opens the input of an export and reads its lines. -/
def inputLines (d : Disk) (path : String) : Except Report (List (Except IoError String)) :=
  match d.openRead path with
  | .error e => .error (Report.wrap ("Failed to open input: " ++ path) (Report.ofIo (.os e)))
  | .ok h =>
    let r := BufferedReader.ofHandle h
    .ok (lineItemsUpTo d (r.remaining d + 2) r)

/-- Adds to `count` the lines that are not blank, stopping at the first line that cannot be
read. -/
def countLinesFrom (count : Nat) : List (Except IoError String) → Except IoError Nat
  | [] => .ok count
  | .error e :: _ => .error e
  | .ok line :: rest => countLinesFrom (if Text.isBlank line then count else count + 1) rest

/-- The first pass of an export: the number of lines of the input that are not blank. -/
def countRecords (d : Disk) (path : String) : Except Report Nat :=
  match inputLines d path with
  | .error r => .error r
  | .ok items =>
    match countLinesFrom 0 items with
    | .ok n => .ok n
    | .error e => .error (Report.ofIo e)

/-- The record of input line number `n`, or why it is not one. -/
def recordOfLine (n : Nat) (line : String) : SourceItem :=
  let located := fun (m : String) => "line " ++ toString n ++ ": " ++ m
  match Json.RecordLine.parse line with
  | .error m => .error (located m)
  | .ok l =>
    match l.toRecord with
    | .error m => .error (located m)
    | .ok r => .ok r

/-- Whether the second pass hands a line on to the export: a line that is not blank, or a
line that could not be read. -/
def keepsLine : Except IoError String → Bool
  | .ok line => !Text.isBlank line
  | .error _ => true

/-- The item of input line number `n`: its record, or the error of the line. -/
def parseLine (n : Nat) : Except IoError String → SourceItem
  | .error e => .error e.message
  | .ok line => recordOfLine n line

/-- The second pass of an export: the items it hands to the export, with the lines numbered
from 1 before the blank ones are left out. -/
def sourceOfLines (items : List (Except IoError String)) : List SourceItem :=
  ((items.zipIdx 1).filter fun p => keepsLine p.1).map fun p => parseLine p.2 p.1

/-- The summary printed after an export. -/
def exportText (s : ExportSummary) : String :=
  String.join (s.shards.map fun sh => "  shard " ++ toString sh.shard ++ ": " ++ toString sh.records ++ " records\n")
    ++ "✓ Exported " ++ toString s.totalRecords ++ " records into " ++ toString s.shards.length
    ++ " shards at " ++ s.root ++ "\n"

/-- Runs `export`: what it printed, its error, and the disk afterwards. The input is read
twice, once to count its records and once to hand them to the export. -/
def runExportCommand (d : Disk) (input root : String) (shards : Nat) :
    String × Option Report × Disk :=
  match countRecords d input with
  | .error r => ("", some r, d)
  | .ok total =>
    match inputLines d input with
    | .error r => ("", some r, d)
    | .ok items =>
      let run := runExport d root shards total (sourceOfLines items)
      match run.result with
      | .ok summary => (exportText summary, none, run.disk)
      | .error e => ("", some (Report.wrap ("Failed to export to " ++ root) (Report.ofDumpError e)), run.disk)

/-- Pairs the items of two readers, stopping when either ends; an error of a pair stops
the pairing, the first reader's error first. -/
def pairUpTo {ρ σ α β : Type} [Reader ρ α] [Reader σ β] (d : Disk) :
    Nat → ρ → σ → List (α × β) × Option DumpError
  | 0, _, _ => ([], none)
  | fuel + 1, a, b =>
    match Reader.next d a with
    | (none, _) => ([], none)
    | (some x, a') =>
      match Reader.next d b with
      | (none, _) => ([], none)
      | (some y, b') =>
        match x, y with
        | .error e, _ => ([], some e)
        | .ok _, .error e => ([], some e)
        | .ok x, .ok y =>
          let (rest, e) := pairUpTo d fuel a' b'
          ((x, y) :: rest, e)

/-- The JSON line of a record line. -/
def jsonLine (l : Json.RecordLine) : String := l.render ++ "\n"

/-- Runs `import`: what it printed and its error. -/
def runImportCommand (d : Disk) (root : String) (shard : Nat) (selection : Selection) :
    String × Option Report :=
  let finish := fun (lines : List String) (e : Option DumpError) =>
    (String.join lines, e.map Report.ofDumpError)
  match selection with
  | .records =>
    match importRecords d root shard with
    | .error e => ("", some (Report.ofDumpError e))
    | .ok r =>
      let (records, e, _) := Reader.collect d r
      finish (records.map fun x => jsonLine (Json.RecordLine.ofRecord x)) e
  | .vectors =>
    match importVectors d root shard with
    | .error e => ("", some (Report.ofDumpError e))
    | .ok (ids, vectors) =>
      let (pairs, e) := pairUpTo d (Reader.bound d ids) ids vectors
      finish (pairs.map fun (id, v) => jsonLine ⟨id, some v, none⟩) e
  | .metas =>
    match importMetas d root shard with
    | .error e => ("", some (Report.ofDumpError e))
    | .ok (ids, metas) =>
      let (pairs, e) := pairUpTo d (Reader.bound d ids) ids metas
      finish (pairs.map fun (id, m) => jsonLine ⟨id, none, some (Text.decodeLossy m)⟩) e

/-- The JSON document of an inspection. -/
def statsJson (s : DumpStats) : JsonValue :=
  let count := fun (n : Nat) => JsonValue.number (toString n)
  .object [("root", .string s.root), ("shards", .array (s.shards.map fun st =>
    .object ([("shard", count st.shard), ("ids", count st.ids), ("vectors", count st.vectors),
      ("metas", count st.metas), ("elements", count st.elements)]
      ++ (st.error.map fun e => ("error", JsonValue.string e)).toList)))]

/-- The text report of an inspection. -/
def statsText (s : DumpStats) : String :=
  "Dump: " ++ s.root ++ "\n"
    ++ String.join (s.shards.map fun st =>
      "  " ++ (if st.isConsistent then "✓" else "✗") ++ " shard " ++ toString st.shard
        ++ ": ids=" ++ toString st.ids ++ " vectors=" ++ toString st.vectors
        ++ " metas=" ++ toString st.metas ++ " elements=" ++ toString st.elements ++ "\n"
        ++ match st.error with
          | some e => "      " ++ e ++ "\n"
          | none => "")
    ++ "  Shards: " ++ toString s.shards.length ++ "\n"
    ++ "  Records: " ++ toString s.totalRecords ++ "\n"
    ++ (if s.isConsistent then "✓ Dump is consistent\n" else "✗ Dump is inconsistent\n")

/-- Runs `inspect`: what it printed and its error. -/
def runInspectCommand (d : Disk) (root : String) (format : ReportFormat) : String × Option Report :=
  match inspect d root with
  | .error e => ("", some (Report.wrap ("Failed to inspect " ++ root) (Report.ofDumpError e)))
  | .ok stats =>
    let out := match format with
      | .json => Json.pretty 0 (statsJson stats) ++ "\n"
      | .text => statsText stats
    (out, if stats.isConsistent then none else some ⟨"Dump at " ++ root ++ " is inconsistent", []⟩)

/-- The log levels understood, in upper case. -/
def logLevels : List String := ["TRACE", "DEBUG", "INFO", "WARN", "WARNING", "ERROR"]

/-- The warning for a log level that is not understood, if the chosen one is not. -/
def logWarning (level : Option String) : String :=
  match level.map Text.toUpper with
  | some l => if logLevels.contains l then "" else "Warning: Unknown log-level '" ++ l ++ "', defaulting to WARN\n"
  | none => ""

/-- Runs a command with its settings. -/
def runCommand (d : Disk) (settings : Settings) : Command → String × Option Report × Disk
  | .exportDump input root shards => runExportCommand d input root (shards.getD settings.defaultShards)
  | .importShard root shard selection =>
    let (out, e) := runImportCommand d root shard selection
    (out, e, d)
  | .inspectDump root format =>
    let (out, e) := runInspectCommand d root format
    (out, e, d)

end Cli

/-- Runs `vd` with the words after the program name, on a disk. -/
def runLine (d : Disk) (words : List String) : Outcome :=
  match Invocation.parse words with
  | .error stop =>
    if stop.toStdout then ⟨stop.status, stop.text, "", d⟩ else ⟨stop.status, "", stop.text, d⟩
  | .ok inv =>
    match Settings.load d inv.config with
    | .error r => ⟨1, "", (Report.wrap "Failed to load configuration" r).render ++ "\n", d⟩
    | .ok settings =>
      let warning := Cli.logWarning (inv.logLevel.orElse fun _ => settings.logLevel)
      let (out, e, d') := Cli.runCommand d settings inv.command
      match e with
      | none => ⟨0, out, warning, d'⟩
      | some r => ⟨1, out, warning ++ r.render ++ "\n", d'⟩

end ShardDump
