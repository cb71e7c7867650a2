import ShardDump.Text.Case

/-!
# Choices named on the command line

What `import` prints of a shard, and how `inspect` writes its report. Each is read from
a word compared without regard to ASCII case; a word that names none of the choices is
refused with a message that lists the accepted words.
-/

namespace ShardDump

/-- The files of a shard that `import` reads. -/
inductive Selection where
  /-- Ids, vectors and metadata together. -/
  | records
  /-- Ids and vectors. -/
  | vectors
  /-- Ids and metadata. -/
  | metas
  deriving DecidableEq, Repr

namespace Selection

/-- All selections. -/
def all : List Selection := [.records, .vectors, .metas]

/-- The name of a selection. -/
def name : Selection → String
  | .records => "Records"
  | .vectors => "Vectors"
  | .metas => "Metas"

/-- Reads a selection from a word. -/
def parse (s : String) : Except String Selection :=
  match Text.asciiLower s with
  | "records" | "all" => .ok .records
  | "vectors" => .ok .vectors
  | "metas" | "metadata" => .ok .metas
  | _ => .error ("Unknown import kind: " ++ s ++ ". Use: records, vectors, or metas")

end Selection

/-- How `inspect` writes its report. -/
inductive ReportFormat where
  /-- Lines for a reader. -/
  | text
  /-- One JSON document. -/
  | json
  deriving DecidableEq, Repr

namespace ReportFormat

/-- The name of a format. -/
def name : ReportFormat → String
  | .text => "Text"
  | .json => "Json"

/-- Reads a format from a word. -/
def parse (s : String) : Except String ReportFormat :=
  match Text.asciiLower s with
  | "text" | "plain" => .ok .text
  | "json" => .ok .json
  | _ => .error ("Unknown format: " ++ s ++ ". Use: text or json")

end ReportFormat

end ShardDump
