import ShardDump.IoError
import ShardDump.Text.Literal

/-!
# Errors of dumps

Every way an export, an import or an inspection can fail, with its message. Paths are
kept as the text they were built as. An error may have causes below it: a failed data
source carries the source's own message, and an input or output error carries the error
of the operating system or stream.
-/

namespace ShardDump

/-- The payload of a record that a frame carries. -/
inductive PayloadField where
  | vector
  | metadata
  deriving DecidableEq, Repr

/-- The name of the payload in messages. -/
def PayloadField.name : PayloadField → String
  | .vector => "vector"
  | .metadata => "metadata"

/-- A failure of an export, an import or an inspection. -/
inductive DumpError where
  /-- The dump's root already exists. -/
  | pathExists (path : String)
  /-- The data source ended before a shard received its records. -/
  | sourceExhausted (shard expected written : Nat)
  /-- A path of a shard is missing. -/
  | notFound (path : String)
  /-- A file of a shard does not hold well-formed frames or lines. -/
  | corruptFrame (path reason : String)
  /-- The files of a shard end at different records. -/
  | shardMismatch (shard position : Nat) (reason : String)
  /-- A dump needs at least one shard. -/
  | invalidShardCount
  /-- A record has an empty payload, which no frame can carry. -/
  | emptyPayload (id : String) (field : PayloadField)
  /-- A payload is too long for the length prefix. -/
  | payloadTooLarge (length : Nat)
  /-- A record's id holds a newline, which would split the ids file. -/
  | invalidId (id : String)
  /-- The data source reported an error. -/
  | source (message : String)
  /-- An input or output operation failed. -/
  | io (error : IoError)
  deriving DecidableEq, Repr

namespace DumpError

/-- The message of the error. -/
def message : DumpError → String
  | .pathExists path => s!"Path for dump {path} already exists, not dumping"
  | .sourceExhausted shard expected written =>
    s!"Data source exhausted in shard {shard}: expected {expected} records, got {written}"
  | .notFound path => s!"Not found: {path}"
  | .corruptFrame path reason => s!"Corrupt frame in {path}: {reason}"
  | .shardMismatch shard position reason =>
    s!"Shard {shard} files disagree at record {position}: {reason}"
  | .invalidShardCount => "Shard count must be at least 1"
  | .emptyPayload id field =>
    "Record " ++ Text.quoteLiteral id ++ " has an empty " ++ field.name ++
      " payload, which the frame format cannot represent"
  | .payloadTooLarge length =>
    s!"Payload of {length} bytes exceeds the 4-byte frame length limit"
  | .invalidId id =>
    "Invalid id " ++ Text.quoteLiteral id ++ ": ids must not contain a newline"
  | .source message => "Data source error: " ++ message
  | .io e => "I/O error: " ++ e.message

/-- The messages of the causes below the error, nearest first. -/
def causes : DumpError → List String
  | .source message => [message]
  | .io e => [e.message]
  | _ => []

/-- Whether the error is a missing path. -/
def isNotFound : DumpError → Bool
  | .notFound _ => true
  | _ => false

/-- Whether the error is damage to the files of a shard. -/
def isCorrupt : DumpError → Bool
  | .corruptFrame .. => true
  | .shardMismatch .. => true
  | _ => false

/-- The error of opening `path`: a missing path is `notFound`, anything else an
input or output error. -/
def ofOpen (path : String) (e : IoError) : DumpError :=
  if e.kind = .notFound then .notFound path else .io e

end DumpError

end ShardDump
