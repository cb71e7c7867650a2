import ShardDump.Json.Reader
import ShardDump.Record
import ShardDump.Text.Utf8

/-!
# Records as JSON lines

A record line is a JSON object with a string `id`, an optional array of numbers `vector`
and an optional string `metadata`. Other keys are skipped, a known key given twice is
refused, and `id` is required; `null` counts as leaving a field out. An array is read the
same way by position: the id first, then the vector and the metadata if present.

A line becomes a record only when it has both a vector and metadata, and the metadata
is stored as the UTF-8 bytes of its text. Written back, a record's metadata is read as
UTF-8 with each bad sequence replaced, and a field that is left out is not written.
-/

namespace ShardDump

namespace Json

/-- One record as a line of JSON. -/
structure RecordLine where
  id : String
  vector : Option (List Binary64)
  metadata : Option String
  deriving DecidableEq, Repr

/-- What a record line is called in errors. -/
def recordLineName : String := "struct JsonRecord"

/-- The fields of an object read so far; the outer `Option` tells whether a key was seen. -/
structure SeenFields where
  id : Option String
  vector : Option (Option (List Binary64))
  metadata : Option (Option String)

/-- The refusal of a key given twice. -/
def duplicateField {α : Type} (name : String) : Reader α :=
  refuse ("duplicate field `" ++ name ++ "`")

/-- Reads a vector field's value. -/
def readVectorField : Reader (Option (List Binary64)) := readOption (readArray readBinary64)

/-- Reads a metadata field's value. -/
def readMetadataField : Reader (Option String) := readOption readString

/-- Reads the entries of an object after `{`, for at most `fuel` keys. -/
def readFieldsUpTo : Nat → Bool → SeenFields → Reader SeenFields
  | 0, _, seen => pure seen
  | fuel + 1, first, seen => do
    match ← nextKey first with
    | none => pure seen
    | some key =>
      if key = "id" then
        if seen.id.isSome then duplicateField "id"
        colon
        let v ← readString
        readFieldsUpTo fuel false { seen with id := some v }
      else if key = "vector" then
        if seen.vector.isSome then duplicateField "vector"
        colon
        let v ← readVectorField
        readFieldsUpTo fuel false { seen with vector := some v }
      else if key = "metadata" then
        if seen.metadata.isSome then duplicateField "metadata"
        colon
        let v ← readMetadataField
        readFieldsUpTo fuel false { seen with metadata := some v }
      else
        colon
        skipValue
        readFieldsUpTo fuel false seen

/-- Reads a record line from the entries of an object, after `{`. -/
def readByName : Reader RecordLine := do
  let seen ← readFieldsUpTo ((← get).rest.length + 1) true ⟨none, none, none⟩
  match seen.id with
  | none => refuse "missing field `id`"
  | some id => pure ⟨id, seen.vector.getD none, seen.metadata.getD none⟩

/-- Reads a record line from the elements of an array, after `[`. -/
def readByPosition : Reader RecordLine := do
  unless ← nextElement true do
    refuse ("invalid length 0, expected " ++ recordLineName ++ " with 3 elements")
  let id ← readString
  let vector ← if ← nextElement false then readVectorField else pure none
  let metadata ← if ← nextElement false then readMetadataField else pure none
  pure ⟨id, vector, metadata⟩

/-- Reads a record line, as an object or as an array. -/
def readRecordLine : Reader RecordLine := do
  match ← skipBlanks with
  | none => failAhead .eofWhileParsingValue
  | some b => placeErrors do
    if b == 91 then
      eat
      let line ← attempt readByPosition
      let closing ← attempt closeArray
      bothOrFirst line closing
    else if b == 123 then
      eat
      let line ← attempt readByName
      let closing ← attempt closeObject
      bothOrFirst line closing
    else wrongType recordLineName

namespace RecordLine

/-- Parses one line of text, or gives the message of the refusal. -/
def parse (line : String) : Except String RecordLine :=
  let input := line.toUTF8.toList
  match run readRecordLine input with
  | .ok l => .ok l
  | .error e => .error (e.message input)

/-- The record of a line that has both a vector and metadata; otherwise the reason. -/
def toRecord (l : RecordLine) : Except String Record :=
  match l.vector, l.metadata with
  | none, _ => .error ("record " ++ Text.quoteLiteral l.id ++ " has no vector")
  | some _, none => .error ("record " ++ Text.quoteLiteral l.id ++ " has no metadata")
  | some v, some m => .ok ⟨l.id, v, m.toUTF8.toList⟩

/-- The line of a record. -/
def ofRecord (r : Record) : RecordLine :=
  ⟨r.id, some r.vector, some (Text.decodeLossy r.metadata)⟩

/-- The JSON object of a line, leaving out the fields it does not have. -/
def toJson (l : RecordLine) : JsonValue :=
  .object ([("id", .string l.id)]
    ++ (l.vector.map fun v => ("vector", JsonValue.array (v.map number))).toList
    ++ (l.metadata.map fun m => ("metadata", JsonValue.string m)).toList)

/-- The compact text of a line. -/
def render (l : RecordLine) : String := Json.render l.toJson

end RecordLine

end Json

end ShardDump
