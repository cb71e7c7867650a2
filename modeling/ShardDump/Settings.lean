import ShardDump.Yaml.Document
import ShardDump.Yaml.Scalar
import ShardDump.Report
import ShardDump.Disk.Files

/-!
# Settings

Settings come from a YAML mapping with three optional keys: `default_shards`, the shard
count of an export that names none (1 when left out); `buffer_size`, the write buffer of
an export (65536); and `log_level`. Other keys are ignored, whatever their values. The
counts must be plain scalars that write unsigned integers, whatever their tags, or
literal block scalars tagged as integers that do, and `default_shards` must be at least 1.
An alias given as a key or a setting stands for the node its anchor names. Passing over
the value of another key passes an alias as it is, so a node that refers to itself is
never followed round.

The first document of the text is read as far as it goes. The settings are taken from its
items, so a value refused early is reported before a syntax error further on. Then the
error, if there was one, and then a second document, if there is one, are refused.

Without a named file, the settings are read from `vecdump.yml` in the working directory
or else from `.config/vecdump/vecdump.yml`, whichever exists first, and are the defaults
when neither does.
-/

namespace ShardDump

/-- The settings of a run. -/
structure Settings where
  defaultShards : Nat
  bufferSize : Nat
  logLevel : Option String
  deriving DecidableEq, Repr

namespace Settings

/-- The settings when nothing is set. -/
def defaults : Settings := ⟨1, 65536, none⟩

/-- What an error calls the settings as a whole. -/
def typeName : String := "struct Config"

/-- A message placed at a mark, under a key when one is given; the very start of the text
is not named. -/
def placed (key : Option String) (message : String) (mark : Yaml.Mark) : String :=
  (match key with
    | some k => k ++ ": "
    | none => "") ++ message
    ++ (if mark.isOrigin then "" else " at " ++ mark.text)

/-- What a reader that expected `expected` says of a scalar it did not take. A scalar
with a core tag names a value of that kind, and one whose text is not of that kind is an
invalid value. A plain scalar with no tag, or with a local tag, names what it means;
any other scalar names its text. -/
def scalarRefusal (tag : Option String) (text : String) (style : Yaml.ScalarStyle)
    (expected : String) : String :=
  let wrongType (what : String) := "invalid type: " ++ what ++ ", expected " ++ expected
  let wrongValue (kind : String) :=
    "invalid value: string " ++ Text.quoteLiteral text ++ ", expected " ++ kind
  let meaning := wrongType (Yaml.classify text).describe
  let asText := wrongType ("string " ++ Text.quoteLiteral text)
  match tag with
  | some t =>
    if t == Yaml.boolTag then
      match Yaml.boolOf text with
      | some b => wrongType (Yaml.PlainValue.bool b).describe
      | none => wrongValue "a boolean"
    else if t == Yaml.intTag then
      match Yaml.intOf text with
      | some v => wrongType v.describe
      | none => wrongValue "an integer"
    else if t == Yaml.floatTag then
      match Yaml.floatOf text.toList with
      | some x => wrongType (Yaml.PlainValue.float x).describe
      | none => wrongValue "a float"
    else if t == Yaml.nullTag then
      if Yaml.isNullWord text then wrongType "unit value" else wrongValue "null"
    else if t.startsWith "!" && style == .plain then meaning
    else asText
  | none => if style == .plain then meaning else asText

/-- The message when the document ends before an item was found. -/
def endOfDocument : String := "EOF while parsing a value"

/-- What a reader that expected `expected` says of an item it did not take, under a key
when one is given, at the item's mark. -/
def refusal (key : Option String) (item : Yaml.Item) (mark : Yaml.Mark) (expected : String) :
    String :=
  match item with
  | .scalar tag text style => placed key (scalarRefusal tag text style expected) mark
  | .sequenceStart => placed key ("invalid type: sequence, expected " ++ expected) mark
  | .mappingStart => placed key ("invalid type: map, expected " ++ expected) mark
  | _ => endOfDocument

/-- The item at a position, or the error that ends the document before it. -/
def itemAt (d : Yaml.Document) (pos : Nat) : Except String (Yaml.Item × Yaml.Mark) :=
  match d.items[pos]? with
  | some im => .ok im
  | none => .error (d.error.getD endOfDocument)

/-- The item that the item at `pos` stands for, with its mark: for an alias, the node it
refers to. -/
def resolvedAt (d : Yaml.Document) (pos : Nat) : Except String (Yaml.Item × Yaml.Mark) := do
  let im ← itemAt d pos
  match im.1 with
  | .alias anchor =>
    match d.target? anchor with
    | some target => itemAt d target
    | none => throw endOfDocument
  | _ => pure im

/-- Whether a scalar is read as a number of the kind `tag` names: a plain scalar, whatever
its tag, or a literal block scalar tagged exactly so. -/
def readsAsNumber (tag : String) (scalarTag : Option String) (style : Yaml.ScalarStyle) : Bool :=
  style == .plain || (style == .literal && scalarTag == some tag)

/-- A count: a scalar read as an integer that writes an unsigned integer fitting a 64-bit
word. -/
def countAt (d : Yaml.Document) (key : String) (pos : Nat) : Except String Nat := do
  let (item, mark) ← resolvedAt d pos
  let refused := refusal (some key) item mark "usize"
  match item with
  | .scalar tag text style =>
    if readsAsNumber Yaml.intTag tag style then
      match Yaml.unsignedBelow (Nat.pow 2 64) text.toList with
      | some n => pure n
      | none => throw refused
    else throw refused
  | _ => throw refused

/-- An optional text. A plain scalar is none when it is empty or a word for null, and a
plain one tagged as null must be such a word; any other scalar is its text. A
collection is refused at its mark; a null tag on another word is refused at
`mappingMark`, the mark of the settings' mapping. -/
def optionalTextAt (d : Yaml.Document) (key : String) (mappingMark : Yaml.Mark) (pos : Nat) :
    Except String (Option String) := do
  let (item, mark) ← resolvedAt d pos
  match item with
  | .scalar tag text style =>
    if style != .plain then pure (some text)
    else
      match tag with
      | some t =>
        if t == Yaml.nullTag then
          if Yaml.isNullWord text then pure none
          else
            throw (placed none ("invalid value: string " ++ Text.quoteLiteral text ++
              ", expected null") mappingMark)
        else pure (some text)
      | none => pure (if text.isEmpty || Yaml.isNullWord text then none else some text)
  | .sequenceStart | .mappingStart => throw (refusal (some key) item mark "a string")
  | _ => pure none

/-- Passes over items from `pos` while `depth` collections are open, or over one node when
none is: gives the position after it. An alias is passed like a scalar. -/
def skipFrom (d : Yaml.Document) : Nat → Nat → Nat → Except String Nat
  | 0, _, pos => pure pos
  | fuel + 1, depth, pos => do
    let (item, _) ← itemAt d pos
    match item with
    | .sequenceStart | .mappingStart => skipFrom d fuel (depth + 1) (pos + 1)
    | .sequenceEnd | .mappingEnd =>
      if depth ≤ 1 then pure (pos + 1) else skipFrom d fuel (depth - 1) (pos + 1)
    | _ => if depth == 0 then pure (pos + 1) else skipFrom d fuel depth (pos + 1)

/-- The position after the node at `pos`, with everything nested in it. Every step moves
past an item, so a bound of one more than the items never runs out first. -/
def skipNode (d : Yaml.Document) (pos : Nat) : Except String Nat :=
  skipFrom d (d.items.size + 1) 0 pos

/-- The key at `pos`: the text it names, and how messages about its value name it, `?`
for an alias. A key that is not a scalar is refused. -/
def keyAt (d : Yaml.Document) (pos : Nat) : Except String (String × String) := do
  let im ← itemAt d pos
  let (item, mark) ← resolvedAt d pos
  match item with
  | .scalar _ text _ =>
    pure (text, match im.1 with
      | .alias _ => "?"
      | _ => text)
  | _ => throw (refusal none item mark "field identifier")

/-- Whether a key names a setting. -/
def isKnown (key : String) : Bool :=
  key == "default_shards" || key == "buffer_size" || key == "log_level"

/-- Reads the entries of the settings' mapping from `pos` to its end, refusing a known key
given twice at the mapping's mark. -/
def readEntries (d : Yaml.Document) (mappingMark : Yaml.Mark) :
    Nat → Nat → List String → Settings → Except String Settings
  | 0, _, _, s => pure s
  | fuel + 1, pos, seen, s => do
    let (item, _) ← itemAt d pos
    match item with
    | .mappingEnd | .void => pure s
    | _ =>
      let (field, label) ← keyAt d pos
      let pos := pos + 1
      if isKnown field && seen.contains field then
        throw (placed none ("duplicate field `" ++ field ++ "`") mappingMark)
      let seen := if isKnown field then field :: seen else seen
      match field with
      | "default_shards" => do
        let v ← countAt d label pos
        readEntries d mappingMark fuel (pos + 1) seen { s with defaultShards := v }
      | "buffer_size" => do
        let v ← countAt d label pos
        readEntries d mappingMark fuel (pos + 1) seen { s with bufferSize := v }
      | "log_level" => do
        let v ← optionalTextAt d label mappingMark pos
        readEntries d mappingMark fuel (pos + 1) seen { s with logLevel := v }
      | _ => do
        let pos ← skipNode d pos
        readEntries d mappingMark fuel pos seen s

/-- The settings of a document: a mapping, or nothing at all (no document, or an empty
plain scalar) for the defaults. -/
def ofDocument (d : Yaml.Document) : Except String Settings := do
  let (item, mark) ← itemAt d 0
  match item with
  | .mappingStart => readEntries d mark (d.items.size + 1) 1 [] defaults
  | .void => pure defaults
  | .scalar _ text .plain =>
    if text.isEmpty then pure defaults else throw (refusal none item mark typeName)
  | _ => throw (refusal none item mark typeName)

/-- Reads settings from YAML text. The first document is read as far as it goes; an
error after what the settings took is reported next, and then a second document. -/
def parse (text : String) : Except String Settings := do
  let (d, rest) := Yaml.Document.first text
  let s ← ofDocument d
  if let some e := d.error then throw e
  if rest.any Yaml.EventReader.hasMore then throw Yaml.moreThanOneDocument
  pure s

/-- Reads and checks the settings file at `path`. -/
def loadFile (d : Disk) (path : String) : Except Report Settings := do
  let text ← match d.readText path with
    | .ok t => .ok t
    | .error e => .error (Report.wrap "Failed to read config file" (Report.ofIo e))
  let s ← match parse text with
    | .ok s => .ok s
    | .error m => .error ⟨"Failed to parse config file", [m]⟩
  if s.defaultShards = 0 then .error ⟨"default_shards must be at least 1", []⟩ else .ok s

/-- The places searched for settings when none is named. -/
def searchPaths : List String := ["vecdump.yml", ".config/vecdump/vecdump.yml"]

/-- The settings of a run: from the named file, or else from the first search path that
exists, or else the defaults. -/
def load (d : Disk) (named : Option String) : Except Report Settings :=
  match named with
  | some path =>
    match loadFile d path with
    | .ok s => .ok s
    | .error r => .error (Report.wrap ("Failed to load config from " ++ path) r)
  | none =>
    match searchPaths.find? d.present with
    | some path => loadFile d path
    | none => .ok defaults

end Settings

end ShardDump
