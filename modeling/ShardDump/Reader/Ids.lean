import ShardDump.Reader.Basic

/-!
# Reading ids

The ids file holds one id per line. A line ends at a newline, which is not part of the
id, or at the end of the file; a final newline opens no further line. A line that is not
valid UTF-8 damages the file.
-/

namespace ShardDump

/-- The reader of an ids file. -/
structure IdReader where
  /-- The path the file was opened at, for messages. -/
  path : String
  /-- The open file, until the end or an error. -/
  reader : Option BufferedReader

namespace IdReader

/-- The message for a line that is not valid UTF-8. -/
def invalidTextReason : String := "ids file is not valid UTF-8"

/-- Opens the ids file at `path`. -/
def open? (d : Disk) (path : String) : Except DumpError IdReader :=
  match d.openRead path with
  | .error e => .error (DumpError.ofOpen path (.os e))
  | .ok h => .ok ⟨path, some (BufferedReader.ofHandle h)⟩

/-- The id of a line: its text without the final newline. -/
def idOfLine (line : String) : String :=
  if line.toList.getLast? = some '\n' then String.ofList line.toList.dropLast else line

/-- Pulls the next id. -/
def next (d : Disk) (r : IdReader) : Pull String × IdReader :=
  match r.reader with
  | none => (none, r)
  | some br =>
    match br.readLine d with
    | (.error e, _) => (some (.error (.io (.os e))), { r with reader := none })
    | (.ok bytes, br') =>
      if bytes.isEmpty then (none, { r with reader := none })
      else
        match String.fromUTF8? ⟨bytes.toArray⟩ with
        | none => (some (.error (.corruptFrame r.path invalidTextReason)), { r with reader := none })
        | some line => (some (.ok (idOfLine line)), { r with reader := some br' })

instance : Reader IdReader String where
  next := next
  bound d r := match r.reader with
    | none => 1
    | some br => br.remaining d + 2

end IdReader

end ShardDump
