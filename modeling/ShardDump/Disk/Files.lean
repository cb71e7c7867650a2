import ShardDump.Disk.Basic

/-!
# Whole files

Operations on files as a whole: writing, appending, cutting to a length, reading, reading
as text, and listing everything below a directory.
-/

namespace ShardDump

namespace Disk

/-- Creates or empties the file at `path` and writes `bytes` into it. -/
def writeFile (d : Disk) (path : String) (bytes : Bytes) : Except Errno Disk := do
  let (i, d) ← d.openWrite path true
  pure (d.append i bytes)

/-- Appends `bytes` to the file at `path`, creating it if missing. -/
def appendFile (d : Disk) (path : String) (bytes : Bytes) : Except Errno Disk := do
  let (i, d) ← d.openWrite path false
  pure (d.append i bytes)

/-- Sets the length of the existing file at `path`, to `length`, or to its length less
`length` (at least zero) when `fromEnd` is set; a longer file is padded with zeros. -/
def truncateFile (d : Disk) (path : String) (length : Nat) (fromEnd : Bool) :
    Except Errno (Nat × Disk) := do
  let i ← d.openExisting path
  let bytes := d.content i
  let newLength := if fromEnd then bytes.length - length else length
  let cut := bytes.take newLength ++ List.replicate (newLength - bytes.length) 0
  pure (newLength, d.setContent i cut)

/-- The bytes of the file at `path`. -/
def fileBytes (d : Disk) (path : String) : Except Errno Bytes := do
  let h ← d.openRead path
  d.readAll h

/-- The error for bytes that are not valid UTF-8. -/
def invalidTextError : IoError := .custom .invalidData "stream did not contain valid UTF-8"

/-- The text of the file at `path`, which must be valid UTF-8. -/
def readText (d : Disk) (path : String) : Except IoError String :=
  match d.fileBytes path with
  | .error e => .error (.os e)
  | .ok bytes =>
    match String.fromUTF8? ⟨bytes.toArray⟩ with
    | some s => .ok s
    | none => .error invalidTextError

/-- How an entry is listed: a directory with a final slash, any other entry with its
size in bytes. -/
def describe (d : Disk) (rel : String) : Node → String
  | .directory => rel ++ "/"
  | .file i => rel ++ " " ++ toString (d.content i).length
  | .socket => rel ++ " 0"

/-- Every entry below the directory at `path`, by relative path, sorted. -/
def tree (d : Disk) (path : String) : Except Errno (List String) := do
  let r ← d.walk path
  match r.node with
  | none => .error .noEntry
  | some .directory =>
    let lines := (d.below r.path).map fun (rel, n) => d.describe ("/".intercalate rel) n
    pure (lines.mergeSort fun a b => decide (a ≤ b))
  | some _ => .error .notADirectory

end Disk

end ShardDump
