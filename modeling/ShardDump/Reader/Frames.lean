import ShardDump.Reader.Basic
import ShardDump.VectorPayload

/-!
# Reading frames of a shard file

A `FrameReader` yields the payloads of the frames of a file in order. A file that ends
inside a frame, or a payload that cannot be decoded, damages the file and is reported as
a corrupt frame with the reason; any other read error is reported as it is.
`VectorReader` decodes each payload into a vector, and `MetaReader` yields the
payloads as they are.
-/

namespace ShardDump

/-- The reader of a file of frames. -/
structure FrameReader where
  /-- The path the file was opened at, for messages. -/
  path : String
  /-- The open file, until the end or an error. -/
  reader : Option BufferedReader

namespace FrameReader

/-- Opens the file at `path`. -/
def open? (d : Disk) (path : String) : Except DumpError FrameReader :=
  match d.openRead path with
  | .error e => .error (DumpError.ofOpen path (.os e))
  | .ok h => .ok ⟨path, some (BufferedReader.ofHandle h)⟩

/-- The error for a failed read: damage for a truncated or undecodable frame, the
read error itself otherwise. -/
def frameError (path : String) (e : IoError) : DumpError :=
  match e.kind with
  | .unexpectedEof | .invalidData => .corruptFrame path e.message
  | _ => .io e

/-- Pulls the next payload. -/
def next (d : Disk) (r : FrameReader) : Pull Bytes × FrameReader :=
  match r.reader with
  | none => (none, r)
  | some br =>
    match Frame.read (FileSource.mk d br) with
    | (.ok (some payload), s) => (some (.ok payload), { r with reader := some s.reader })
    | (.ok none, _) => (none, { r with reader := none })
    | (.error e, _) => (some (.error (frameError r.path e)), { r with reader := none })

/-- More than the number of pulls that can still give something: every frame takes at
least one byte. -/
def bound (d : Disk) (r : FrameReader) : Nat :=
  match r.reader with
  | none => 1
  | some br => br.remaining d + 2

instance : Reader FrameReader Bytes where
  next := next
  bound := bound

end FrameReader

/-- The reader of a file of metadata frames. -/
abbrev MetaReader := FrameReader

/-- The reader of a file of vector frames. -/
structure VectorReader where
  frames : FrameReader

namespace VectorReader

/-- Opens the file at `path`. -/
def open? (d : Disk) (path : String) : Except DumpError VectorReader :=
  (FrameReader.open? d path).map VectorReader.mk

/-- Pulls the next vector; a payload whose length is not a multiple of eight is damage
and ends the reader. -/
def next (d : Disk) (r : VectorReader) : Pull (List Binary64) × VectorReader :=
  match r.frames.next d with
  | (none, f) => (none, ⟨f⟩)
  | (some (.error e), f) => (some (.error e), ⟨f⟩)
  | (some (.ok payload), f) =>
    match decodeVector payload with
    | .ok v => (some (.ok v), ⟨f⟩)
    | .error e => (some (.error (FrameReader.frameError f.path e)), ⟨{ f with reader := none }⟩)

instance : Reader VectorReader (List Binary64) where
  next := next
  bound d r := r.frames.bound d

end VectorReader

end ShardDump
