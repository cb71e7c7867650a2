import ShardDump.VectorPayload
import ShardDump.Frame.Basic
import ShardDump.DumpError

/-!
# Records

A record is an id, a vector and metadata bytes. A dump stores the id as one line of
the ids file and the vector and metadata as one frame each, so a record can be written
only if its id has no newline and both payloads are non-empty and fit a frame.
-/

namespace ShardDump

/-- One entry of a dump. -/
structure Record where
  /-- The record's id, one line of the ids file. -/
  id : String
  /-- The record's vector. -/
  vector : List Binary64
  /-- The record's metadata bytes. -/
  metadata : Bytes
  deriving DecidableEq, Repr

namespace Record

/-- The largest length a machine word holds; longer lengths are counted as this. -/
def wordMax : Nat := Nat.pow 2 64 - 1

/-- Refuses a payload length that the length prefix cannot hold. -/
def checkFrameLength (length : Nat) : Except DumpError Unit :=
  if Frame.lengthLimit ≤ length then .error (.payloadTooLarge length) else .ok ()

/-- Checks that the record can be written: the id has no newline, then the vector is
non-empty, then the metadata is non-empty, then both payloads fit a frame. -/
def validate (r : Record) : Except DumpError Unit :=
  if r.id.toList.contains '\n' then .error (.invalidId r.id)
  else if r.vector.isEmpty then .error (.emptyPayload r.id .vector)
  else if r.metadata.isEmpty then .error (.emptyPayload r.id .metadata)
  else do
    checkFrameLength (min (Binary64.size * r.vector.length) wordMax)
    checkFrameLength r.metadata.length

/-- The payload of the record's vector. -/
def vectorBytes (r : Record) : Bytes := encodeVector r.vector

end Record

end ShardDump
