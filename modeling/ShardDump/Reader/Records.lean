import ShardDump.Reader.Ids
import ShardDump.Reader.Frames
import ShardDump.Layout
import ShardDump.Record

/-!
# Reading whole records

A `RecordReader` pulls the three readers of a shard in lock-step, one item of each per
pull. When all three give an item, they form the next record. When all three have ended,
so has the reader. Otherwise the first error among ids, vectors and metas is passed on,
and without one the files disagree: some ended before the others. After an error or a
disagreement the reader ends.

Importing a shard checks that its directory and files exist, then opens the files it
needs in the order ids, vectors, metas.
-/

namespace ShardDump

/-- The reader of the records of one shard. -/
structure RecordReader where
  shard : Nat
  /-- How many records were yielded. -/
  position : Nat := 0
  ids : IdReader
  vectors : VectorReader
  metas : MetaReader
  /-- Whether the reader has ended. -/
  done : Bool := false

namespace RecordReader

/-- Whether a pull gave nothing. -/
def Pull.ended {α : Type} : Pull α → Bool
  | none => true
  | some _ => false

/-- The reason given when some files ended before the others. -/
def mismatchReason (idsEnded vectorsEnded metasEnded : Bool) : String :=
  let names := [("ids", idsEnded), ("vectors", vectorsEnded), ("metas", metasEnded)].filterMap
    fun (name, ended) => if ended then some name else none
  " and ".intercalate names ++ " ended before the other files"

/-- Pulls the next record. -/
def next (d : Disk) (r : RecordReader) : Pull Record × RecordReader :=
  if r.done then (none, r)
  else
    let (i, ids) := r.ids.next d
    let (v, vectors) := r.vectors.next d
    let (m, metas) := r.metas.next d
    let r := { r with ids, vectors, metas }
    match i, v, m with
    | none, none, none => (none, { r with done := true })
    | some (.ok id), some (.ok vector), some (.ok metadata) =>
      (some (.ok ⟨id, vector, metadata⟩), { r with position := r.position + 1 })
    | some (.error e), _, _ => (some (.error e), { r with done := true })
    | _, some (.error e), _ => (some (.error e), { r with done := true })
    | _, _, some (.error e) => (some (.error e), { r with done := true })
    | _, _, _ =>
      (some (.error (.shardMismatch r.shard r.position
        (mismatchReason (Pull.ended i) (Pull.ended v) (Pull.ended m)))), { r with done := true })

instance : Reader RecordReader Record where
  next := next
  bound d r := if r.done then 1 else Reader.bound d r.ids + 1

end RecordReader

/-- Opens the ids and vectors of a shard. -/
def importVectors (d : Disk) (root : String) (shard : Nat) :
    Except DumpError (IdReader × VectorReader) := do
  let f ← ShardFiles.existing d root shard
  let ids ← IdReader.open? d f.ids
  let vectors ← VectorReader.open? d f.vectors
  pure (ids, vectors)

/-- Opens the ids and metas of a shard. -/
def importMetas (d : Disk) (root : String) (shard : Nat) :
    Except DumpError (IdReader × MetaReader) := do
  let f ← ShardFiles.existing d root shard
  let ids ← IdReader.open? d f.ids
  let metas ← FrameReader.open? d f.metas
  pure (ids, metas)

/-- Opens the records of a shard. -/
def importRecords (d : Disk) (root : String) (shard : Nat) : Except DumpError RecordReader := do
  let f ← ShardFiles.existing d root shard
  let ids ← IdReader.open? d f.ids
  let vectors ← VectorReader.open? d f.vectors
  let metas ← FrameReader.open? d f.metas
  pure { shard, ids, vectors, metas }

end ShardDump
