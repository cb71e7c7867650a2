import ShardDump.Disk.Basic
import ShardDump.DumpError
import ShardDump.Text.Decimal

/-!
# Layout of a dump

Shard `i` of a dump at `root` is the directory `root/i` with three files: `ids`, one
line per record, and `vectors` and `metas`, one frame per record. Discovering the shards
of a dump lists the directories of the root whose names read as shard numbers, in
ascending order.
-/

namespace ShardDump

/-- The name of the file of ids. -/
def idsFileName : String := "ids"

/-- The name of the file of vector frames. -/
def vectorsFileName : String := "vectors"

/-- The name of the file of metadata frames. -/
def metasFileName : String := "metas"

/-- The directory of shard `shard`. -/
def shardDir (root : String) (shard : Nat) : String := Path.join root (toString shard)

/-- The paths of one shard. -/
structure ShardFiles where
  dir : String
  ids : String
  vectors : String
  metas : String
  deriving DecidableEq, Repr

namespace ShardFiles

/-- The paths of shard `shard` of the dump at `root`. -/
def ofShard (root : String) (shard : Nat) : ShardFiles :=
  let dir := shardDir root shard
  { dir, ids := Path.join dir idsFileName, vectors := Path.join dir vectorsFileName,
    metas := Path.join dir metasFileName }

/-- The paths in the order they are checked: directory, ids, vectors, metas. -/
def all (f : ShardFiles) : List String := [f.dir, f.ids, f.vectors, f.metas]

/-- The paths of a shard whose directory and files all exist; otherwise the first
missing path. -/
def existing (d : Disk) (root : String) (shard : Nat) : Except DumpError ShardFiles :=
  let f := ofShard root shard
  match f.all.find? fun p => !d.present p with
  | some p => .error (.notFound p)
  | none => .ok f

end ShardFiles

/-- The shard numbers of the directories in `root`, ascending. -/
def listShards (d : Disk) (root : String) : Except DumpError (List Nat) :=
  match d.listDirectory root with
  | .error e => .error (DumpError.ofOpen root (.os e))
  | .ok entries =>
    let found := entries.filterMap fun (name, _) =>
      if d.isDirectory (Path.join root name) then
        match Text.parseUnsigned name with
        | .ok n => some n
        | .error _ => none
      else none
    .ok (found.mergeSort (· ≤ ·))

end ShardDump
