import ShardDump.Layout
import ShardDump.Record
import ShardDump.ShardPlan

/-!
# Exporting records into a dump

An export refuses a root that exists and a plan without shards, before it touches the
disk or the source. It then creates the root (and the root's missing parents), and for
each shard in turn a writer over the shard's new directory and three empty files, and
pulls from the source exactly as many records as the plan gives the shard. The writer checks
each record, then appends its vector and metadata frames, which the frame writer checks
again, and its id line, and counts it. The first failure ends the export; what was written
until then stays on the disk.
-/

namespace ShardDump

/-- One item of a data source: a record, or the source's error message. -/
abbrev SourceItem := Except String Record

/-- What an export wrote into one shard. -/
structure ShardSummary where
  shard : Nat
  path : String
  records : Nat
  deriving DecidableEq, Repr

/-- What an export wrote. -/
structure ExportSummary where
  root : String
  shards : List ShardSummary
  deriving DecidableEq, Repr

/-- The number of records in all shards. -/
def ExportSummary.totalRecords (s : ExportSummary) : Nat := (s.shards.map ShardSummary.records).foldr (· + ·) 0

/-- The state of an export: the disk, the items not yet pulled, and how many pulls
were made. -/
structure ExportState where
  disk : Disk
  source : List SourceItem
  pulls : Nat

/-- Export steps: they change the state and may fail, keeping the state they reached. -/
abbrev ExportM := ExceptT DumpError (StateM ExportState)

namespace ExportM

/-- Runs a disk operation, failing with an input or output error. -/
def onDisk {α : Type} (f : Disk → Except Errno (α × Disk)) : ExportM α := do
  let s ← get
  match f s.disk with
  | .ok (a, d) => set { s with disk := d }; pure a
  | .error e => throw (.io (.os e))

/-- Pulls the next item of the source; `none` at its end. -/
def pull : ExportM (Option SourceItem) := do
  let s ← get
  match s.source with
  | [] => set { s with pulls := s.pulls + 1 }; pure none
  | item :: rest => set { s with source := rest, pulls := s.pulls + 1 }; pure (some item)

/-- Appends the frame of `payload` to a file, as the frame writer does: a payload that no
frame can carry is refused and the file is left as it was. -/
def appendFrame (file : Nat) (payload : Bytes) : ExportM Unit := do
  let s ← get
  match Frame.write (s.disk.content file) payload with
  | .ok bytes => set { s with disk := s.disk.setContent file bytes }
  | .error e => throw (.io e)

end ExportM

open ExportM

/-- Creates the root directory, after its missing parents. A root that appears in the
meantime counts as existing. -/
def createRoot (root : String) : ExportM Unit := do
  if let some up := Path.parent root then
    if !up.isEmpty then
      let s ← get
      match s.disk.makeDirectories up with
      | .ok d => set { s with disk := d }
      | .error e => throw (.io e)
  let s ← get
  match s.disk.makeDirectory root with
  | .ok d => set { s with disk := d }
  | .error .fileExists => throw (.pathExists root)
  | .error e => throw (.io (.os e))

/-- The open files of a shard being written, and how many records they hold. -/
structure ShardWriter where
  shard : Nat
  files : ShardFiles
  ids : Nat
  vectors : Nat
  metas : Nat
  written : Nat

namespace ShardWriter

/-- Creates the directory of shard `shard` and its three empty files. -/
def create (root : String) (shard : Nat) : ExportM ShardWriter := do
  let files := ShardFiles.ofShard root shard
  onDisk fun d => (d.makeDirectory files.dir).map fun d => ((), d)
  let ids ← onDisk fun d => d.openWrite files.ids true
  let vectors ← onDisk fun d => d.openWrite files.vectors true
  let metas ← onDisk fun d => d.openWrite files.metas true
  pure ⟨shard, files, ids, vectors, metas, 0⟩

/-- Appends one record: it is checked first, so that a refused record leaves the three files
aligned; then its vector frame, its metadata frame and its id line are appended. -/
def write (w : ShardWriter) (r : Record) : ExportM ShardWriter := do
  match r.validate with
  | .error e => throw e
  | .ok () =>
    appendFrame w.vectors r.vectorBytes
    appendFrame w.metas r.metadata
    modify fun s => { s with disk := s.disk.append w.ids (r.id ++ "\n").toUTF8.toList }
    pure { w with written := w.written + 1 }

/-- What the writer wrote into its shard. -/
def finish (w : ShardWriter) : ShardSummary := ⟨w.shard, w.files.dir, w.written⟩

end ShardWriter

/-- Pulls and writes `left` more records into the shard of a writer that is to hold
`expected`. -/
def fillShard (expected : Nat) : Nat → ShardWriter → ExportM ShardWriter
  | 0, w => pure w
  | left + 1, w => do
    match ← pull with
    | none => throw (.sourceExhausted w.shard expected w.written)
    | some (.error msg) => throw (.source msg)
    | some (.ok r) => fillShard expected left (← w.write r)

/-- Creates shard `shard` and fills it with `expected` records. -/
def writeShard (root : String) (shard expected : Nat) : ExportM ShardSummary := do
  let w ← ShardWriter.create root shard
  let w ← fillShard expected expected w
  pure w.finish

/-- Exports `total` records of the source into `count` shards at `root`. -/
def exportDump (root : String) (count total : Nat) : ExportM ExportSummary := do
  if (← get).disk.present root then throw (.pathExists root)
  match ShardPlan.make? total count with
  | none => throw .invalidShardCount
  | some plan =>
    createRoot root
    let shards ← (List.range count).mapM fun i => writeShard root i (plan.sizeOf i)
    pure ⟨root, shards⟩

/-- How an export ended: its summary or error, the disk afterwards, and how many
pulls it made from the source. -/
structure ExportRun where
  result : Except DumpError ExportSummary
  disk : Disk
  pulls : Nat

/-- Runs an export on a disk with a source. -/
def runExport (d : Disk) (root : String) (count total : Nat) (source : List SourceItem) :
    ExportRun :=
  let (result, s) := (exportDump root count total).run.run ⟨d, source, 0⟩
  ⟨result, s.disk, s.pulls⟩

/-- A collection of records held in memory, in the order they were added. -/
structure RecordIndex where
  records : List Record := []

namespace RecordIndex

/-- Adds a record at the end. -/
def add (x : RecordIndex) (r : Record) : RecordIndex := ⟨x.records ++ [r]⟩

/-- The number of records. -/
def size (x : RecordIndex) : Nat := x.records.length

/-- Whether there are no records. -/
def isEmpty (x : RecordIndex) : Bool := x.records.isEmpty

end RecordIndex

/-- A request to dump a collection of records: where, and into how many shards. -/
structure DumpRequest where
  path : String
  shards : Nat
  /-- The write buffer size of each file; it changes when bytes reach the disk, not
  which bytes do. -/
  bufferSize : Nat := 65536

/-- Dumps `size` records pulled from `records`, where `size` is what the collection
claims to hold. -/
def DumpRequest.execute (q : DumpRequest) (d : Disk) (size : Nat) (records : List Record) :
    ExportRun :=
  runExport d q.path q.shards size (records.map .ok)

end ShardDump
