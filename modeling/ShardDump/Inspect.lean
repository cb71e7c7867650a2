import ShardDump.Reader.Records

/-!
# Inspecting a dump

Inspecting a shard counts the items of its ids, vectors and metas files, in that order,
up to the first fault. A missing path or damage to a file is recorded in the shard's
statistics and ends the count; any other error ends the inspection. A shard is consistent
when nothing was recorded and the three counts agree; a dump is consistent when its
shards are numbered `0, 1, …` without a gap and each is consistent.
-/

namespace ShardDump

/-- What inspecting one shard found. -/
structure ShardStats where
  shard : Nat
  ids : Nat := 0
  vectors : Nat := 0
  metas : Nat := 0
  /-- The number of values in all vectors counted. -/
  elements : Nat := 0
  /-- The message of the fault that ended the count, if any. -/
  error : Option String := none
  deriving DecidableEq, Repr

namespace ShardStats

/-- Whether the shard has no fault and its three files hold the same number of items. -/
def isConsistent (s : ShardStats) : Bool :=
  s.error.isNone && s.ids == s.vectors && s.vectors == s.metas

end ShardStats

/-- What inspecting a dump found. -/
structure DumpStats where
  root : String
  shards : List ShardStats
  deriving DecidableEq, Repr

namespace DumpStats

/-- The number of ids in all shards. -/
def totalRecords (s : DumpStats) : Nat := (s.shards.map ShardStats.ids).foldr (· + ·) 0

/-- Whether shard `i` is the `i`-th listed, for every `i`, and every shard is consistent. -/
def isConsistent (s : DumpStats) : Bool :=
  (List.range s.shards.length).zip s.shards |>.all fun (i, st) => st.shard == i && st.isConsistent

end DumpStats

/-- Records a missing path or damage in the statistics; passes any other error on. -/
def recordFault (stats : ShardStats) (e : DumpError) : Except DumpError ShardStats :=
  if e.isNotFound || e.isCorrupt then .ok { stats with error := some e.message } else .error e

/-- Counts the files of one shard. -/
def inspectShard (d : Disk) (root : String) (shard : Nat) : Except DumpError ShardStats :=
  let stats : ShardStats := { shard }
  match ShardFiles.existing d root shard with
  | .error e => recordFault stats e
  | .ok files =>
    match IdReader.open? d files.ids with
    | .error e => recordFault stats e
    | .ok ids =>
      let (idItems, idFault, _) := Reader.collect d ids
      let stats := { stats with ids := idItems.length }
      match idFault with
      | some e => recordFault stats e
      | none =>
        match VectorReader.open? d files.vectors with
        | .error e => recordFault stats e
        | .ok vectors =>
          let (vectorItems, vectorFault, _) := Reader.collect d vectors
          let stats := { stats with vectors := vectorItems.length,
                                    elements := (vectorItems.map List.length).foldr (· + ·) 0 }
          match vectorFault with
          | some e => recordFault stats e
          | none =>
            match FrameReader.open? d files.metas with
            | .error e => recordFault stats e
            | .ok metas =>
              let (metaItems, metaFault, _) := Reader.collect d metas
              let stats := { stats with metas := metaItems.length }
              match metaFault with
              | some e => recordFault stats e
              | none => .ok stats

/-- Inspects every shard of the dump at `root`, in ascending order. -/
def inspect (d : Disk) (root : String) : Except DumpError DumpStats := do
  let shards ← listShards d root
  let stats ← shards.mapM (inspectShard d root)
  pure ⟨root, stats⟩

end ShardDump
