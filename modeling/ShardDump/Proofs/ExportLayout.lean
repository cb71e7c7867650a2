import ShardDump.Proofs.ExportFailure

/-!
# The bytes an export leaves on disk

`Disk.listing` shows everything below a directory, by relative path, with what each entry
holds: a directory, or a file with its bytes. Below the root of a successful export it shows the
directories `0` to `n - 1` in order, each holding exactly the files `ids`, `vectors` and `metas`
(`export_lays_out_shards`). Shard `i` holds the records of the source from position
`i * (t / n)` on, as many as the plan gives it, written as follows:

* `ids`: each id's UTF-8 bytes and a newline byte;
* `vectors`: for each vector its length in bytes, eight per value, as a four-byte
  little-endian word, then each value's eight bytes;
* `metas`: for each metadata its length as a four-byte little-endian word, then its bytes.

A shard the plan gives no records holds three empty files, with no terminator. How large the
write buffers of the files are decides when these bytes reach the disk, not which bytes do, so
no buffer size enters the export.
-/

namespace ShardDump

/-- What an entry of a disk holds, seen from outside: a directory, a file with its bytes, or
a socket. -/
inductive Entry where
  | directory
  | file (bytes : Bytes)
  | socket
  deriving DecidableEq, Repr

namespace Disk

/-- What the node `n` of the disk holds. -/
def entryOf (d : Disk) : Node → Entry
  | .directory => .directory
  | .file i => .file (d.content i)
  | .socket => .socket

/-- Every entry below the directory `dir`, by its path relative to it, with what it holds. -/
def listing (d : Disk) (dir : List String) : List (List String × Entry) :=
  (d.below dir).map fun e => (e.1, d.entryOf e.2)

end Disk

/-- The entries of shard `i` holding the records `recs`, relative to the root of the dump: its
directory, then its files of id lines, vector frames and metadata frames. -/
def shardLayout (i : Nat) (recs : List Record) : List (List String × Entry) :=
  [([toString i], .directory),
   ([toString i, idsFileName], .file (recs.map fun r => r.id.toUTF8.toList ++ [10]).flatten),
   ([toString i, vectorsFileName],
     .file (recs.map fun r => leBytes 4 (8 * r.vector.length) ++ encodeVector r.vector).flatten),
   ([toString i, metasFileName],
     .file (recs.map fun r => leBytes 4 r.metadata.length ++ r.metadata).flatten)]

/-! ## The bytes of the three files -/

theorem idsBytes_eq (recs : List Record) :
    idsBytes recs = (recs.map fun r => r.id.toUTF8.toList ++ [10]).flatten := by
  simp only [idsBytes, idLine_eq]
  rfl

theorem vectorsBytes_eq (recs : List Record) :
    vectorsBytes recs =
      (recs.map fun r => leBytes 4 (8 * r.vector.length) ++ encodeVector r.vector).flatten := by
  simp only [vectorsBytes, Frame.encode, Record.vectorBytes, length_encodeVector]
  rfl

theorem metasBytes_eq (recs : List Record) :
    metasBytes recs = (recs.map fun r => leBytes 4 r.metadata.length ++ r.metadata).flatten := rfl

/-! ## What lies below the root -/

namespace Disk

section Listing

variable {d : Disk} {root : String} {top : List String} {shards : List (List Record)}

/-- Below an empty root, the disk with shards added holds the shards' entries, relative to the
root, and nothing else. -/
theorem below_withShards (hroot : d.EmptyDir root top) :
    (d.withShards top shards).below top =
      (List.range shards.length).flatMap (shardEntries [] d.inodes.length) := by
  -- nothing of the disk before lay strictly below the root
  have hold : d.entries.filterMap (fun e =>
      if top.isPrefixOf e.1 ∧ e.1.length > top.length then some (e.1.drop top.length, e.2)
      else none) = [] := by
    refine List.filterMap_eq_nil_iff.2 fun e he => ?_
    rw [if_neg]
    rintro ⟨hpre, hlong⟩
    have heq := hroot.fresh e he (List.isPrefixOf_iff_prefix.1 hpre)
    rw [heq] at hlong
    exact Nat.lt_irrefl _ hlong
  unfold below withShards
  dsimp only
  rw [List.filterMap_append, hold, List.nil_append, List.filterMap_flatMap]
  refine List.flatMap_congr fun i _ => ?_
  simp [shardEntries, List.isPrefixOf_iff_prefix]

/-- The listing below an empty root, once the shards are added: shard `i`'s directory and its
three files holding the bytes of its records, shard after shard. -/
theorem listing_withShards (hroot : d.EmptyDir root top) :
    (d.withShards top shards).listing top =
      (List.range shards.length).flatMap fun i => shardLayout i (shards.getD i []) := by
  rw [listing, below_withShards hroot, List.map_flatMap]
  refine List.flatMap_congr fun i hi => ?_
  have hi : i < shards.length := List.mem_range.1 hi
  have hids := content_withShards d top hi (show 0 < 3 by decide)
  have hvectors := content_withShards d top hi (show 1 < 3 by decide)
  have hmetas := content_withShards d top hi (show 2 < 3 by decide)
  have hget : shards.getD i [] = shards[i] := (List.getElem_eq_getD []).symm
  rw [Nat.add_zero] at hids
  simp only [shardContents, List.getD_cons_zero, List.getD_cons_succ] at hids hvectors hmetas
  simp only [shardEntries, List.nil_append, List.map_cons, List.map_nil, entryOf, hids, hvectors,
    hmetas, shardLayout, hget, idsBytes_eq, vectorsBytes_eq, metasBytes_eq]

end Listing

end Disk

/-! ## A successful export -/

/-- After an export into a root that did not exist succeeds, with `n` shards and the first `t`
items of the source records that pass the checks, whatever follows them: the root is a
directory, and below it are exactly the shard directories `0` to `n - 1`, each holding exactly
its three files, with the records from position `i * (t / n)` on, as many as the plan gives
shard `i`, written as id lines, vector frames and metadata frames. -/
theorem export_lays_out_shards {d : Disk} (hclosed : d.Closed) {root : String}
    (hpresent : d.present root = false) {n : Nat} (hn : 0 < n) (hnw : n ≤ Text.wordBound)
    {t : Nat} {rs : List Record} (hlen : rs.length = t) (hvalid : ∀ r ∈ rs, r.validate = .ok ())
    (rest : List SourceItem) {s : ExportSummary}
    (hok : (runExport d root n t (rs.map .ok ++ rest)).result = .ok s) :
    ∃ top w, (runExport d root n t (rs.map .ok ++ rest)).disk.walk root =
        .ok ⟨top, some .directory, w⟩ ∧
      (runExport d root n t (rs.map .ok ++ rest)).disk.listing top =
        (List.range n).flatMap fun i =>
          shardLayout i ((rs.drop (i * (t / n))).take (ShardPlan.sizeOf ⟨t, n, hn⟩ i)) := by
  set p : ShardPlan := ⟨t, n, hn⟩
  rcases hrc : rootCreated d root with e | d₁
  · -- a root that cannot be made fails the export
    have hfail := (@runExport_of_rootCreated_error d root n t e hpresent hn hrc
      (rs.map .ok ++ rest)).1
    rw [hfail] at hok
    cases hok
  obtain ⟨top, htop⟩ := emptyDir_of_rootCreated hclosed hrc
  -- the first `t` items are the records, so every shard is filled
  have htake : (rs.map .ok ++ rest : List SourceItem).take t = rs.map .ok := by
    rw [List.take_append_of_le_length (by simp [hlen]), List.take_of_length_le (by simp [hlen])]
  have hrecords : ((rs.map .ok ++ rest : List SourceItem).take p.total).map SourceItem.toRecord =
      rs.map .ok := by
    rw [show p.total = t from rfl, htake, List.map_map]
    exact List.map_congr_left fun r hr => SourceItem.toRecord_ok_iff.2 ⟨rfl, hvalid r hr⟩
  obtain ⟨-, -, hdisk⟩ := (stopsAt_of_rootCreated p hpresent hnw hrc htop
    (rs.map .ok ++ rest)).complete rs hrecords (by simp [p, hlen])
  obtain ⟨w, hw⟩ : ∃ w, (d₁.withShards top ((List.range n).map (shardSlice p.sizeOf rs))).walk root =
      .ok ⟨top, some .directory, w⟩ := Disk.walk_root_withShards htop
  refine ⟨top, w, by rw [hdisk, hw], ?_⟩
  rw [hdisk, Disk.listing_withShards htop, List.length_map, List.length_range]
  -- shard `i` starts after `i` shares of `t / n` records
  refine List.flatMap_congr fun i hi => ?_
  have hi : i < n := List.mem_range.1 hi
  have hstart : offset p.sizeOf i = i * (t / n) := by
    rw [p.offset_sizeOf (Nat.le_of_lt hi), if_pos hi]
    rfl
  have hlt : i < ((List.range n).map (shardSlice p.sizeOf rs)).length := by simpa using hi
  have hget : ((List.range n).map (shardSlice p.sizeOf rs)).getD i [] =
      ((List.range n).map (shardSlice p.sizeOf rs))[i] :=
    (List.getElem_eq_getD []).symm
  rw [hget, List.getElem_map, List.getElem_range, shardSlice, hstart]

/-- Three records exported into two shards, the source going on with a bad item past them: the
first shard holds `a`, the second `b` and `c`. -/
theorem export_lays_out_three_records :
    ∃ top w, (runExport {} "dump" 2 3
        (([⟨"a", [⟨0x3ff0000000000000⟩], [109]⟩, ⟨"b", [⟨0⟩], [110]⟩, ⟨"c", [⟨0⟩, ⟨0⟩], [111]⟩] :
          List Record).map .ok ++ [.error "bad"])).disk.walk "dump" =
        .ok ⟨top, some .directory, w⟩ ∧
      (runExport {} "dump" 2 3
        (([⟨"a", [⟨0x3ff0000000000000⟩], [109]⟩, ⟨"b", [⟨0⟩], [110]⟩, ⟨"c", [⟨0⟩, ⟨0⟩], [111]⟩] :
          List Record).map .ok ++ [.error "bad"])).disk.listing top =
        (List.range 2).flatMap fun i =>
          shardLayout i ((([⟨"a", [⟨0x3ff0000000000000⟩], [109]⟩, ⟨"b", [⟨0⟩], [110]⟩,
            ⟨"c", [⟨0⟩, ⟨0⟩], [111]⟩] : List Record).drop (i * (3 / 2))).take
              (ShardPlan.sizeOf ⟨3, 2, by decide⟩ i)) :=
  @export_lays_out_shards {} (fun e he => by simp at he) "dump" rfl 2 (by decide) (by decide) 3 _
    rfl (by decide) [.error "bad"] ⟨"dump", [⟨0, "dump/0", 1⟩, ⟨1, "dump/1", 2⟩]⟩ (by decide +kernel)

end ShardDump
