import ShardDump.Proofs.ExportRun

/-!
# Exporting records and reading them back

An export of records that all pass the checks, into a root that does not exist and can be
made, writes every record once and in order: shard `i` holds the `i`-th slice of the plan,
and each reader of a shard gives that slice back and then stops. Making the root can fail on
its own (an empty path, a file where a parent directory should be); the export then fails
with that error before it pulls anything.
-/

namespace ShardDump

/-- What an export of the records `rs` into `root` with the plan `plan` leaves when it
succeeds: a summary of the planned shards, and shards that read back as consecutive slices
of the records. -/
structure RoundTrip (run : ExportRun) (root : String) (plan : ShardPlan) (rs : List Record) :
    Prop where
  /-- The export succeeds, with shards `0` to `count - 1` of their planned sizes. -/
  summary : run.result =
    .ok ⟨root, (List.range plan.count).map fun i => ⟨i, shardDir root i, plan.sizeOf i⟩⟩
  /-- The summary counts every record. -/
  total : ∀ s, run.result = .ok s → s.totalRecords = rs.length
  /-- The root lists exactly the shards written. -/
  listed : listShards run.disk root = .ok (List.range plan.count)
  /-- The shards hold the records cut into slices of the planned sizes, and the record,
  vector and metadata readers of each shard give its slice back and then stop. -/
  shards : ∃ slices : List (List Record), slices.length = plan.count ∧ slices.flatten = rs ∧
    ∀ i (hi : i < slices.length), slices[i].length = plan.sizeOf i ∧
      (∃ rr, importRecords run.disk root i = .ok rr ∧
        Reader.Drains run.disk rr slices[i] none) ∧
      (∃ ids vectors, importVectors run.disk root i = .ok (ids, vectors) ∧
        Reader.Drains run.disk ids (slices[i].map Record.id) none ∧
        Reader.Drains run.disk vectors (slices[i].map Record.vector) none) ∧
      (∃ ids metas, importMetas run.disk root i = .ok (ids, metas) ∧
        Reader.Drains run.disk ids (slices[i].map Record.id) none ∧
        Reader.Drains run.disk metas (slices[i].map Record.metadata) none)

/-- The empty path names no directory that can be made, so an export into it fails although
nothing is there and its one record passes the checks. -/
theorem export_into_empty_path_fails :
    ({} : Disk).present "" = false ∧
      Record.validate ⟨"a", [⟨0x3ff0000000000000⟩], [109]⟩ = .ok () ∧
      (runExport {} "" 1 1 [.ok ⟨"a", [⟨0x3ff0000000000000⟩], [109]⟩]).result =
        .error (.io (.os .noEntry)) :=
  ⟨rfl, by decide, rfl⟩

/-- Exporting valid records into a root that does not exist: a request to dump them runs the
same export; if the root cannot be made the export fails with that error having pulled
nothing; otherwise the export round-trips the records. -/
theorem export_round_trip {d : Disk} (hclosed : d.Closed) {root : String}
    (hpresent : d.present root = false) {n : Nat} (hn : 0 < n) (hnw : n ≤ Text.wordBound)
    {rs : List Record} (hvalid : ∀ r ∈ rs, r.validate = .ok ()) :
    (∀ q : DumpRequest, q.path = root → q.shards = n →
      q.execute d rs.length rs = runExport d root n rs.length (rs.map .ok)) ∧
    (∀ e, rootCreated d root = .error e →
      (runExport d root n rs.length (rs.map .ok)).result = .error e ∧
        (runExport d root n rs.length (rs.map .ok)).pulls = 0) ∧
    (∀ d₁, rootCreated d root = .ok d₁ →
      RoundTrip (runExport d root n rs.length (rs.map .ok)) root ⟨rs.length, n, hn⟩ rs) := by
  refine ⟨?_, fun e h => runExport_of_rootCreated_error hpresent hn h _, ?_⟩
  · rintro ⟨path, shards, size⟩ rfl rfl
    rfl
  intro d₁ h
  obtain ⟨top, htop⟩ := emptyDir_of_rootCreated hclosed h
  set z := ShardPlan.sizeOf ⟨rs.length, n, hn⟩
  set slices := (List.range n).map (shardSlice z rs) with hslices
  -- every record is written, so the loop fills all `n` shards
  have hlen : rs.length = offset z n := (ShardPlan.offset_sizeOf_count ⟨rs.length, n, hn⟩).symm
  have hrun : runExport d root n rs.length (rs.map .ok) =
      ⟨.ok ⟨root, (List.range n).map fun i => ⟨i, shardDir root i, z i⟩⟩,
        d₁.withShards top slices, rs.length⟩ := by
    rw [runExport_of_rootCreated ⟨rs.length, n, hn⟩ hpresent hnw h htop,
      List.take_of_length_le (by simp), SourceItem.writable_map_ok hvalid,
      ShardPlan.shardsOutcome_of_eq ⟨rs.length, n, hn⟩ root rfl]
    rfl
  have hcount : slices.length ≤ Text.wordBound := by simpa [hslices] using hnw
  have hslice : ∀ i (hi : i < slices.length), slices[i] = shardSlice z rs i := by
    intro i hi
    simp [hslices]
  have hvalid' : ∀ i (hi : i < slices.length), ∀ r ∈ slices[i], r.validate = .ok () := by
    intro i hi r hr
    rw [hslice i hi] at hr
    exact hvalid r (mem_of_mem_shardSlice hr)
  rw [hrun]
  refine ⟨rfl, ?_, Disk.listShards_withShards htop hcount |>.trans (by simp [hslices]), ?_⟩
  · rintro s ⟨⟩
    rw [ExportSummary.totalRecords_range, hlen]
  refine ⟨slices, by simp [hslices], ?_, fun i hi => ⟨?_,
    Disk.importRecords_withShards htop hcount hi (hvalid' i hi),
    Disk.importVectors_withShards htop hcount hi (hvalid' i hi),
    Disk.importMetas_withShards htop hcount hi (hvalid' i hi)⟩⟩
  · rw [hslices, flatten_map_shardSlice, ← hlen, List.take_length]
  · have hi' : i < n := by simpa [hslices] using hi
    rw [hslice i hi, length_shardSlice z (hlen ▸ offset_mono z hi')]

/-- Two records into two shards of a fresh root: one record in each shard. -/
theorem export_round_trip_two_shards :
    RoundTrip (runExport {} "dump" 2 2
        [.ok ⟨"a", [⟨0x3ff0000000000000⟩], [109]⟩, .ok ⟨"b", [⟨0⟩], [110]⟩])
      "dump" ⟨2, 2, by decide⟩
      [⟨"a", [⟨0x3ff0000000000000⟩], [109]⟩, ⟨"b", [⟨0⟩], [110]⟩] :=
  (@export_round_trip {} (fun e he => by simp at he) "dump" rfl 2 (by decide) (by decide)
    [⟨"a", [⟨0x3ff0000000000000⟩], [109]⟩, ⟨"b", [⟨0⟩], [110]⟩]
    (by decide)).2.2 ⟨[(["dump"], .directory)], []⟩ rfl

end ShardDump
