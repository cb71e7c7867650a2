import ShardDump.Proofs.ExportRun

/-!
# Where an export stops, and what it leaves

An export pulls the items of its source in order, at most as many as its plan asks for.
The first of them that is an error, or a record that fails its checks, stops it with that
error; a source that ends early stops it with the shard, size and count it was filling.
Either way the root holds the shards up to the one the stopping position falls in, each
holding the records before that position that belong to it, and nothing else. Making the
root comes first and can fail on its own, before anything is pulled.
-/

namespace ShardDump

/-- How an export that stops at position `f` of its source ends: with the error `e`, having
pulled the item at `f` as well, and with the root holding shards `0` to `plan.shardOf f`,
cut from the records `rs` read before `f`. -/
structure FailedAt (run : ExportRun) (d₁ : Disk) (top : List String) (root : String)
    (plan : ShardPlan) (f : Nat) (rs : List Record) (e : DumpError) : Prop where
  result : run.result = .error e
  pulls : run.pulls = f + 1
  /-- Every shard below the last one holds its planned number of records. -/
  complete_below : ∀ i < plan.shardOf f, (shardSlice plan.sizeOf rs i).length = plan.sizeOf i
  listed : listShards run.disk root = .ok (List.range (plan.shardOf f + 1))
  disk : run.disk =
    d₁.withShards top ((List.range (plan.shardOf f + 1)).map (shardSlice plan.sizeOf rs))

/-- Where an export of the source `S` by the plan `plan` stops, once its root is made as the
empty directory `top` of `d₁`. -/
structure StopsAt (run : ExportRun) (d₁ : Disk) (top : List String) (root : String)
    (plan : ShardPlan) (S : List SourceItem) : Prop where
  /-- The export never pulls more items than the plan asks for. -/
  pulls_le : run.pulls ≤ plan.total
  /-- The item at `f` gives no record while those before it give the records `rs`. -/
  rejected : ∀ f, f < plan.total → ∀ (hfS : f < S.length) rs e,
    (S.take f).map SourceItem.toRecord = rs.map .ok → S[f].toRecord = .error e →
    FailedAt run d₁ top root plan f rs e
  /-- The source ends before the plan's total, every item giving a record. -/
  exhausted : ∀ rs, S.map SourceItem.toRecord = rs.map .ok → S.length < plan.total →
    FailedAt run d₁ top root plan S.length rs
      (.sourceExhausted (plan.shardOf S.length) (plan.sizeOf (plan.shardOf S.length))
        (S.length - plan.shardOf S.length * plan.perShard))
  /-- The first `plan.total` items all give records: the export succeeds, pulling no more. -/
  complete : ∀ rs, (S.take plan.total).map SourceItem.toRecord = rs.map .ok →
    plan.total ≤ S.length →
    run.result =
        .ok ⟨root, (List.range plan.count).map fun i => ⟨i, shardDir root i, plan.sizeOf i⟩⟩ ∧
      run.pulls = plan.total ∧
      run.disk = d₁.withShards top ((List.range plan.count).map (shardSlice plan.sizeOf rs))

section Stopping

variable {d d₁ : Disk} {root : String} {top : List String}

/-- An export whose records stop before the plan's total fails where they stop. -/
theorem failedAt_of_lt (p : ShardPlan) (hpresent : d.present root = false)
    (hnw : p.count ≤ Text.wordBound) (h : rootCreated d root = .ok d₁)
    (hroot : d₁.EmptyDir root top) {S : List SourceItem} {rs : List Record}
    {e : Option DumpError} (hW : SourceItem.writable (S.take p.total) = (rs, e))
    (hlt : rs.length < p.total) :
    FailedAt (runExport d root p.count p.total S) d₁ top root p rs.length rs
      (e.getD (.sourceExhausted (p.shardOf rs.length) (p.sizeOf (p.shardOf rs.length))
        (rs.length - p.shardOf rs.length * p.perShard))) := by
  have hcount : ((List.range (p.shardOf rs.length + 1)).map (shardSlice p.sizeOf rs)).length ≤
      Text.wordBound := by
    have := p.shardOf_lt_count rs.length
    simp only [List.length_map, List.length_range]
    omega
  have hbelow : ∀ i < p.shardOf rs.length, (shardSlice p.sizeOf rs i).length = p.sizeOf i :=
    fun i hi => length_shardSlice p.sizeOf
      (Nat.le_trans (offset_mono p.sizeOf hi) (p.offset_shardOf_le rs.length))
  rw [runExport_of_rootCreated p hpresent hnw h hroot S, hW, p.shardsOutcome_of_lt root hlt]
  exact ⟨rfl, rfl, hbelow, (Disk.listShards_withShards hroot hcount).trans (by simp), rfl⟩

/-- The records that the first `t` items give stop at an item before `t` that gives none. -/
theorem writable_take_of_first_error {S : List SourceItem} {t f : Nat} {rs : List Record}
    {e : DumpError} (hft : f < t) (hfS : f < S.length)
    (h : (S.take f).map SourceItem.toRecord = rs.map .ok) (he : S[f].toRecord = .error e) :
    SourceItem.writable (S.take t) = (rs, some e) := by
  have htake : (S.take t).take f = S.take f := by
    rw [List.take_take, Nat.min_eq_left (Nat.le_of_lt hft)]
  refine SourceItem.writable_of_first_error (htake ▸ h) (by simp; omega) ?_
  rwa [List.getElem_take]

theorem length_eq_of_map_toRecord {l : List SourceItem} {rs : List Record}
    (h : l.map SourceItem.toRecord = rs.map .ok) : rs.length = l.length := by
  simpa using (congrArg List.length h).symm

/-- Every export by a plan into a root just made stops as `StopsAt` says. -/
theorem stopsAt_of_rootCreated (p : ShardPlan) (hpresent : d.present root = false)
    (hnw : p.count ≤ Text.wordBound) (h : rootCreated d root = .ok d₁)
    (hroot : d₁.EmptyDir root top) (S : List SourceItem) :
    StopsAt (runExport d root p.count p.total S) d₁ top root p S := by
  have hrun := runExport_of_rootCreated p hpresent hnw h hroot S
  constructor
  · -- the loop either fills every shard or stops one pull after its last record
    rcases hW : SourceItem.writable (S.take p.total) with ⟨rs, e⟩
    have hle : rs.length ≤ p.total := by
      have := SourceItem.length_writable_le (S.take p.total)
      simp only [hW, List.length_take] at this
      omega
    rw [hrun, hW]
    dsimp only
    rcases Nat.lt_or_ge rs.length p.total with hlt | hge
    · rw [p.shardsOutcome_of_lt root hlt]
      exact hlt
    · rw [p.shardsOutcome_of_eq root (by omega)]
      dsimp only
      omega
  · intro f hft hfS rs e hrs he
    have hlen : rs.length = f := by
      rw [length_eq_of_map_toRecord hrs, List.length_take]
      omega
    subst hlen
    exact failedAt_of_lt p hpresent hnw h hroot (writable_take_of_first_error hft hfS hrs he) hft
  · intro rs hrs hshort
    have hlen := length_eq_of_map_toRecord hrs
    have hW : SourceItem.writable (S.take p.total) = (rs, none) := by
      rw [List.take_of_length_le (Nat.le_of_lt hshort)]
      exact SourceItem.writable_of_map_toRecord hrs
    rw [← hlen]
    exact failedAt_of_lt p hpresent hnw h hroot hW (hlen ▸ hshort)
  · intro rs hrs hlong
    have hlen : rs.length = p.total := by
      rw [length_eq_of_map_toRecord hrs, List.length_take]
      omega
    rw [hrun, SourceItem.writable_of_map_toRecord hrs, p.shardsOutcome_of_eq root hlen]
    exact ⟨rfl, hlen, rfl⟩

end Stopping

/-- A root under a file cannot be made, so an export into it fails although nothing is there
and the one item it asks for is a record that passes the checks. -/
theorem export_under_file_fails :
    (⟨[(["a"], .file 0)], [[]]⟩ : Disk).present "a/dump" = false ∧
      Record.validate ⟨"a", [⟨0x3ff0000000000000⟩], [109]⟩ = .ok () ∧
      (runExport ⟨[(["a"], .file 0)], [[]]⟩ "a/dump" 1 1
        [.ok ⟨"a", [⟨0x3ff0000000000000⟩], [109]⟩]).result = .error (.io (.os .fileExists)) :=
  ⟨rfl, by decide, rfl⟩

/-- An export with `n` shards of `t` items into a root that does not exist: if the root cannot
be made the export fails with that error having pulled nothing; otherwise it stops as
`StopsAt` says. -/
theorem export_stops_at_first_failure {d : Disk} (hclosed : d.Closed) {root : String}
    (hpresent : d.present root = false) {n : Nat} (hn : 0 < n) (hnw : n ≤ Text.wordBound)
    (t : Nat) (S : List SourceItem) :
    (∀ e, rootCreated d root = .error e →
      (runExport d root n t S).result = .error e ∧ (runExport d root n t S).pulls = 0) ∧
    (∀ d₁, rootCreated d root = .ok d₁ → ∃ top, d₁.EmptyDir root top ∧
      StopsAt (runExport d root n t S) d₁ top root ⟨t, n, hn⟩ S) := by
  refine ⟨fun e h => runExport_of_rootCreated_error hpresent hn h S, fun d₁ h => ?_⟩
  obtain ⟨top, htop⟩ := emptyDir_of_rootCreated hclosed h
  exact ⟨top, htop, stopsAt_of_rootCreated ⟨t, n, hn⟩ hpresent hnw h htop S⟩

/-- Three items asked for over two shards, the second an error: the export stops there. -/
theorem export_stops_at_source_error :
    ∃ top, (⟨[(["dump"], .directory)], []⟩ : Disk).EmptyDir "dump" top ∧
      StopsAt (runExport {} "dump" 2 3 [.ok ⟨"a", [⟨0x3ff0000000000000⟩], [109]⟩, .error "boom"])
        ⟨[(["dump"], .directory)], []⟩ top "dump" ⟨3, 2, by decide⟩
        [.ok ⟨"a", [⟨0x3ff0000000000000⟩], [109]⟩, .error "boom"] :=
  (@export_stops_at_first_failure {} (fun e he => by simp at he) "dump" rfl 2 (by decide)
    (by decide) 3 [.ok ⟨"a", [⟨0x3ff0000000000000⟩], [109]⟩, .error "boom"]).2
    ⟨[(["dump"], .directory)], []⟩ rfl

end ShardDump
