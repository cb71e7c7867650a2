import ShardDump.Proofs.Inspection

/-!
# What inspecting a shard counts

Inspecting a shard first checks that its directory and its three files exist, in the order
directory, ids, vectors, metas; the first missing path is recorded as `Not found` with every
count zero (`inspectShard_of_missing`). When all four exist, the three files are read one after
the other, each up to its end or its first error. How the reading of one file went is a
`Reader.Scanned`: it did not open, or its reader gave some items and ended cleanly or with an
error. Every file has such a run, and only one (`Reader.Scanned.exists`, `Reader.Scanned.unique`).

The statistics are those runs composed in sequence (`ShardStats.ofRuns`): a file is counted only
when the files before it read to a clean end, the vectors counted with the sum of their
lengths, and the first fault in file order is the one recorded. A fault that is neither a
missing path nor damage to a file is not recorded: it is passed on as the inspection's error
(`inspectShard_of_scans`). All of it together: `inspectShard_counts_to_first_fault`.
-/

namespace ShardDump

namespace Reader

variable {ρ α : Type} [Reader ρ α]

/-- How reading one file went: it opened, and its reader gave the items `xs` before ending
cleanly (`e = none`) or with the error `e`; or it did not open, giving no items and the error
of opening it. -/
inductive Scanned (d : Disk) : Except DumpError ρ → List α → Option DumpError → Prop
  | unopened {e : DumpError} : Scanned d (.error e) [] (some e)
  | read {r : ρ} {xs : List α} {e : Option DumpError} : Drains d r xs e → Scanned d (.ok r) xs e

/-- Every file of a lawful reader has a run. -/
theorem Scanned.exists [Lawful ρ α] (d : Disk) (o : Except DumpError ρ) :
    ∃ xs e, Scanned d o xs e := by
  cases o with
  | error e => exact ⟨[], some e, .unopened⟩
  | ok r => exact ⟨_, _, .read (collect_drains d r)⟩

/-- A file has one run. -/
theorem Scanned.unique {d : Disk} {o : Except DumpError ρ} {xs ys : List α}
    {e e' : Option DumpError} (h : Scanned d o xs e) (h' : Scanned d o ys e') : xs = ys ∧ e = e' := by
  cases h with
  | unopened =>
    cases h'
    exact ⟨rfl, rfl⟩
  | read hd =>
    cases h' with
    | read hd' => exact hd.unique hd'

end Reader

/-- The statistics of shard `shard` whose ids, vectors and metas files read as `xs`, `vs` and
`ms` before their faults `ei`, `ev` and `em`: a file is counted only when the files before it
read to a clean end, and the first fault in file order is recorded. -/
def ShardStats.ofRuns (shard : Nat) (xs : List String) (ei : Option DumpError)
    (vs : List (List Binary64)) (ev : Option DumpError) (ms : List Bytes) (em : Option DumpError) :
    ShardStats :=
  { shard, ids := xs.length,
    vectors := if ei = none then vs.length else 0,
    elements := if ei = none then (vs.map List.length).foldr (· + ·) 0 else 0,
    metas := if ei = none ∧ ev = none then ms.length else 0,
    error := (ei.or (ev.or em)).map DumpError.message }

/-- Whether a fault is recorded in a shard's statistics rather than passed on: a missing path,
or damage to a file. -/
def DumpError.isRecorded (e : DumpError) : Bool := e.isNotFound || e.isCorrupt

/-! ## The paths of a shard -/

theorem DumpError.message_notFound (p : String) : (DumpError.notFound p).message = "Not found: " ++ p :=
  rfl

/-- The first missing path of a shard is the one reported. -/
theorem existing_of_first_missing {d : Disk} {root : String} {s : Nat} {pre post : List String}
    {p : String} (hall : (ShardFiles.ofShard root s).all = pre ++ p :: post)
    (hpre : ∀ q ∈ pre, d.present q = true) (hp : d.present p = false) :
    ShardFiles.existing d root s = .error (.notFound p) := by
  have hnone : pre.find? (fun q => !d.present q) = none :=
    List.find?_eq_none.2 fun q hq => by simp [hpre q hq]
  unfold ShardFiles.existing
  dsimp only
  rw [hall, List.find?_append, hnone, Option.none_or]
  simp [hp]

theorem existing_of_present {d : Disk} {root : String} {s : Nat}
    (h : ∀ q ∈ (ShardFiles.ofShard root s).all, d.present q = true) :
    ShardFiles.existing d root s = .ok (ShardFiles.ofShard root s) := by
  have hnone : (ShardFiles.ofShard root s).all.find? (fun q => !d.present q) = none :=
    List.find?_eq_none.2 fun q hq => by simp [h q hq]
  unfold ShardFiles.existing
  dsimp only
  rw [hnone]

/-- A missing path of a shard is recorded with every count zero. -/
theorem inspectShard_of_missing {d : Disk} {root : String} {s : Nat} {pre post : List String}
    {p : String} (hall : (ShardFiles.ofShard root s).all = pre ++ p :: post)
    (hpre : ∀ q ∈ pre, d.present q = true) (hp : d.present p = false) :
    inspectShard d root s = .ok { shard := s, error := some ("Not found: " ++ p) } := by
  unfold inspectShard
  rw [existing_of_first_missing hall hpre hp]
  simp only [recordFault, DumpError.isNotFound, Bool.true_or, ↓reduceIte, DumpError.message_notFound]

/-! ## Faults, recorded or passed on -/

/-- The statistics `stats'` with a fault `e` recorded, or the fault passed on, as `recordFault`
decides, said of the first fault `fault` of a run. -/
theorem recordFault_outcome {stats stats' : ShardStats} {e : DumpError} {fault : Option DumpError}
    (hfault : fault = some e) (hstats : stats' = { stats with error := some e.message }) :
    (∀ e', fault = some e' → e'.isRecorded = false → recordFault stats e = .error e') ∧
      (fault.all DumpError.isRecorded = true → recordFault stats e = .ok stats') := by
  subst hfault hstats
  refine ⟨fun e' he' hrec => ?_, fun hrec => ?_⟩
  · cases he'
    simp only [DumpError.isRecorded] at hrec
    simp [recordFault, hrec]
  · simp only [Option.all_some, DumpError.isRecorded] at hrec
    simp [recordFault, hrec]

/-- Inspecting a shard whose four paths exist composes the runs of its three files: the first
fault in file order is passed on when it is neither a missing path nor damage, and otherwise
the statistics count each file read before it and record it. -/
theorem inspectShard_of_scans {d : Disk} {root : String} {s : Nat}
    (hpresent : ∀ q ∈ (ShardFiles.ofShard root s).all, d.present q = true)
    {xs : List String} {ei : Option DumpError} {vs : List (List Binary64)} {ev : Option DumpError}
    {ms : List Bytes} {em : Option DumpError}
    (hi : Reader.Scanned d (IdReader.open? d (ShardFiles.ofShard root s).ids) xs ei)
    (hv : Reader.Scanned d (VectorReader.open? d (ShardFiles.ofShard root s).vectors) vs ev)
    (hm : Reader.Scanned d (FrameReader.open? d (ShardFiles.ofShard root s).metas) ms em) :
    (∀ e, ei.or (ev.or em) = some e → e.isRecorded = false → inspectShard d root s = .error e) ∧
      ((ei.or (ev.or em)).all DumpError.isRecorded = true →
        inspectShard d root s = .ok (ShardStats.ofRuns s xs ei vs ev ms em)) := by
  unfold inspectShard
  rw [existing_of_present hpresent]
  dsimp only
  -- one case per file that is read, each closed where its run ends with a fault
  generalize IdReader.open? d (ShardFiles.ofShard root s).ids = io at hi ⊢
  cases hi with
  | unopened => exact recordFault_outcome rfl (by simp [ShardStats.ofRuns])
  | @read ri _ ei hdi =>
  obtain ⟨hxs, hei⟩ := Reader.collect_eq_of_drains hdi
  dsimp only
  rw [hxs, hei]
  cases ei with
  | some e => exact recordFault_outcome rfl (by simp [ShardStats.ofRuns])
  | none =>
  generalize VectorReader.open? d (ShardFiles.ofShard root s).vectors = iv at hv ⊢
  cases hv with
  | unopened => exact recordFault_outcome rfl (by simp [ShardStats.ofRuns])
  | @read rv _ ev hdv =>
  obtain ⟨hvs, hev⟩ := Reader.collect_eq_of_drains hdv
  dsimp only
  rw [hvs, hev]
  cases ev with
  | some e => exact recordFault_outcome rfl (by simp [ShardStats.ofRuns])
  | none =>
  generalize FrameReader.open? d (ShardFiles.ofShard root s).metas = im at hm ⊢
  cases hm with
  | unopened => exact recordFault_outcome rfl (by simp [ShardStats.ofRuns])
  | @read rm _ em hdm =>
  obtain ⟨hms, hem⟩ := Reader.collect_eq_of_drains hdm
  dsimp only
  rw [hms, hem]
  cases em with
  | some e => exact recordFault_outcome rfl (by simp [ShardStats.ofRuns])
  | none => exact ⟨fun e he => by simp at he, fun _ => by simp [ShardStats.ofRuns]⟩

/-- Inspecting a shard counts its files up to the first fault. A missing path, the first in the
order directory, ids, vectors, metas, is recorded as `Not found` with every count zero. When all
four exist, each file has one run, and for those runs: the ids are counted; the vectors, with the
sum of their lengths, only when the ids read to a clean end; the metas only when the vectors did
too; the first fault in file order is recorded when it is a missing path or damage, and any other
fault is passed on as the inspection's error. A shard whose statistics are found is consistent
exactly when nothing was recorded and its three counts agree. -/
theorem inspectShard_counts_to_first_fault (d : Disk) (root : String) (s : Nat) :
    (∀ pre p post, (ShardFiles.ofShard root s).all = pre ++ p :: post →
      (∀ q ∈ pre, d.present q = true) → d.present p = false →
      inspectShard d root s = .ok { shard := s, error := some ("Not found: " ++ p) }) ∧
    ((∀ q ∈ (ShardFiles.ofShard root s).all, d.present q = true) →
      (∃ xs ei vs ev ms em,
        Reader.Scanned d (IdReader.open? d (ShardFiles.ofShard root s).ids) xs ei ∧
        Reader.Scanned d (VectorReader.open? d (ShardFiles.ofShard root s).vectors) vs ev ∧
        Reader.Scanned d (FrameReader.open? d (ShardFiles.ofShard root s).metas) ms em) ∧
      ∀ xs ei vs ev ms em,
        Reader.Scanned d (IdReader.open? d (ShardFiles.ofShard root s).ids) xs ei →
        Reader.Scanned d (VectorReader.open? d (ShardFiles.ofShard root s).vectors) vs ev →
        Reader.Scanned d (FrameReader.open? d (ShardFiles.ofShard root s).metas) ms em →
        (∀ e, ei.or (ev.or em) = some e → e.isRecorded = false →
          inspectShard d root s = .error e) ∧
        ((ei.or (ev.or em)).all DumpError.isRecorded = true →
          inspectShard d root s = .ok (ShardStats.ofRuns s xs ei vs ev ms em))) ∧
    (∀ stats, inspectShard d root s = .ok stats →
      (stats.isConsistent = true ↔
        stats.error = none ∧ stats.ids = stats.vectors ∧ stats.vectors = stats.metas)) := by
  refine ⟨fun pre p post hall hpre hp => inspectShard_of_missing hall hpre hp,
    fun hpresent => ⟨?_, fun xs ei vs ev ms em hi hv hm => inspectShard_of_scans hpresent hi hv hm⟩,
    fun stats _ => by simp [ShardStats.isConsistent, and_assoc]⟩
  obtain ⟨xs, ei, hi⟩ := Reader.Scanned.exists d (IdReader.open? d (ShardFiles.ofShard root s).ids)
  obtain ⟨vs, ev, hv⟩ :=
    Reader.Scanned.exists d (VectorReader.open? d (ShardFiles.ofShard root s).vectors)
  obtain ⟨ms, em, hm⟩ := Reader.Scanned.exists d (FrameReader.open? d (ShardFiles.ofShard root s).metas)
  exact ⟨xs, ei, vs, ev, ms, em, hi, hv, hm⟩

end ShardDump
