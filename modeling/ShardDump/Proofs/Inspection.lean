import Mathlib.Tactic.Choose
import ShardDump.Inspect
import ShardDump.Proofs.LockStep

/-!
# Inspection agrees with importing

Inspecting a shard counts its three files one after the other; importing it reads them in
lock-step. The two judge the files alike: inspection finds a shard consistent exactly
when importing opens it and reads records to a clean end, and it then counts those
records, their ids, vectors and metadata, and the values of their vectors
(`inspectShard_consistent_iff`). A whole dump is consistent exactly when its shards are
numbered `0, 1, …` without a gap and each of them imports cleanly, and its total is then
the number of records imported (`inspect_consistent_iff`, `inspect_agrees_with_import`).

Both rest on the readers of the three files being lawful: `collect` drains them, so the
counts of inspection are the lengths of the runs that importing reads in lock-step.
-/

namespace ShardDump

/-- The statistics of shard `shard` whose records are `recs`: an id, a vector and a
metadata item for each record, and the values of all their vectors. -/
def ShardStats.ofRecords (shard : Nat) (recs : List Record) : ShardStats :=
  { shard, ids := recs.length, vectors := recs.length, metas := recs.length,
    elements := (recs.map fun r => r.vector.length).foldr (· + ·) 0 }

@[simp] theorem ShardStats.shard_ofRecords (shard : Nat) (recs : List Record) :
    (ShardStats.ofRecords shard recs).shard = shard := rfl

@[simp] theorem ShardStats.isConsistent_ofRecords (shard : Nat) (recs : List Record) :
    (ShardStats.ofRecords shard recs).isConsistent = true := by
  simp [ShardStats.ofRecords, ShardStats.isConsistent]

/-! ## One shard -/

/-- A recorded fault leaves the shard inconsistent. -/
theorem recordFault_inconsistent {stats stats' : ShardStats} {e : DumpError}
    (h : recordFault stats e = .ok stats') (hc : stats'.isConsistent = true) : False := by
  unfold recordFault at h
  split at h
  · cases h
    simp [ShardStats.isConsistent] at hc
  · cases h

/-- A shard whose three files open and read to a clean end is counted whole. -/
theorem inspectShard_of_drains {d : Disk} {root : String} {s : Nat} {f : ShardFiles}
    {ids : IdReader} {vectors : VectorReader} {metas : MetaReader} {xs : List String}
    {vs : List (List Binary64)} {ms : List Bytes}
    (hf : ShardFiles.existing d root s = .ok f)
    (hi : IdReader.open? d f.ids = .ok ids) (hxs : Reader.Drains d ids xs none)
    (hv : VectorReader.open? d f.vectors = .ok vectors) (hvs : Reader.Drains d vectors vs none)
    (hm : FrameReader.open? d f.metas = .ok metas) (hms : Reader.Drains d metas ms none) :
    inspectShard d root s = .ok
      { shard := s, ids := xs.length, vectors := vs.length, metas := ms.length,
        elements := (vs.map List.length).foldr (· + ·) 0 } := by
  -- each file's count is the run `collect` finds, which is the one that drains it
  obtain ⟨hxs₁, hxs₂⟩ := Reader.collect_eq_of_drains hxs
  obtain ⟨hvs₁, hvs₂⟩ := Reader.collect_eq_of_drains hvs
  obtain ⟨hms₁, hms₂⟩ := Reader.collect_eq_of_drains hms
  obtain ⟨ri, hci⟩ : ∃ ri, Reader.collect d ids = (xs, none, ri) :=
    ⟨_, by rw [← hxs₁, ← hxs₂]⟩
  obtain ⟨rv, hcv⟩ : ∃ rv, Reader.collect d vectors = (vs, none, rv) :=
    ⟨_, by rw [← hvs₁, ← hvs₂]⟩
  obtain ⟨rm, hcm⟩ : ∃ rm, Reader.collect d metas = (ms, none, rm) :=
    ⟨_, by rw [← hms₁, ← hms₂]⟩
  unfold inspectShard
  simp only [hf, hi, hci, hv, hcv, hm, hcm]

/-- Inspection finds a shard consistent only when its three files open and read to a clean
end, each giving as many items as the others; it then counts them. -/
theorem drains_of_inspectShard {d : Disk} {root : String} {s : Nat} {stats : ShardStats}
    (h : inspectShard d root s = .ok stats) (hc : stats.isConsistent = true) :
    ∃ (f : ShardFiles) (ids : IdReader) (vectors : VectorReader) (metas : MetaReader)
      (xs : List String) (vs : List (List Binary64)) (ms : List Bytes),
      ShardFiles.existing d root s = .ok f ∧
      IdReader.open? d f.ids = .ok ids ∧ Reader.Drains d ids xs none ∧
      VectorReader.open? d f.vectors = .ok vectors ∧ Reader.Drains d vectors vs none ∧
      FrameReader.open? d f.metas = .ok metas ∧ Reader.Drains d metas ms none ∧
      xs.length = vs.length ∧ vs.length = ms.length ∧
      stats =
        { shard := s, ids := xs.length, vectors := vs.length, metas := ms.length,
          elements := (vs.map List.length).foldr (· + ·) 0 } := by
  -- every stage but the last can record a fault, which a consistent shard has not
  unfold inspectShard at h
  rcases hf : ShardFiles.existing d root s with e | f <;> simp only [hf] at h
  · exact (recordFault_inconsistent h hc).elim
  rcases hi : IdReader.open? d f.ids with e | ids <;> simp only [hi] at h
  · exact (recordFault_inconsistent h hc).elim
  rcases hci : Reader.collect d ids with ⟨xs, ei, ri⟩
  simp only [hci] at h
  cases ei
  case some e => exact (recordFault_inconsistent h hc).elim
  rcases hv : VectorReader.open? d f.vectors with e | vectors <;> simp only [hv] at h
  · exact (recordFault_inconsistent h hc).elim
  rcases hcv : Reader.collect d vectors with ⟨vs, ev, rv⟩
  simp only [hcv] at h
  cases ev
  case some e => exact (recordFault_inconsistent h hc).elim
  rcases hm : FrameReader.open? d f.metas with e | metas <;> simp only [hm] at h
  · exact (recordFault_inconsistent h hc).elim
  rcases hcm : Reader.collect d metas with ⟨ms, em, rm⟩
  simp only [hcm] at h
  cases em
  case some e => exact (recordFault_inconsistent h hc).elim
  simp only [Except.ok.injEq] at h
  subst h
  have hdi := Reader.collect_drains d ids
  have hdv := Reader.collect_drains d vectors
  have hdm := Reader.collect_drains d metas
  rw [hci] at hdi
  rw [hcv] at hdv
  rw [hcm] at hdm
  have hlen : xs.length = vs.length ∧ vs.length = ms.length := by
    simpa [ShardStats.isConsistent] using hc
  exact ⟨f, ids, vectors, metas, xs, vs, ms, rfl, hi, hdi, hv, hdv, hm, hdm, hlen.1, hlen.2, rfl⟩

/-- Three runs of one length are the fields of a list of records. -/
theorem exists_records_of_length_eq {xs : List String} {vs : List (List Binary64)}
    {ms : List Bytes} (hxv : xs.length = vs.length) (hvm : vs.length = ms.length) :
    ∃ recs : List Record, recs.map Record.id = xs ∧ recs.map Record.vector = vs ∧
      recs.map Record.metadata = ms := by
  induction xs generalizing vs ms with
  | nil =>
    rw [List.length_nil, eq_comm, List.length_eq_zero_iff] at hxv
    subst hxv
    rw [List.length_nil, eq_comm, List.length_eq_zero_iff] at hvm
    subst hvm
    exact ⟨[], rfl, rfl, rfl⟩
  | cons x xs ih =>
    cases vs with
    | nil => simp at hxv
    | cons v vs =>
      cases ms with
      | nil => simp at hvm
      | cons m ms =>
        simp only [List.length_cons, Nat.add_right_cancel_iff] at hxv hvm
        obtain ⟨recs, hids, hvecs, hmetas⟩ := ih hxv hvm
        exact ⟨⟨x, v, m⟩ :: recs, by simp [hids], by simp [hvecs], by simp [hmetas]⟩

/-- Inspection finds a shard consistent exactly when importing it opens its files and
reads records to a clean end; the statistics then count those records. -/
theorem inspectShard_consistent_iff {d : Disk} {root : String} {s : Nat} {stats : ShardStats} :
    (inspectShard d root s = .ok stats ∧ stats.isConsistent = true) ↔
      ∃ rr recs, importRecords d root s = .ok rr ∧ Reader.Drains d rr recs none ∧
        stats = ShardStats.ofRecords s recs := by
  constructor
  · rintro ⟨h, hc⟩
    obtain ⟨f, ids, vectors, metas, xs, vs, ms, hf, hi, hxs, hv, hvs, hm, hms, hxv, hvm, rfl⟩ :=
      drains_of_inspectShard h hc
    obtain rfl := ShardFiles.eq_ofShard_of_existing hf
    -- the records zip the three runs, which have one length
    obtain ⟨recs, hids, hvecs, hmetas⟩ := exists_records_of_length_eq hxv hvm
    refine ⟨{ shard := s, ids, vectors, metas }, recs,
      importRecords_eq_ok_iff.2 ⟨⟨_, hf⟩, ids, vectors, metas, hi, hv, hm, rfl⟩, ?_, ?_⟩
    · rw [RecordReader.drains_iff_of_active d _ rfl, hids, hvecs, hmetas]
      exact ⟨hxs, hvs, hms⟩
    · have hlen : recs.length = xs.length := by rw [← hids, List.length_map]
      have helems : recs.map (fun r => r.vector.length) = vs.map List.length := by
        rw [← hvecs, List.map_map]
        rfl
      simp only [ShardStats.ofRecords, hlen, hxv, hvm, helems]
  · rintro ⟨rr, recs, hrr, hdrains, rfl⟩
    obtain ⟨⟨f, hf⟩, ids, vectors, metas, hi, hv, hm, rfl⟩ := importRecords_eq_ok_iff.1 hrr
    obtain ⟨hxs, hvs, hms⟩ := (RecordReader.drains_iff_of_active d _ rfl recs).1 hdrains
    obtain rfl := ShardFiles.eq_ofShard_of_existing hf
    refine ⟨?_, ShardStats.isConsistent_ofRecords s recs⟩
    rw [inspectShard_of_drains hf hi hxs hv hvs hm hms]
    simp [ShardStats.ofRecords, List.map_map, Function.comp_def]

/-! ## The whole dump -/

/-- A dump is consistent when its `i`-th shard is shard `i` and is consistent. -/
theorem DumpStats.isConsistent_iff (ds : DumpStats) :
    ds.isConsistent = true ↔ ∀ i (h : i < ds.shards.length),
      ds.shards[i].shard = i ∧ ds.shards[i].isConsistent = true := by
  simp only [DumpStats.isConsistent, List.all_eq_true, List.mem_iff_getElem, List.getElem_zip,
    List.getElem_range, List.length_zip, List.length_range, Nat.min_self, Bool.and_eq_true,
    beq_iff_eq, forall_exists_index, Prod.forall, Prod.mk.injEq]
  constructor
  · intro H i h
    exact H i _ i h ⟨rfl, rfl⟩
  · rintro H a b x h ⟨rfl, rfl⟩
    exact H x h

theorem DumpStats.totalRecords_mapIdx_ofRecords (root : String) (recss : List (List Record)) :
    (⟨root, recss.mapIdx ShardStats.ofRecords⟩ : DumpStats).totalRecords =
      (recss.map List.length).foldr (· + ·) 0 := by
  have hids : (recss.mapIdx ShardStats.ofRecords).map ShardStats.ids = recss.map List.length :=
    List.ext_getElem (by simp) fun i h₁ h₂ => by simp [ShardStats.ofRecords]
  simp only [DumpStats.totalRecords, hids]

/-- `mapM` in `Except` succeeds on a non-empty list exactly when it succeeds on the head and
on the tail. -/
theorem mapM_cons_eq_ok_iff {α β ε : Type} {f : α → Except ε β} {x : α} {xs : List α}
    {ys : List β} :
    (x :: xs).mapM f = .ok ys ↔ ∃ y zs, f x = .ok y ∧ xs.mapM f = .ok zs ∧ ys = y :: zs := by
  rw [List.mapM_cons]
  cases hx : f x with
  | error e => simp [bind, Except.bind]
  | ok y =>
    cases xs.mapM f with
    | error e => simp [bind, Except.bind]
    | ok zs => simp [bind, Except.bind, pure, Except.pure, eq_comm]

/-- `mapM` in `Except` succeeds exactly when it succeeds on every element. -/
theorem mapM_eq_ok_iff {α β ε : Type} {f : α → Except ε β} {l : List α} {ys : List β} :
    l.mapM f = .ok ys ↔
      ys.length = l.length ∧ ∀ i (h₁ : i < l.length) (h₂ : i < ys.length), f l[i] = .ok ys[i] := by
  induction l generalizing ys with
  | nil =>
    cases ys <;> simp [pure, Except.pure]
  | cons x xs ih =>
    rw [mapM_cons_eq_ok_iff]
    cases ys with
    | nil => simp
    | cons y zs =>
      simp only [List.cons.injEq, List.length_cons, Nat.add_right_cancel_iff]
      constructor
      · rintro ⟨y', zs', hx, hxs, rfl, rfl⟩
        obtain ⟨hlen, hall⟩ := ih.1 hxs
        refine ⟨hlen, fun i h₁ h₂ => ?_⟩
        cases i with
        | zero => exact hx
        | succ i => exact hall i (by simpa using h₁) (by simpa using h₂)
      · rintro ⟨hlen, hall⟩
        refine ⟨y, zs, hall 0 (by simp) (by simp), ih.2 ⟨hlen, fun i h₁ h₂ => ?_⟩, rfl, rfl⟩
        exact hall (i + 1) (by simpa using h₁) (by simpa using h₂)

/-- Inspecting a dump lists its shards and inspects each. -/
theorem inspect_eq_ok_iff {d : Disk} {root : String} {ds : DumpStats} :
    inspect d root = .ok ds ↔ ∃ shards stats, listShards d root = .ok shards ∧
      shards.mapM (inspectShard d root) = .ok stats ∧ ds = ⟨root, stats⟩ := by
  unfold inspect
  cases hl : listShards d root with
  | error e => simp [bind, Except.bind]
  | ok shards =>
    cases hm : shards.mapM (inspectShard d root) with
    | error e => simp [bind, Except.bind, hm]
    | ok stats =>
      simp [bind, Except.bind, hm, pure, Except.pure, eq_comm]

/-- A dump is consistent exactly when its shards are numbered `0, 1, …` without a gap and
each of them imports cleanly; it then lists the statistics of their records. -/
theorem inspect_consistent_iff {d : Disk} {root : String} {ds : DumpStats} :
    (inspect d root = .ok ds ∧ ds.isConsistent = true) ↔
      ∃ recss : List (List Record), listShards d root = .ok (List.range recss.length) ∧
        (∀ s (h : s < recss.length), ∃ rr, importRecords d root s = .ok rr ∧
          Reader.Drains d rr recss[s] none) ∧
        ds = ⟨root, recss.mapIdx ShardStats.ofRecords⟩ := by
  constructor
  · rintro ⟨h, hc⟩
    obtain ⟨shards, stats, hl, hmap, rfl⟩ := inspect_eq_ok_iff.1 h
    obtain ⟨hlen, hstats⟩ := mapM_eq_ok_iff.1 hmap
    rw [DumpStats.isConsistent_iff] at hc
    dsimp only at hc
    -- each listed shard imports cleanly, with the records its statistics count
    have hshard : ∀ i (h : i < stats.length), ∃ recs, ∃ rr,
        importRecords d root shards[i] = .ok rr ∧ Reader.Drains d rr recs none ∧
          stats[i] = ShardStats.ofRecords shards[i] recs := fun i h => by
      obtain ⟨rr, recs, hrr, hdr, hst⟩ :=
        inspectShard_consistent_iff.1 ⟨hstats i (by omega) h, (hc i h).2⟩
      exact ⟨recs, rr, hrr, hdr, hst⟩
    -- the `i`-th listed shard is shard `i`
    have hrange : shards = List.range stats.length := by
      apply List.ext_getElem (by simp [hlen])
      intro i h₁ h₂
      obtain ⟨recs, rr, -, -, hst⟩ := hshard i (by omega)
      have hi := (hc i (by omega)).1
      rw [hst, ShardStats.shard_ofRecords] at hi
      simpa using hi
    subst hrange
    choose recs rr hrr hdr hst using hshard
    refine ⟨List.ofFn fun i : Fin stats.length => recs i i.2, by simpa using hl, ?_, ?_⟩
    · intro s hs
      simp only [List.length_ofFn] at hs
      refine ⟨rr s hs, ?_, ?_⟩
      · simpa using hrr s hs
      · simpa using hdr s hs
    · congr 1
      apply List.ext_getElem (by simp)
      intro i h₁ h₂
      simpa using hst i h₁
  · rintro ⟨recss, hl, himport, rfl⟩
    have hshard : ∀ s (h : s < recss.length),
        inspectShard d root s = .ok (ShardStats.ofRecords s recss[s]) := fun s h => by
      obtain ⟨rr, hrr, hdr⟩ := himport s h
      exact (inspectShard_consistent_iff.2 ⟨rr, _, hrr, hdr, rfl⟩).1
    have hmap : (List.range recss.length).mapM (inspectShard d root) =
        .ok (recss.mapIdx ShardStats.ofRecords) :=
      mapM_eq_ok_iff.2 ⟨by simp, fun i h₁ h₂ => by simpa using hshard i (by simpa using h₁)⟩
    refine ⟨inspect_eq_ok_iff.2 ⟨_, _, hl, hmap, rfl⟩, ?_⟩
    rw [DumpStats.isConsistent_iff]
    intro i h
    simp

/-- Inspection agrees with importing, shard by shard and for the whole dump: it finds a
shard consistent exactly when importing reads it to a clean end, and then counts its
records; it finds the dump consistent exactly when the shards are numbered without a gap
and each is read so, and then its total is the number of records read. -/
theorem inspect_agrees_with_import (d : Disk) (root : String) :
    (∀ s stats, (inspectShard d root s = .ok stats ∧ stats.isConsistent = true) ↔
      ∃ rr recs, importRecords d root s = .ok rr ∧ Reader.Drains d rr recs none ∧
        stats = ShardStats.ofRecords s recs) ∧
    (∀ ds, (inspect d root = .ok ds ∧ ds.isConsistent = true) ↔
      ∃ recss : List (List Record), listShards d root = .ok (List.range recss.length) ∧
        (∀ s (h : s < recss.length), ∃ rr, importRecords d root s = .ok rr ∧
          Reader.Drains d rr recss[s] none) ∧
        ds = ⟨root, recss.mapIdx ShardStats.ofRecords⟩ ∧
        ds.totalRecords = (recss.map List.length).foldr (· + ·) 0) := by
  refine ⟨fun s stats => inspectShard_consistent_iff, fun ds => ?_⟩
  rw [inspect_consistent_iff]
  constructor
  · rintro ⟨recss, hl, himport, rfl⟩
    exact ⟨recss, hl, himport, rfl, DumpStats.totalRecords_mapIdx_ofRecords root recss⟩
  · rintro ⟨recss, hl, himport, hds, -⟩
    exact ⟨recss, hl, himport, hds⟩

end ShardDump
