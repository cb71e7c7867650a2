import ShardDump.Proofs.CliRoundTrip

/-!
# What `import` prints

`import` opens the files it needs and prints one line for each item its readers give, up to
the first pull that gives none; the lines printed stay printed when it then fails.

With whole records it drains the record reader: it prints the line of every record the reader
yields before its end or its first error, and fails exactly when the reader ends with an
error. With vectors or metadata it pulls the ids reader and the payload reader side by side,
the ids reader first. A pull where both give an item prints their pair. The first pull where
they do not ends the command (`Pull.pairEnd`): with the ids error when the ids reader gave one
and the payload reader gave anything, with the payload error when the ids reader gave an id,
and cleanly as soon as either reader has ended (`pairUpTo_pairs`). So a file that merely ends
early is never reported, and an ids error at the pull where the payload file ends is dropped.

A shard that does not open prints nothing and fails with the error of the opening
(`import_prints_until_first_error`).
-/

namespace ShardDump

/-! ## Pairing two readers -/

/-- How two pulls end a pairing: with the first pull's error when both gave something, with
the second pull's error when the first gave an item, and cleanly when either gave nothing. -/
def Pull.pairEnd {α β : Type} : Pull α → Pull β → Option DumpError
  | some (.error e), some _ => some e
  | some (.ok _), some (.error e) => some e
  | _, _ => none

/-- A first reader that has ended ends the pairing cleanly. -/
@[simp] theorem Pull.pairEnd_none_left {α β : Type} (q : Pull β) :
    Pull.pairEnd (none : Pull α) q = none := rfl

/-- A second reader that has ended ends the pairing cleanly, even when the first gave an
error at the same pull. -/
@[simp] theorem Pull.pairEnd_none_right {α β : Type} (p : Pull α) :
    Pull.pairEnd p (none : Pull β) = none := by
  rcases p with _ | _ | _ <;> rfl

theorem Pull.isItem_eq_true_iff {α : Type} {p : Pull α} :
    p.isItem = true ↔ ∃ x, p = some (.ok x) := by
  rcases p with _ | _ | x <;> simp [Pull.isItem]

namespace Reader

variable {ρ σ α β : Type} [Reader ρ α] [Reader σ β]

/-- Two readers, each pulled on its own, give the pairs `ps` at their first pulls, and at the
pull after them one of the two gives no item. -/
def PairsUntil (d : Disk) (a : ρ) (b : σ) (ps : List (α × β)) : Prop :=
  (∀ k (h : k < ps.length),
      pullAt d a k = some (.ok ps[k].1) ∧ pullAt d b k = some (.ok ps[k].2)) ∧
    ¬ ((pullAt d a ps.length).isItem = true ∧ (pullAt d b ps.length).isItem = true)

end Reader

namespace Cli

open Reader (pullAt PairsUntil Lawful)

variable {ρ σ α β : Type} [Reader ρ α] [Reader σ β] {d : Disk}

/-- Pulls that do not both give an item end the pairing at once, as `Pull.pairEnd` says. -/
theorem pairUpTo_succ_of_stop {a : ρ} {b : σ}
    (h : ¬ ((Reader.next d a).1.isItem = true ∧ (Reader.next d b).1.isItem = true))
    (fuel : Nat) :
    pairUpTo d (fuel + 1) a b = ([], Pull.pairEnd (Reader.next d a).1 (Reader.next d b).1) := by
  rw [pairUpTo]
  -- every combination but two items ends the pairing at once
  rcases ha : Reader.next d a with ⟨_ | _ | x, a'⟩
  · rfl
  · rcases Reader.next d b with ⟨_ | _ | y, b'⟩ <;> rfl
  · rcases hb : Reader.next d b with ⟨_ | _ | y, b'⟩
    · rfl
    · rfl
    · rw [ha, hb] at h
      exact absurd ⟨rfl, rfl⟩ h

/-- Two items make a pair, and the pairing goes on with the readers after them. -/
theorem pairUpTo_succ_of_items {a a' : ρ} {b b' : σ} {x : α} {y : β}
    (ha : Reader.next d a = (some (.ok x), a')) (hb : Reader.next d b = (some (.ok y), b'))
    (fuel : Nat) :
    pairUpTo d (fuel + 1) a b =
      ((x, y) :: (pairUpTo d fuel a' b').1, (pairUpTo d fuel a' b').2) := by
  rw [pairUpTo, ha, hb]

/-- With fuel above the first reader's bound, pairing two readers gives the pairs they give
side by side, and ends as the first pull without a pair says. -/
theorem pairUpTo_pairs [Lawful ρ α] {fuel : Nat} {a : ρ} {b : σ}
    (hfuel : Reader.bound d a ≤ fuel) :
    ∃ ps, PairsUntil d a b ps ∧
      pairUpTo d fuel a b = (ps, Pull.pairEnd (pullAt d a ps.length) (pullAt d b ps.length)) := by
  -- one pull of each reader per unit of fuel; an item of the first reader lowers its bound
  induction fuel generalizing a b with
  | zero => exact absurd hfuel (Nat.not_le.2 (Lawful.bound_pos d a))
  | succ fuel ih =>
    by_cases hboth : (Reader.next d a).1.isItem = true ∧ (Reader.next d b).1.isItem = true
    · obtain ⟨x, hx⟩ := Pull.isItem_eq_true_iff.1 hboth.1
      obtain ⟨y, hy⟩ := Pull.isItem_eq_true_iff.1 hboth.2
      have ha : Reader.next d a = (some (.ok x), (Reader.next d a).2) := Prod.ext hx rfl
      have hb : Reader.next d b = (some (.ok y), (Reader.next d b).2) := Prod.ext hy rfl
      have hlt := Lawful.bound_lt_of_item ha
      obtain ⟨ps, ⟨hitems, hend⟩, hrun⟩ :=
        ih (a := (Reader.next d a).2) (b := (Reader.next d b).2) (by omega)
      refine ⟨(x, y) :: ps, ⟨fun k hk => ?_, hend⟩, ?_⟩
      · cases k with
        | zero => exact ⟨hx, hy⟩
        | succ k => exact hitems k (by simpa using hk)
      · rw [pairUpTo_succ_of_items ha hb, hrun]
        rfl
    · exact ⟨[], ⟨fun k hk => absurd hk (Nat.not_lt_zero k), hboth⟩,
        pairUpTo_succ_of_stop hboth fuel⟩

/-! ## The three imports -/

variable {root : String} {s : Nat}

/-- Printing whole records drains the record reader: the lines of the records before its end
or its first error, failing with that error. -/
theorem runImportCommand_records {rr : RecordReader} (h : importRecords d root s = .ok rr) :
    ∃ xs e, Reader.Drains d rr xs e ∧
      runImportCommand d root s .records =
        (String.join (xs.map (importLine .records)), e.map Report.ofDumpError) := by
  -- name the run before opening the command, so that nothing evaluates the reader
  rcases hc : Reader.collect d rr with ⟨xs, e, rr'⟩
  have hdrains := Reader.collect_drains d rr
  rw [hc] at hdrains
  refine ⟨xs, e, hdrains, ?_⟩
  unfold runImportCommand
  simp only [h, hc]
  rfl

/-- Printing vectors pairs the ids with the vectors, up to the first pull without a pair. -/
theorem runImportCommand_vectors {ids : IdReader} {vectors : VectorReader}
    (h : importVectors d root s = .ok (ids, vectors)) :
    ∃ ps, PairsUntil d ids vectors ps ∧
      runImportCommand d root s .vectors =
        (String.join (ps.map fun p => jsonLine ⟨p.1, some p.2, none⟩),
          (Pull.pairEnd (pullAt d ids ps.length) (pullAt d vectors ps.length)).map
            Report.ofDumpError) := by
  obtain ⟨ps, hps, hrun⟩ := pairUpTo_pairs (b := vectors) (Nat.le_refl (Reader.bound d ids))
  refine ⟨ps, hps, ?_⟩
  unfold runImportCommand
  simp only [h, hrun]

/-- Printing metadata pairs the ids with the metadata, read as text with replacement
characters, up to the first pull without a pair. -/
theorem runImportCommand_metas {ids : IdReader} {metas : MetaReader}
    (h : importMetas d root s = .ok (ids, metas)) :
    ∃ ps, PairsUntil d ids metas ps ∧
      runImportCommand d root s .metas =
        (String.join (ps.map fun p => jsonLine ⟨p.1, none, some (Text.decodeLossy p.2)⟩),
          (Pull.pairEnd (pullAt d ids ps.length) (pullAt d metas ps.length)).map
            Report.ofDumpError) := by
  obtain ⟨ps, hps, hrun⟩ := pairUpTo_pairs (b := metas) (Nat.le_refl (Reader.bound d ids))
  refine ⟨ps, hps, ?_⟩
  unfold runImportCommand
  simp only [h, hrun]

end Cli

open Cli in
/-- What `import` prints for every state of a shard. A shard that does not open, for what is
selected, prints nothing and fails with the opening's error. Otherwise, with whole records it
prints the lines of the records the record reader yields before its end or its first error,
and fails exactly when the reader ends with an error. With vectors or metadata it prints the
pairs the ids reader and the payload reader give side by side, each pulled on its own, up to
the first pull without a pair, and ends as `Pull.pairEnd` says of that pull. -/
theorem import_prints_until_first_error (d : Disk) (root : String) (s : Nat) :
    (∀ e, importRecords d root s = .error e →
        runImportCommand d root s .records = ("", some (Report.ofDumpError e))) ∧
      (∀ rr, importRecords d root s = .ok rr → ∃ xs e, Reader.Drains d rr xs e ∧
        runImportCommand d root s .records =
          (String.join (xs.map (importLine .records)), e.map Report.ofDumpError)) ∧
      (∀ e, importVectors d root s = .error e →
        runImportCommand d root s .vectors = ("", some (Report.ofDumpError e))) ∧
      (∀ ids vectors, importVectors d root s = .ok (ids, vectors) →
        ∃ ps, Reader.PairsUntil d ids vectors ps ∧
          runImportCommand d root s .vectors =
            (String.join (ps.map fun p => jsonLine ⟨p.1, some p.2, none⟩),
              (Pull.pairEnd (Reader.pullAt d ids ps.length)
                (Reader.pullAt d vectors ps.length)).map Report.ofDumpError)) ∧
      (∀ e, importMetas d root s = .error e →
        runImportCommand d root s .metas = ("", some (Report.ofDumpError e))) ∧
      ∀ ids metas, importMetas d root s = .ok (ids, metas) →
        ∃ ps, Reader.PairsUntil d ids metas ps ∧
          runImportCommand d root s .metas =
            (String.join (ps.map fun p => jsonLine ⟨p.1, none, some (Text.decodeLossy p.2)⟩),
              (Pull.pairEnd (Reader.pullAt d ids ps.length)
                (Reader.pullAt d metas ps.length)).map Report.ofDumpError) :=
  ⟨fun _ h => by unfold runImportCommand; rw [h], fun _ h => runImportCommand_records h,
    fun _ h => by unfold runImportCommand; rw [h], fun _ _ h => runImportCommand_vectors h,
    fun _ h => by unfold runImportCommand; rw [h], fun _ _ h => runImportCommand_metas h⟩

/-- A shard whose ids file holds one id more than its vectors and metas files: it opens for
whole records and for vectors, and a missing shard fails to open for metadata. -/
theorem import_prints_until_first_error_extra_id :
    let d : Disk :=
      { entries := [(["dump"], .directory), (["dump", "0"], .directory),
          (["dump", "0", "ids"], .file 0), (["dump", "0", "vectors"], .file 1),
          (["dump", "0", "metas"], .file 2)],
        inodes := [[97, 10, 98, 10], [8, 0, 0, 0, 0, 0, 0, 0, 0, 0, 240, 63], [1, 0, 0, 0, 109]] }
    let ids : IdReader := ⟨"dump/0/ids", some (BufferedReader.ofHandle (.file 0))⟩
    let vectors : VectorReader := ⟨⟨"dump/0/vectors", some (BufferedReader.ofHandle (.file 1))⟩⟩
    let rr : RecordReader :=
      { shard := 0, ids, vectors, metas := ⟨"dump/0/metas", some (BufferedReader.ofHandle (.file 2))⟩ }
    importRecords d "dump" 0 = .ok rr ∧
      (∃ xs e, Reader.Drains d rr xs e ∧
        Cli.runImportCommand d "dump" 0 .records =
          (String.join (xs.map (Cli.importLine .records)), e.map Report.ofDumpError)) ∧
      importVectors d "dump" 0 = .ok (ids, vectors) ∧
      (∃ ps, Reader.PairsUntil d ids vectors ps ∧
        Cli.runImportCommand d "dump" 0 .vectors =
          (String.join (ps.map fun p => Cli.jsonLine ⟨p.1, some p.2, none⟩),
            (Pull.pairEnd (Reader.pullAt d ids ps.length)
              (Reader.pullAt d vectors ps.length)).map Report.ofDumpError)) ∧
      importMetas {} "dump" 0 = .error (.notFound "dump/0") ∧
      Cli.runImportCommand {} "dump" 0 .metas = ("", some (Report.ofDumpError (.notFound "dump/0"))) :=
  ⟨rfl, (import_prints_until_first_error _ "dump" 0).2.1 _ rfl, rfl,
    (import_prints_until_first_error _ "dump" 0).2.2.2.1 _ _ rfl, rfl,
    (import_prints_until_first_error {} "dump" 0).2.2.2.2.1 _ rfl⟩

/- On that shard, whole records stop at a mismatch, while the vectors stop cleanly where the
vectors file ends. -/
example :
    let d : Disk :=
      { entries := [(["dump"], .directory), (["dump", "0"], .directory),
          (["dump", "0", "ids"], .file 0), (["dump", "0", "vectors"], .file 1),
          (["dump", "0", "metas"], .file 2)],
        inodes := [[97, 10, 98, 10], [8, 0, 0, 0, 0, 0, 0, 0, 0, 0, 240, 63], [1, 0, 0, 0, 109]] }
    (Cli.runImportCommand d "dump" 0 .records).2.isSome = true ∧
      (Cli.runImportCommand d "dump" 0 .vectors).2 = none := by
  decide +kernel

end ShardDump
