import Mathlib.Control.Monad.Basic
import ShardDump.Reader.Records
import ShardDump.Proofs.FileReaders

/-!
# Reading a shard in lock-step

A record reader that has not ended pulls each of its three file readers once per pull,
whatever they gave before. `lockStep` says what such a pull yields from the three items:
a record when all three give one; otherwise the first error in the order ids, vectors,
metas; otherwise the end when all three ended; otherwise a mismatch naming the files that
ended. After anything but a record the reader has ended for good.

`pullAt_importRecords` gives every pull of a freshly opened shard from the pulls of its
three files taken on their own, and counts the records yielded so far in `position`.
`drains_iff_of_active` says the same of whole runs that end cleanly: the records are read
exactly when each file gives its field of every record and then all three end together.
-/

namespace ShardDump

/-- The error a pull gives, if it gives one. -/
def Pull.error? {α : Type} : Pull α → Option DumpError
  | some (.error e) => some e
  | _ => none

/-! ## Pulls of the four readers -/

@[simp] theorem RecordReader.reader_next_eq (d : Disk) (r : RecordReader) :
    Reader.next d r = RecordReader.next d r := rfl

namespace RecordReader

open Reader (pullAt advance Drains pullAt_zero pullAt_succ advance_succ drains_nil_iff
  drains_cons_iff)

/-- Whether all three pulls gave an item. -/
def allItems (i : Pull String) (v : Pull (List Binary64)) (m : Pull Bytes) : Bool :=
  i.isItem && v.isItem && m.isItem

/-- What a lock-step pull at record `position` of shard `shard` yields, from what the ids,
vectors and metas files gave. -/
def lockStep (shard position : Nat) (i : Pull String) (v : Pull (List Binary64))
    (m : Pull Bytes) : Pull Record :=
  match i, v, m with
  | some (.ok id), some (.ok vector), some (.ok metadata) => some (.ok ⟨id, vector, metadata⟩)
  | _, _, _ =>
    match i.error? <|> v.error? <|> m.error? with
    | some e => some (.error e)
    | none =>
      if i.isNone && v.isNone && m.isNone then none
      else
        let ended := [("ids", i.isNone), ("vectors", v.isNone), ("metas", m.isNone)].filterMap
          fun (name, isEnd) => if isEnd then some name else none
        some (.error (.shardMismatch shard position
          (" and ".intercalate ended ++ " ended before the other files")))

/-! ## One pull -/

/-- A reader that has ended gives nothing and stays as it is. -/
theorem next_of_done (d : Disk) (r : RecordReader) (h : r.done = true) :
    next d r = (none, r) := by
  simp [next, h]

/-- One pull of a reader that has not ended: each file reader is pulled once, and
`lockStep` gives what they yield together. The reader counts a record and goes on after
a record, and has ended after anything else. -/
theorem next_of_not_done (d : Disk) (r : RecordReader) (h : r.done = false) :
    next d r =
      (lockStep r.shard r.position (r.ids.next d).1 (r.vectors.next d).1 (r.metas.next d).1,
        { r with ids := (r.ids.next d).2, vectors := (r.vectors.next d).2,
                 metas := (r.metas.next d).2,
                 position := if allItems (r.ids.next d).1 (r.vectors.next d).1
                   (r.metas.next d).1 then r.position + 1 else r.position,
                 done := !allItems (r.ids.next d).1 (r.vectors.next d).1 (r.metas.next d).1 }) := by
  simp only [next, h, Bool.false_eq_true, ↓reduceIte]
  -- every combination of what the three readers give, 27 in all
  rcases r.ids.next d with ⟨_ | _ | _, ids⟩ <;>
    rcases r.vectors.next d with ⟨_ | _ | _, vectors⟩ <;>
    rcases r.metas.next d with ⟨_ | _ | _, metas⟩ <;>
    simp [lockStep, allItems, Pull.isItem, Pull.error?, Pull.ended, mismatchReason]

/-- What one pull of a reader that has not ended yields. -/
theorem next_fst_of_not_done (d : Disk) (r : RecordReader) (h : r.done = false) :
    (next d r).1 =
      lockStep r.shard r.position (r.ids.next d).1 (r.vectors.next d).1 (r.metas.next d).1 := by
  rw [next_of_not_done d r h]

/-- The lock-step pull gives a record exactly when all three files give an item. -/
theorem lockStep_isItem (shard position : Nat) (i : Pull String) (v : Pull (List Binary64))
    (m : Pull Bytes) : (lockStep shard position i v m).isItem = allItems i v m := by
  rcases i with _ | _ | _ <;> rcases v with _ | _ | _ <;> rcases m with _ | _ | _ <;>
    simp [lockStep, allItems, Pull.isItem, Pull.error?]

/-- The lock-step pull gives the record `x` exactly when each file gives its field of `x`. -/
theorem lockStep_eq_item_iff {shard position : Nat} {i : Pull String}
    {v : Pull (List Binary64)} {m : Pull Bytes} {x : Record} :
    lockStep shard position i v m = some (.ok x) ↔
      i = some (.ok x.id) ∧ v = some (.ok x.vector) ∧ m = some (.ok x.metadata) := by
  obtain ⟨id, vector, metadata⟩ := x
  rcases i with _ | _ | _ <;> rcases v with _ | _ | _ <;> rcases m with _ | _ | _ <;>
    grind [lockStep, Pull.error?]

/-- The lock-step pull gives the end exactly when all three files end. -/
theorem lockStep_eq_none_iff {shard position : Nat} {i : Pull String}
    {v : Pull (List Binary64)} {m : Pull Bytes} :
    lockStep shard position i v m = none ↔ i = none ∧ v = none ∧ m = none := by
  rcases i with _ | _ | _ <;> rcases v with _ | _ | _ <;> rcases m with _ | _ | _ <;>
    simp [lockStep, Pull.error?]

/-! ## Many pulls -/

/-- A reader that has ended gives nothing at every later pull. -/
theorem pullAt_of_done (d : Disk) (r : RecordReader) (h : r.done = true) (k : Nat) :
    pullAt d r k = none := by
  induction k with
  | zero => simp [next_of_done d r h]
  | succ k ih => simpa [next_of_done d r h] using ih

/-- A reader that has ended stays as it is. -/
theorem advance_of_done (d : Disk) (r : RecordReader) (h : r.done = true) (k : Nat) :
    advance d r k = r := by
  induction k with
  | zero => rfl
  | succ k ih => simpa [next_of_done d r h] using ih

/-- The pull after one that gave a record is the next pull of the three file readers. -/
theorem next_snd_of_allItems (d : Disk) (r : RecordReader) (h : r.done = false)
    (hall : allItems (r.ids.next d).1 (r.vectors.next d).1 (r.metas.next d).1 = true) :
    (next d r).2 =
      { r with ids := (r.ids.next d).2, vectors := (r.vectors.next d).2,
               metas := (r.metas.next d).2, position := r.position + 1 } := by
  rw [next_of_not_done d r h]
  simp [hall, h]

/-- After a pull that gave no record the reader has ended. -/
theorem done_next_of_not_allItems (d : Disk) (r : RecordReader) (h : r.done = false)
    (hall : allItems (r.ids.next d).1 (r.vectors.next d).1 (r.metas.next d).1 = false) :
    (next d r).2.done = true := by
  rw [next_of_not_done d r h]
  simp [hall]

/-- What the file readers give at a later pull is what they give, after one pull, one
pull sooner. -/
theorem allItems_succ (d : Disk) (r : RecordReader) (j : Nat) :
    allItems (pullAt d r.ids (j + 1)) (pullAt d r.vectors (j + 1)) (pullAt d r.metas (j + 1)) =
      allItems (pullAt d (r.ids.next d).2 j) (pullAt d (r.vectors.next d).2 j)
        (pullAt d (r.metas.next d).2 j) := by
  simp

/-- Every pull of a reader that has not ended: while the three files gave items at every
earlier pull, what `lockStep` makes of their pulls at this one, and nothing after that. -/
theorem pullAt_of_not_done (d : Disk) (r : RecordReader) (h : r.done = false) (k : Nat) :
    pullAt d r k =
      if ∀ j < k, allItems (pullAt d r.ids j) (pullAt d r.vectors j) (pullAt d r.metas j) then
        lockStep r.shard (r.position + k) (pullAt d r.ids k) (pullAt d r.vectors k)
          (pullAt d r.metas k)
      else none := by
  -- induction on the pulls, carried by the reader after the first one
  induction k generalizing r with
  | zero => simp [next_of_not_done d r h]
  | succ k ih =>
    rw [pullAt_succ, reader_next_eq]
    cases hall : allItems (r.ids.next d).1 (r.vectors.next d).1 (r.metas.next d).1 with
    | true =>
      have ih' := ih (next d r).2 (by rw [next_snd_of_allItems d r h hall]; exact h)
      rw [next_snd_of_allItems d r h hall] at ih'
      rw [next_snd_of_allItems d r h hall, ih']
      by_cases hc : ∀ j < k + 1,
          allItems (pullAt d r.ids j) (pullAt d r.vectors j) (pullAt d r.metas j)
      · have hc' : ∀ j < k, allItems (pullAt d (r.ids.next d).2 j)
            (pullAt d (r.vectors.next d).2 j) (pullAt d (r.metas.next d).2 j) := by
          intro j hj
          rw [← allItems_succ]
          exact hc (j + 1) (by omega)
        rw [if_pos hc', if_pos hc]
        simp [Nat.add_assoc, Nat.add_comm 1 k]
      · have hc' : ¬ ∀ j < k, allItems (pullAt d (r.ids.next d).2 j)
            (pullAt d (r.vectors.next d).2 j) (pullAt d (r.metas.next d).2 j) := by
          intro hj
          apply hc
          intro j hjk
          cases j with
          | zero => simpa using hall
          | succ j =>
            rw [allItems_succ]
            exact hj j (by omega)
        rw [if_neg hc', if_neg hc]
    | false =>
      have hfails : ¬ ∀ j < k + 1, allItems (pullAt d r.ids j) (pullAt d r.vectors j)
          (pullAt d r.metas j) := fun hj => by simpa [hall] using hj 0 (by omega)
      rw [pullAt_of_done d _ (done_next_of_not_allItems d r h hall), if_neg hfails]

/-- While the three files give items, the reader has pulled each of them as often as it
was pulled itself and counted that many records. -/
theorem advance_of_allItems (d : Disk) (r : RecordReader) (h : r.done = false) (k : Nat)
    (hall : ∀ j < k, allItems (pullAt d r.ids j) (pullAt d r.vectors j) (pullAt d r.metas j)) :
    advance d r k =
      { r with ids := advance d r.ids k, vectors := advance d r.vectors k,
               metas := advance d r.metas k, position := r.position + k } := by
  induction k generalizing r with
  | zero => rfl
  | succ k ih =>
    have h0 : allItems (r.ids.next d).1 (r.vectors.next d).1 (r.metas.next d).1 = true := by
      simpa using hall 0 (by omega)
    have ih' := ih (next d r).2 (by rw [next_snd_of_allItems d r h h0]; exact h)
      (fun j hj => by
        rw [next_snd_of_allItems d r h h0]
        simpa using hall (j + 1) (by omega))
    rw [next_snd_of_allItems d r h h0] at ih'
    rw [advance_succ, reader_next_eq, next_snd_of_allItems d r h h0, ih']
    simp [Nat.add_assoc, Nat.add_comm 1 k]

/-- The position of a reader that has not ended counts the records it yielded since. -/
theorem position_advance (d : Disk) (r : RecordReader) (h : r.done = false) (k : Nat) :
    (advance d r k).position =
      r.position + (List.range k).countP fun j => (pullAt d r j).isItem := by
  induction k generalizing r with
  | zero => simp
  | succ k ih =>
    rw [advance_succ, reader_next_eq, List.range_succ_eq_map, List.countP_cons,
      List.countP_map]
    have hfirst : (pullAt d r 0).isItem =
        allItems (r.ids.next d).1 (r.vectors.next d).1 (r.metas.next d).1 := by
      rw [pullAt_zero, reader_next_eq, next_of_not_done d r h, lockStep_isItem]
    have hlater : ∀ j, (pullAt d r (j + 1)).isItem = (pullAt d (next d r).2 j).isItem := by
      intro j
      rw [pullAt_succ, reader_next_eq]
    simp only [Function.comp_def, Nat.succ_eq_add_one, hlater, hfirst]
    cases hall : allItems (r.ids.next d).1 (r.vectors.next d).1 (r.metas.next d).1 with
    | true =>
      rw [ih _ (by rw [next_snd_of_allItems d r h hall]; exact h), next_snd_of_allItems d r h hall]
      simp only [↓reduceIte]
      omega
    | false =>
      -- the reader has ended: its position stays and no later pull gives a record
      have hdone := done_next_of_not_allItems d r h hall
      have hrest : (List.range k).countP (fun j => (pullAt d (next d r).2 j).isItem) = 0 := by
        rw [List.countP_eq_zero]
        intro j _
        simp [pullAt_of_done d _ hdone, Pull.isItem]
      have hpos : (next d r).2.position = r.position := by
        rw [next_of_not_done d r h]
        simp [hall]
      rw [advance_of_done d _ hdone, hrest, hpos]
      simp

/-! ## Runs that end cleanly -/

/-- A reader that has not ended reads the records `recs` and then ends cleanly exactly when
each file reader gives its field of every record and then ends. -/
theorem drains_iff_of_active (d : Disk) (r : RecordReader) (h : r.done = false)
    (recs : List Record) :
    Drains d r recs none ↔
      Drains d r.ids (recs.map Record.id) none ∧
        Drains d r.vectors (recs.map Record.vector) none ∧
        Drains d r.metas (recs.map Record.metadata) none := by
  induction recs generalizing r with
  | nil =>
    simp only [List.map_nil, drains_nil_iff, Pull.ofEnding_none, reader_next_eq,
      IdReader.reader_next_eq, VectorReader.reader_next_eq, FrameReader.reader_next_eq]
    rw [next_fst_of_not_done d r h, lockStep_eq_none_iff]
  | cons x xs ih =>
    simp only [List.map_cons, drains_cons_iff, reader_next_eq, IdReader.reader_next_eq,
      VectorReader.reader_next_eq, FrameReader.reader_next_eq]
    rw [next_fst_of_not_done d r h, lockStep_eq_item_iff]
    -- after a record the reader goes on with the three file readers one pull further
    have hnext : ∀ hall : allItems (r.ids.next d).1 (r.vectors.next d).1 (r.metas.next d).1,
        (next d r).2.done = false := fun hall => by
      rw [next_snd_of_allItems d r h hall]
      exact h
    constructor
    · rintro ⟨⟨hi, hv, hm⟩, hs⟩
      have hall : allItems (r.ids.next d).1 (r.vectors.next d).1 (r.metas.next d).1 = true := by
        simp [allItems, hi, hv, hm, Pull.isItem]
      obtain ⟨hsi, hsv, hsm⟩ := (ih _ (hnext hall)).1 hs
      rw [next_snd_of_allItems d r h hall] at hsi hsv hsm
      exact ⟨⟨hi, hsi⟩, ⟨hv, hsv⟩, ⟨hm, hsm⟩⟩
    · rintro ⟨⟨hi, hsi⟩, ⟨hv, hsv⟩, ⟨hm, hsm⟩⟩
      have hall : allItems (r.ids.next d).1 (r.vectors.next d).1 (r.metas.next d).1 = true := by
        simp [allItems, hi, hv, hm, Pull.isItem]
      refine ⟨⟨hi, hv, hm⟩, (ih _ (hnext hall)).2 ?_⟩
      rw [next_snd_of_allItems d r h hall]
      exact ⟨hsi, hsv, hsm⟩

end RecordReader

/-! ## Opening a shard -/

/-- The paths `ShardFiles.existing` returns are the shard's paths. -/
theorem ShardFiles.eq_ofShard_of_existing {d : Disk} {root : String} {s : Nat}
    {f : ShardFiles} (h : ShardFiles.existing d root s = .ok f) :
    f = ShardFiles.ofShard root s := by
  unfold ShardFiles.existing at h
  dsimp only at h
  split at h
  · cases h
  · cases h
    rfl

/-- Importing a shard opens its three files in turn, and the reader starts at the first
record of each. -/
theorem importRecords_eq_ok_iff {d : Disk} {root : String} {s : Nat} {rr : RecordReader} :
    importRecords d root s = .ok rr ↔
      (∃ f, ShardFiles.existing d root s = .ok f) ∧
        ∃ (ids : IdReader) (vectors : VectorReader) (metas : MetaReader),
          IdReader.open? d (ShardFiles.ofShard root s).ids = .ok ids ∧
          VectorReader.open? d (ShardFiles.ofShard root s).vectors = .ok vectors ∧
          FrameReader.open? d (ShardFiles.ofShard root s).metas = .ok metas ∧
          rr = { shard := s, ids, vectors, metas } := by
  unfold importRecords
  cases hf : ShardFiles.existing d root s with
  | error e => simp [bind, Except.bind]
  | ok f =>
    rw [ShardFiles.eq_ofShard_of_existing hf]
    cases hi : IdReader.open? d (ShardFiles.ofShard root s).ids <;>
      cases hv : VectorReader.open? d (ShardFiles.ofShard root s).vectors <;>
      cases hm : FrameReader.open? d (ShardFiles.ofShard root s).metas <;>
      simp [hi, hv, hm, bind, Except.bind, pure, Except.pure, eq_comm]

/-! ## The record reader of a shard -/

/-- Every pull of the record reader of a shard whose files open. Let the ids, vectors and
metas readers each be pulled on their own. While all three gave items at every earlier
pull, the record reader yields what `lockStep` makes of their pulls at this one, at the
position equal to the number of records before it; after the first pull where they did
not, it yields nothing. Its position is the number of records it yielded. -/
theorem pullAt_importRecords {d : Disk} {root : String} {s : Nat} {rr : RecordReader}
    (h : importRecords d root s = .ok rr) :
    ∃ (ids : IdReader) (vectors : VectorReader) (metas : MetaReader),
      IdReader.open? d (ShardFiles.ofShard root s).ids = .ok ids ∧
      VectorReader.open? d (ShardFiles.ofShard root s).vectors = .ok vectors ∧
      FrameReader.open? d (ShardFiles.ofShard root s).metas = .ok metas ∧
      ∀ k, Reader.pullAt d rr k =
          (if ∀ j < k, RecordReader.allItems (Reader.pullAt d ids j)
              (Reader.pullAt d vectors j) (Reader.pullAt d metas j) then
            RecordReader.lockStep s k (Reader.pullAt d ids k) (Reader.pullAt d vectors k)
              (Reader.pullAt d metas k)
          else none) ∧
        (Reader.advance d rr k).position =
          (List.range k).countP fun j => (Reader.pullAt d rr j).isItem := by
  obtain ⟨-, ids, vectors, metas, hi, hv, hm, rfl⟩ := importRecords_eq_ok_iff.1 h
  refine ⟨ids, vectors, metas, hi, hv, hm, fun k => ⟨?_, ?_⟩⟩
  · rw [RecordReader.pullAt_of_not_done d _ rfl k]
    simp
  · rw [RecordReader.position_advance d _ rfl k]
    simp

/-- A shard whose ids file holds one line and whose vectors and metas files hold two frames
each opens, and by the lock-step law its reader yields the record of the first line and frames,
then a mismatch naming the ids file, then nothing. -/
theorem pullAt_importRecords_record_then_mismatch :
    let d : Disk :=
      { entries := [(["dump"], .directory), (["dump", "0"], .directory),
          (["dump", "0", "ids"], .file 0), (["dump", "0", "vectors"], .file 1),
          (["dump", "0", "metas"], .file 2)],
        inodes := [[97, 10],
          [8, 0, 0, 0, 0, 0, 0, 0, 0, 0, 0xf0, 0x3f, 8, 0, 0, 0, 0, 0, 0, 0, 0, 0, 0xf0, 0x3f],
          [1, 0, 0, 0, 109, 1, 0, 0, 0, 109]] }
    let rr : RecordReader :=
      { shard := 0, ids := ⟨"dump/0/ids", some (BufferedReader.ofHandle (.file 0))⟩,
        vectors := ⟨⟨"dump/0/vectors", some (BufferedReader.ofHandle (.file 1))⟩⟩,
        metas := ⟨"dump/0/metas", some (BufferedReader.ofHandle (.file 2))⟩ }
    importRecords d "dump" 0 = .ok rr ∧
      Reader.pullAt d rr 0 = some (.ok ⟨"a", [⟨0x3ff0000000000000⟩], [109]⟩) ∧
      Reader.pullAt d rr 1 =
        some (.error (.shardMismatch 0 1 "ids ended before the other files")) ∧
      Reader.pullAt d rr 2 = none := by
  intro d rr
  have hopen : importRecords d "dump" 0 = .ok rr := rfl
  obtain ⟨ids, vectors, metas, hi, hv, hm, hpull⟩ := pullAt_importRecords hopen
  -- the law speaks of the three files' readers as they open
  obtain rfl : ids = rr.ids := Except.ok.inj (hi.symm.trans rfl)
  obtain rfl : vectors = rr.vectors := Except.ok.inj (hv.symm.trans rfl)
  obtain rfl : metas = rr.metas := Except.ok.inj (hm.symm.trans rfl)
  -- each file read on its own: one line, and two frames of the vectors and of the metas
  have hi0 : Reader.pullAt d rr.ids 0 = some (.ok "a") := by decide +kernel
  have hi1 : Reader.pullAt d rr.ids 1 = none := by decide +kernel
  have hv0 : Reader.pullAt d rr.vectors 0 = some (.ok [⟨0x3ff0000000000000⟩]) := by decide +kernel
  have hv1 : Reader.pullAt d rr.vectors 1 = some (.ok [⟨0x3ff0000000000000⟩]) := by decide +kernel
  have hm0 : Reader.pullAt d rr.metas 0 = some (.ok [109]) := by decide +kernel
  have hm1 : Reader.pullAt d rr.metas 1 = some (.ok [109]) := by decide +kernel
  refine ⟨hopen, ?_, ?_, ?_⟩
  · rw [(hpull 0).1, if_pos (fun j hj => absurd hj (Nat.not_lt_zero j)), hi0, hv0, hm0]
    rfl
  · have hfirst : ∀ j < 1, RecordReader.allItems (Reader.pullAt d rr.ids j)
        (Reader.pullAt d rr.vectors j) (Reader.pullAt d rr.metas j) := by
      intro j hj
      obtain rfl : j = 0 := Nat.lt_one_iff.1 hj
      rw [hi0, hv0, hm0]
      rfl
    rw [(hpull 1).1, if_pos hfirst, hi1, hv1, hm1]
    rfl
  · -- the ids file ended at the second pull, so the reader had ended
    have hsecond : ¬ ∀ j < 2, RecordReader.allItems (Reader.pullAt d rr.ids j)
        (Reader.pullAt d rr.vectors j) (Reader.pullAt d rr.metas j) := by
      intro h
      have h1 := h 1 (by decide)
      rw [hi1] at h1
      exact absurd h1 (by decide)
    rw [(hpull 2).1, if_neg hsecond]

end ShardDump
