import ShardDump.Export
import ShardDump.Proofs.DumpLayout

/-!
# The steps of an export

An export step runs on a state of disk, source and pull count, and either gives a value or
fails, keeping the state it reached. This module follows one shard's steps on the disk
`Disk.withShards`: creating the shard's directory and files adds the shard with no
records, and each record written appends its line and frames to that shard. How filling a
shard ends is read off the source alone: the records at its head that pass the checks,
and the item that stops them.
-/

namespace ShardDump

/-! ## Running export steps -/

namespace ExportM

theorem run_bind {α β : Type} (x : ExportM α) (f : α → ExportM β) (s : ExportState) :
    (x >>= f).run.run s = match x.run.run s with
      | (.ok a, s') => (f a).run.run s'
      | (.error e, s') => (.error e, s') := by
  simp only [bind, ExceptT.bind, ExceptT.run, ExceptT.mk, StateT.run, StateT.bind]
  rcases x s with ⟨_ | _, s'⟩ <;> rfl

@[simp] theorem run_pure {α : Type} (a : α) (s : ExportState) :
    (pure a : ExportM α).run.run s = (.ok a, s) := rfl

@[simp] theorem run_throw {α : Type} (e : DumpError) (s : ExportState) :
    (throw e : ExportM α).run.run s = (.error e, s) := rfl

@[simp] theorem run_get (s : ExportState) : (get : ExportM ExportState).run.run s = (.ok s, s) :=
  rfl

@[simp] theorem run_set (s s' : ExportState) : (set s' : ExportM PUnit).run.run s = (.ok (), s') :=
  rfl

theorem run_pull_nil (d : Disk) (k : Nat) :
    pull.run.run ⟨d, [], k⟩ = (.ok none, ⟨d, [], k + 1⟩) := rfl

theorem run_pull_cons (d : Disk) (item : SourceItem) (rest : List SourceItem) (k : Nat) :
    pull.run.run ⟨d, item :: rest, k⟩ = (.ok (some item), ⟨d, rest, k + 1⟩) := rfl

theorem run_onDisk {α : Type} (f : Disk → Except Errno (α × Disk)) (s : ExportState) :
    (onDisk f).run.run s = match f s.disk with
      | .ok (a, d) => (.ok a, { s with disk := d })
      | .error e => (.error (.io (.os e)), s) := by
  rcases h : f s.disk with e | ⟨a, d⟩ <;> simp only [onDisk, run_bind, run_get, h] <;> rfl

/-- A payload that a frame can carry is appended to the file as its frame. -/
theorem run_appendFrame {payload : Bytes} (hne : payload ≠ []) (hlt : payload.length < Frame.lengthLimit)
    (file : Nat) (s : ExportState) :
    (appendFrame file payload).run.run s =
      (.ok (), { s with disk := s.disk.append file (Frame.encode payload) }) := by
  simp only [appendFrame, run_bind, run_get, Frame.write_of_ne_nil _ hne hlt]
  rfl

end ExportM

open ExportM

/-! ## The items an export writes -/

/-- What an item of the source becomes when written: its record if the record passes the
checks, else the error the export stops with. -/
def SourceItem.toRecord : SourceItem → Except DumpError Record
  | .error msg => .error (.source msg)
  | .ok r =>
    match r.validate with
    | .ok () => .ok r
    | .error e => .error e

/-- The records at the head of a source that pass the checks, and the error of the item
after them, if there is one. -/
def SourceItem.writable : List SourceItem → List Record × Option DumpError
  | [] => ([], none)
  | item :: rest =>
    match item.toRecord with
    | .error e => ([], some e)
    | .ok r => Prod.map (r :: ·) id (writable rest)

namespace SourceItem

@[simp] theorem writable_nil : writable [] = ([], none) := rfl

theorem writable_cons_error {item : SourceItem} {e : DumpError} (h : item.toRecord = .error e)
    (rest : List SourceItem) : writable (item :: rest) = ([], some e) := by
  simp [writable, h]

theorem writable_cons_ok {item : SourceItem} {r : Record} (h : item.toRecord = .ok r)
    (rest : List SourceItem) :
    writable (item :: rest) = (r :: (writable rest).1, (writable rest).2) := by
  simp only [writable, h]
  rfl

theorem toRecord_ok_iff {item : SourceItem} {r : Record} :
    item.toRecord = .ok r ↔ item = .ok r ∧ r.validate = .ok () := by
  rcases item with msg | r'
  · simp [toRecord]
  · rcases hv : r'.validate with e | ⟨⟩
    · simp [toRecord, hv]
      rintro rfl
      rw [hv]
      simp
    · simp only [toRecord, hv, Except.ok.injEq]
      constructor
      · rintro rfl
        exact ⟨rfl, hv⟩
      · rintro ⟨heq, -⟩
        exact heq

end SourceItem

/-- How pulling `left` items for shard `shard`, which holds `written` records, ends when the
first of those items give the records `rs` and then the error `e`: with the shard's count,
or with the error that stopped it; and how many pulls it made. -/
def fillOutcome (shard expected written left : Nat) (rs : List Record) (e : Option DumpError) :
    Except DumpError Nat × Nat :=
  if rs.length = left then (.ok (written + left), left)
  else (.error (e.getD (.sourceExhausted shard expected (written + rs.length))), rs.length + 1)

/-- A record written first counts once more and costs one pull more. -/
theorem fillOutcome_cons (shard expected written left : Nat) (r : Record) (rs : List Record)
    (e : Option DumpError) :
    fillOutcome shard expected written (left + 1) (r :: rs) e =
      ((fillOutcome shard expected (written + 1) left rs e).1,
        (fillOutcome shard expected (written + 1) left rs e).2 + 1) := by
  unfold fillOutcome
  by_cases hlen : rs.length = left
  · simp [hlen]
    omega
  · cases e <;> simp [hlen]
    omega

/-! ## Writing a record -/

namespace Disk

theorem eq_of_entries_inodes {d d' : Disk} (he : d.entries = d'.entries)
    (hi : d.inodes = d'.inodes) : d = d' := by
  cases d
  cases d'
  simp only at he hi
  rw [he, hi]

theorem length_flatMap_shardContents (shards : List (List Record)) :
    (shards.flatMap shardContents).length = 3 * shards.length := by
  induction shards with
  | nil => rfl
  | cons recs shards ih =>
    simp [shardContents, ih]
    omega

/-- Appending to an inode after a prefix of the inodes changes the part after it. -/
theorem inodes_append_of_eq {d : Disk} {pre rest : List Bytes} (h : d.inodes = pre ++ rest)
    (k : Nat) (bytes : Bytes) :
    (d.append (pre.length + k) bytes).inodes = pre ++ rest.set k (rest.getD k [] ++ bytes) := by
  simp only [append, setContent, content, h]
  rw [List.set_append_right _ _ (by omega), Nat.add_sub_cancel_left, List.getD_eq_getElem?_getD,
    List.getElem?_append_right (by omega), Nat.add_sub_cancel_left, ← List.getD_eq_getElem?_getD]

theorem inodes_withShards_last (d : Disk) (top : List String) (done : List (List Record))
    (cur : List Record) :
    (d.withShards top (done ++ [cur])).inodes =
      (d.inodes ++ done.flatMap shardContents) ++ shardContents cur := by
  simp [withShards]

/-- Writing a record appends its frames and its line to the files of the last shard. -/
theorem withShards_append_record (d : Disk) (top : List String) (done : List (List Record))
    (cur : List Record) (r : Record) :
    (((d.withShards top (done ++ [cur])).append (d.inodes.length + 3 * done.length + 1)
        (Frame.encode r.vectorBytes)).append (d.inodes.length + 3 * done.length + 2)
        (Frame.encode r.metadata)).append (d.inodes.length + 3 * done.length)
        (r.id ++ "\n").toUTF8.toList =
      d.withShards top (done ++ [cur ++ [r]]) := by
  have hpre : (d.inodes ++ done.flatMap shardContents).length =
      d.inodes.length + 3 * done.length := by
    rw [List.length_append, length_flatMap_shardContents]
  -- the three files of the last shard follow the inodes of the shards before it
  have h1 := inodes_append_of_eq (inodes_withShards_last d top done cur) 1
    (Frame.encode r.vectorBytes)
  rw [hpre] at h1
  have h2 := inodes_append_of_eq h1 2 (Frame.encode r.metadata)
  rw [hpre] at h2
  have h3 := inodes_append_of_eq h2 0 (r.id ++ "\n").toUTF8.toList
  simp only [hpre, Nat.add_zero] at h3
  refine eq_of_entries_inodes ?_ ?_
  · simp [append, setContent, withShards]
  · rw [h3, inodes_withShards_last]
    simp [shardContents, idsBytes, vectorsBytes, metasBytes, idLine]

end Disk

/-- A record that passes the checks has two payloads that frames can carry: the vector's has
eight bytes per value, and the length the checks compute is that real length. -/
theorem Record.frameable_of_validate {r : Record} (hr : r.validate = .ok ()) :
    r.vectorBytes ≠ [] ∧ r.vectorBytes.length < Frame.lengthLimit ∧
      r.metadata ≠ [] ∧ r.metadata.length < Frame.lengthLimit := by
  obtain ⟨-, hv, hm, hvlen, hmlen⟩ := (Record.validate_eq_ok_iff r).1 hr
  have hbytes : r.vectorBytes ≠ [] := by
    intro hnil
    have hlen := congrArg List.length hnil
    rw [Record.vectorBytes, length_encodeVector, List.length_nil] at hlen
    exact hv (List.eq_nil_of_length_eq_zero (by omega))
  exact ⟨hbytes, hvlen, hm, hmlen⟩

namespace ShardWriter

/-- A record that passes the checks has its frames and its line appended, and is counted. -/
theorem run_write_ok {r : Record} (hr : r.validate = .ok ()) (w : ShardWriter) (s : ExportState) :
    (w.write r).run.run s =
      (.ok { w with written := w.written + 1 },
        { s with disk := ((s.disk.append w.vectors (Frame.encode r.vectorBytes)).append w.metas
          (Frame.encode r.metadata)).append w.ids (r.id ++ "\n").toUTF8.toList }) := by
  obtain ⟨hv, hvlen, hm, hmlen⟩ := Record.frameable_of_validate hr
  simp only [write, hr, run_bind, run_appendFrame hv hvlen, run_appendFrame hm hmlen]
  rfl

/-- A record that fails the checks is refused with their error, and nothing changes. -/
theorem run_write_error {r : Record} {e : DumpError} (hr : r.validate = .error e) (w : ShardWriter)
    (s : ExportState) : (w.write r).run.run s = (.error e, s) := by
  simp only [write, hr]
  rfl

end ShardWriter

/-! ## Creating a shard -/

namespace Disk

/-- Opening a new name in a directory for writing adds its entry with an empty inode. -/
theorem openWrite_join_new {d : Disk} {dirPath : String} {dir : List String} {w : Bool}
    (hdir : d.walk dirPath = .ok ⟨dir, some .directory, w⟩) {name : String}
    (hname : Path.isPlainName name = true) (hnone : d.node? (dir ++ [name]) = none)
    (truncate : Bool) :
    d.openWrite (Path.join dirPath name) truncate =
      .ok (d.inodes.length,
        (d.newInode []).2.addEntry (dir ++ [name]) (.file d.inodes.length)) := by
  have hw := walk_join hdir hname
  rw [hnone] at hw
  exact openWrite_eq_new hw rfl rfl truncate

theorem extends_openWrite_new (d : Disk) (p : List String) (n : Node) :
    d.Extends ((d.newInode []).2.addEntry p n) :=
  (extends_newInode d []).trans (extends_addEntry _ p n)

theorem length_inodes_withShards (d : Disk) (top : List String) (shards : List (List Record)) :
    (d.withShards top shards).inodes.length = d.inodes.length + 3 * shards.length := by
  simp [withShards, -List.length_flatMap, length_flatMap_shardContents]

/-- The directory and the three empty files of a new shard, made in that order, are the
shard with no records. -/
theorem withShards_new_shard (d : Disk) (top : List String) (done : List (List Record)) :
    let dir := top ++ [toString done.length]
    let d₁ := (d.withShards top done).addEntry dir .directory
    let d₂ := (d₁.newInode []).2.addEntry (dir ++ [idsFileName]) (.file d₁.inodes.length)
    let d₃ := (d₂.newInode []).2.addEntry (dir ++ [vectorsFileName]) (.file d₂.inodes.length)
    (d₃.newInode []).2.addEntry (dir ++ [metasFileName]) (.file d₃.inodes.length) =
      d.withShards top (done ++ [[]]) := by
  refine eq_of_entries_inodes ?_ ?_
  · simp [addEntry, newInode, withShards, List.range_succ, shardEntries, -List.length_flatMap,
      length_flatMap_shardContents, Nat.add_assoc]
  · simp [addEntry, newInode, withShards, shardContents, idsBytes, vectorsBytes, metasBytes]

end Disk

/-! ## Filling a shard -/

/-- Filling the last shard of `d.withShards top (done ++ [cur])`, through a writer over its three
files, with `left` more items of a source: the shard takes the records at the source's head that
pass the checks, up to `left` of them, and `fillOutcome` says how it ends, with the writer's
count, and how many items it pulled. -/
theorem run_fillShard (d : Disk) (top : List String) (done : List (List Record)) {w : ShardWriter}
    (hids : w.ids = d.inodes.length + 3 * done.length)
    (hvectors : w.vectors = d.inodes.length + 3 * done.length + 1)
    (hmetas : w.metas = d.inodes.length + 3 * done.length + 2)
    (expected left : Nat) (cur : List Record) (src : List SourceItem) (k : Nat) :
    (fillShard expected left w).run.run ⟨d.withShards top (done ++ [cur]), src, k⟩ =
      ((fillOutcome w.shard expected w.written left (SourceItem.writable (src.take left)).1
          (SourceItem.writable (src.take left)).2).1.map fun n => { w with written := n },
        ⟨d.withShards top (done ++ [cur ++ (SourceItem.writable (src.take left)).1]),
          src.drop (fillOutcome w.shard expected w.written left
            (SourceItem.writable (src.take left)).1 (SourceItem.writable (src.take left)).2).2,
          k + (fillOutcome w.shard expected w.written left (SourceItem.writable (src.take left)).1
            (SourceItem.writable (src.take left)).2).2⟩) := by
  -- the induction is on the items left to pull, with the shard's records and the writer's
  -- count growing; the writer's files stay where they are
  induction left generalizing w cur src k with
  | zero =>
    rw [fillShard, run_pure]
    simp [fillOutcome, Except.map]
  | succ left ih =>
    rw [fillShard, run_bind]
    cases src with
    | nil =>
      rw [run_pull_nil]
      dsimp only
      rw [run_throw]
      simp [fillOutcome, Except.map]
    | cons item rest =>
      rw [run_pull_cons, List.take_succ_cons]
      rcases item with msg | r
      · -- an error of the source stops the shard
        dsimp only
        rw [run_throw, SourceItem.writable_cons_error rfl]
        simp [fillOutcome, Except.map]
      · cases hv : r.validate with
        | error e =>
          -- so does a record that fails its checks, before anything is written
          have hrec : SourceItem.toRecord (.ok r) = .error e := by
            simp [SourceItem.toRecord, hv]
          dsimp only
          rw [run_bind, ShardWriter.run_write_error hv, SourceItem.writable_cons_error hrec]
          simp [fillOutcome, Except.map]
        | ok u =>
          -- the record is written and the shard goes on with the rest of the source
          have hrec : SourceItem.toRecord (.ok r) = .ok r := by
            simp [SourceItem.toRecord, hv]
          have happend := Disk.withShards_append_record d top done cur r
          rw [← hmetas, ← hvectors, ← hids] at happend
          dsimp only
          rw [run_bind, ShardWriter.run_write_ok hv, happend]
          dsimp only
          rw [ih (w := { w with written := w.written + 1 }) hids hvectors hmetas,
            SourceItem.writable_cons_ok hrec, fillOutcome_cons]
          simp [List.append_assoc, Nat.add_assoc, Nat.add_comm 1]

/-! ## Writing a shard -/

/-- Creating shard `m` after the shards `0` to `m - 1` makes its directory and its three empty
files, whose inodes follow those of the shards before it, and a writer over them that has
written nothing. -/
theorem run_create {d : Disk} {root : String} {top : List String}
    (hroot : d.EmptyDir root top) {done : List (List Record)} (hm : done.length < Text.wordBound)
    (src : List SourceItem) (k : Nat) :
    (ShardWriter.create root done.length).run.run ⟨d.withShards top done, src, k⟩ =
      (.ok ⟨done.length, ShardFiles.ofShard root done.length, d.inodes.length + 3 * done.length,
          d.inodes.length + 3 * done.length + 1, d.inodes.length + 3 * done.length + 2, 0⟩,
        ⟨d.withShards top (done ++ [[]]), src, k⟩) := by
  obtain ⟨w, hw⟩ : ∃ w, (d.withShards top done).walk root = .ok ⟨top, some .directory, w⟩ :=
    Disk.walk_root_withShards hroot
  -- nothing is yet below the new shard's name
  have hnone : ∀ rest, (d.withShards top done).node? (top ++ toString done.length :: rest) =
      none := fun rest => by
    rw [Disk.node?_withShards hroot (by omega) hm rest]
    simp
  have hw₀ : (d.withShards top done).walk (shardDir root done.length) =
      .ok ⟨top ++ [toString done.length], none, false⟩ := by
    rw [shardDir, Disk.walk_join hw (isPlainName_toString _), hnone []]
  -- the directory, then the files of ids, vectors and metas, each new where it is made
  let dir := top ++ [toString done.length]
  let d₁ := (d.withShards top done).addEntry dir .directory
  let d₂ := (d₁.newInode []).2.addEntry (dir ++ [idsFileName]) (.file d₁.inodes.length)
  let d₃ := (d₂.newInode []).2.addEntry (dir ++ [vectorsFileName]) (.file d₂.inodes.length)
  have hw₁ : d₁.walk (shardDir root done.length) = .ok ⟨dir, some .directory, false⟩ := by
    rw [Disk.walk_extends (Disk.extends_addEntry _ _ _) hw₀, Disk.node?_addEntry, hnone [],
      Option.none_or, if_pos rfl]
  have hw₂ := Disk.walk_extends_of_some (Disk.extends_openWrite_new d₁ (dir ++ [idsFileName])
    (.file d₁.inodes.length)) hw₁
  have hw₃ := Disk.walk_extends_of_some (Disk.extends_openWrite_new d₂ (dir ++ [vectorsFileName])
    (.file d₂.inodes.length)) hw₂
  have hbelow : ∀ name, (d.withShards top done).node? (dir ++ [name]) = none := fun name => by
    simpa [dir] using hnone [name]
  have hids := Disk.openWrite_join_new hw₁ (show Path.isPlainName idsFileName = true from rfl)
    (by simp [d₁, Disk.node?_addEntry, hbelow]) true
  have hvectors := Disk.openWrite_join_new hw₂
    (show Path.isPlainName vectorsFileName = true from rfl)
    (by simp [d₁, Disk.node?_addEntry, hbelow, idsFileName, vectorsFileName]) true
  have hmetas := Disk.openWrite_join_new hw₃ (show Path.isPlainName metasFileName = true from rfl)
    (by simp [d₂, d₁, Disk.node?_addEntry, hbelow, idsFileName, vectorsFileName,
      metasFileName]) true
  have hnew : (d₃.newInode []).2.addEntry (dir ++ [metasFileName]) (.file d₃.inodes.length) =
      d.withShards top (done ++ [[]]) := Disk.withShards_new_shard d top done
  have hlen₁ : d₁.inodes.length = d.inodes.length + 3 * done.length :=
    Disk.length_inodes_withShards d top done
  have hlen₂ : d₂.inodes.length = d.inodes.length + 3 * done.length + 1 := by
    simp [d₂, Disk.addEntry, Disk.newInode, hlen₁]
  have hlen₃ : d₃.inodes.length = d.inodes.length + 3 * done.length + 2 := by
    simp [d₃, Disk.addEntry, Disk.newInode, hlen₂]
  simp only [ShardWriter.create, ShardFiles.ofShard, run_bind, run_onDisk,
    Disk.makeDirectory_eq hw₀ rfl, Except.map]
  rw [hids]
  dsimp only
  rw [hvectors]
  dsimp only
  rw [hmetas]
  dsimp only
  rw [run_pure, hnew, hlen₃, hlen₂, hlen₁]

/-- Writing shard `m` after the shards `0` to `m - 1`: its directory and files are created,
then it is filled from the source as `run_fillShard` says, and its summary carries its
number, its directory and its count. -/
theorem run_writeShard {d : Disk} {root : String} {top : List String}
    (hroot : d.EmptyDir root top) {done : List (List Record)} {m : Nat} (hlen : done.length = m)
    (hm : m < Text.wordBound) (size : Nat) (src : List SourceItem) (k : Nat) :
    (writeShard root m size).run.run ⟨d.withShards top done, src, k⟩ =
      ((fillOutcome m size 0 size (SourceItem.writable (src.take size)).1
          (SourceItem.writable (src.take size)).2).1.map
          fun written => ⟨m, shardDir root m, written⟩,
        ⟨d.withShards top (done ++ [(SourceItem.writable (src.take size)).1]),
          src.drop (fillOutcome m size 0 size (SourceItem.writable (src.take size)).1
            (SourceItem.writable (src.take size)).2).2,
          k + (fillOutcome m size 0 size (SourceItem.writable (src.take size)).1
            (SourceItem.writable (src.take size)).2).2⟩) := by
  subst hlen
  rw [writeShard, run_bind, run_create hroot hm]
  dsimp only
  rw [run_bind, run_fillShard d top done rfl rfl rfl]
  simp only [List.nil_append]
  -- the summary is made from the count the filling gives
  rcases (fillOutcome done.length size 0 size (SourceItem.writable (src.take size)).1
    (SourceItem.writable (src.take size)).2).1 with e | written <;> rfl

end ShardDump
