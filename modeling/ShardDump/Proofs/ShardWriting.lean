import ShardDump.Proofs.ExportSteps

/-!
# A shard writer keeps its files aligned

A shard writer appends each record it accepts to three files at once: the record's id line to
the ids file, the frame of its vector payload to the vectors file and the frame of its metadata
to the metas file; and it counts the record. It checks the record first, and the checks are
what the frame writer needs: an accepted record has an id without a newline and two payloads
that are not empty and fit the length prefix, the vector's length being its real length of
eight bytes per value (`Record.frames_of_validate`). So neither frame is refused once a record
is accepted, and a refused record changes nothing.

Hence, whatever records a writer is given, valid or not, and with the calls going on after a
refusal, its three files hold after what they held the lines and frames of exactly the
accepted records, in order, and the writer counts them (`shard_writer_keeps_files_aligned`).
The proof is one induction over the calls: each call appends to three distinct files, and the
appends of successive calls gather, file by file, into one append of their concatenation
(`Disk.append_three_twice`).
-/

namespace ShardDump

open ExportM

/-! ## Appending to files -/

namespace Disk

/-- Appends to two different files can be made in either order. -/
theorem append_comm {i j : Nat} (h : i ≠ j) (d : Disk) (a b : Bytes) :
    (d.append i a).append j b = (d.append j b).append i a := by
  simp only [append, setContent, content, List.getD_eq_getElem?_getD, List.getElem?_set_ne h,
    List.getElem?_set_ne (Ne.symm h), List.set_comm _ _ h]

/-- Two appends to one file are one append of both pieces. -/
theorem append_append (d : Disk) (i : Nat) (a b : Bytes) :
    (d.append i a).append i b = d.append i (a ++ b) := by
  simp only [append, setContent, content, List.getD_eq_getElem?_getD, List.getElem?_set_self',
    List.set_set]
  rcases h : d.inodes[i]? with _ | x
  · -- past the last inode both sides leave the inodes as they are
    have hle : d.inodes.length ≤ i := List.getElem?_eq_none_iff.1 h
    simp [List.set_eq_of_length_le hle]
  · simp

@[simp] theorem append_nil (d : Disk) (i : Nat) : d.append i [] = d := by
  simp only [append, setContent, content, List.append_nil, List.getD_eq_getElem?_getD]
  by_cases hi : i < d.inodes.length
  · rw [List.getElem?_eq_getElem hi, Option.getD_some, List.set_getElem_self]
  · rw [List.set_eq_of_length_le (by omega)]

theorem content_append_self {d : Disk} {i : Nat} (hi : i < d.inodes.length) (b : Bytes) :
    (d.append i b).content i = d.content i ++ b := by
  simp [append, setContent, content, List.getD_eq_getElem?_getD, hi]

theorem content_append_of_ne {i j : Nat} (h : i ≠ j) (d : Disk) (b : Bytes) :
    (d.append i b).content j = d.content j := by
  simp [append, setContent, content, List.getD_eq_getElem?_getD, List.getElem?_set_ne h]

@[simp] theorem length_inodes_append (d : Disk) (i : Nat) (b : Bytes) :
    (d.append i b).inodes.length = d.inodes.length := by
  simp [append, setContent]

/-- Appending to three distinct files, and then to the same three again, is appending to each
file its two pieces in turn. -/
theorem append_three_twice {v m i : Nat} (hvm : v ≠ m) (hvi : v ≠ i) (hmi : m ≠ i) (d : Disk)
    (a b c a' b' c' : Bytes) :
    (((((d.append v a).append m b).append i c).append v a').append m b').append i c' =
      ((d.append v (a ++ a')).append m (b ++ b')).append i (c ++ c') := by
  calc (((((d.append v a).append m b).append i c).append v a').append m b').append i c'
      = (((((d.append v a).append m b).append v a').append i c).append m b').append i c' := by
        rw [append_comm (Ne.symm hvi) ((d.append v a).append m b) c a']
    _ = ((((d.append v (a ++ a')).append m b).append i c).append m b').append i c' := by
        rw [append_comm (Ne.symm hvm) (d.append v a) b a', append_append]
    _ = ((((d.append v (a ++ a')).append m b).append m b').append i c).append i c' := by
        rw [append_comm (Ne.symm hmi) ((d.append v (a ++ a')).append m b) c b']
    _ = ((d.append v (a ++ a')).append m (b ++ b')).append i (c ++ c') := by
        rw [append_append, append_append]

end Disk

/-! ## What the checks guarantee -/

/-- A record that passes the checks has an id without a newline and two payloads that the
frame writer accepts: the vector's payload has eight bytes per value, and both are not empty
and fit the length prefix. -/
theorem Record.frames_of_validate {r : Record} (hr : r.validate = .ok ()) :
    '\n' ∉ r.id.toList ∧ r.vectorBytes.length = 8 * r.vector.length ∧
      0 < r.vectorBytes.length ∧ r.vectorBytes.length < Frame.lengthLimit ∧
      0 < r.metadata.length ∧ r.metadata.length < Frame.lengthLimit ∧
      ∀ buffer : Bytes,
        Frame.write buffer r.vectorBytes = .ok (buffer ++ Frame.encode r.vectorBytes) ∧
        Frame.write buffer r.metadata = .ok (buffer ++ Frame.encode r.metadata) := by
  obtain ⟨hid, -⟩ := (Record.validate_eq_ok_iff r).1 hr
  obtain ⟨hv, hvlen, hm, hmlen⟩ := Record.frameable_of_validate hr
  exact ⟨hid, length_encodeVector r.vector, List.length_pos_iff.2 hv, hvlen,
    List.length_pos_iff.2 hm, hmlen,
    fun buffer => ⟨Frame.write_of_ne_nil buffer hv hvlen, Frame.write_of_ne_nil buffer hm hmlen⟩⟩

/-! ## Calls of a writer -/

namespace ShardWriter

/-- The three files of a writer are distinct. -/
structure Separate (w : ShardWriter) : Prop where
  vectors_ne_metas : w.vectors ≠ w.metas
  vectors_ne_ids : w.vectors ≠ w.ids
  metas_ne_ids : w.metas ≠ w.ids

/-- The three files of a writer are distinct files of the disk, as those of a new shard are. -/
structure Opened (w : ShardWriter) (d : Disk) : Prop extends w.Separate where
  ids_lt : w.ids < d.inodes.length
  vectors_lt : w.vectors < d.inodes.length
  metas_lt : w.metas < d.inodes.length

/-- Where calls of `write` end: the writer and the state after the last call, and the records
whose call succeeded, in order. -/
structure Calls where
  writer : ShardWriter
  state : ExportState
  accepted : List Record

/-- Calls `write` with each record in turn, going on after a refused record with the writer it
had and the state the refusal left. -/
def writeEach : ShardWriter → ExportState → List Record → Calls
  | w, s, [] => ⟨w, s, []⟩
  | w, s, r :: rs =>
    match (w.write r).run.run s with
    | (.ok w', s') =>
      let c := writeEach w' s' rs
      { c with accepted := r :: c.accepted }
    | (.error _, s') => writeEach w s' rs

/-- The state after the records `acc` are appended to the files of `w`: the disk differs only
in the three files, which have the records' id lines, vector frames and metadata frames
appended. -/
def appendedState (w : ShardWriter) (s : ExportState) (acc : List Record) : ExportState :=
  { s with disk := ((s.disk.append w.vectors (vectorsBytes acc)).append w.metas
      (metasBytes acc)).append w.ids (idsBytes acc) }

/-- What calls of `write` with the records `rs` leave, from the writer `w` and the state `s`:
they accept exactly the records that pass the checks, the writer counts them, and the three
files hold, after what they held, the id lines, vector frames and metadata frames of the
accepted records, in order; nothing else changes. -/
structure CallsAligned (w : ShardWriter) (s : ExportState) (rs : List Record) (c : Calls) :
    Prop where
  accepted : c.accepted = rs.filter fun r => r.validate.isOk
  writer : c.writer = { w with written := w.written + c.accepted.length }
  state : c.state = w.appendedState s c.accepted
  ids : c.state.disk.content w.ids = s.disk.content w.ids ++ idsBytes c.accepted
  vectors : c.state.disk.content w.vectors = s.disk.content w.vectors ++ vectorsBytes c.accepted
  metas : c.state.disk.content w.metas = s.disk.content w.metas ++ metasBytes c.accepted

/-- The appends go to the writer's files, whatever its count. -/
@[simp] theorem appendedState_written (w : ShardWriter) (n : Nat) (s : ExportState)
    (acc : List Record) : { w with written := n }.appendedState s acc = w.appendedState s acc :=
  rfl

theorem appendedState_nil (w : ShardWriter) (s : ExportState) : w.appendedState s [] = s := by
  simp [appendedState, idsBytes, vectorsBytes, metasBytes]

/-- The records appended one call after another are the records appended at once. -/
theorem appendedState_cons {w : ShardWriter} (hw : w.Separate) (s : ExportState) (r : Record) (acc : List Record) :
    w.appendedState { s with disk := ((s.disk.append w.vectors (Frame.encode r.vectorBytes)).append
        w.metas (Frame.encode r.metadata)).append w.ids (r.id ++ "\n").toUTF8.toList } acc =
      w.appendedState s (r :: acc) := by
  simp only [appendedState,
    Disk.append_three_twice hw.vectors_ne_metas hw.vectors_ne_ids hw.metas_ne_ids]
  rfl

theorem content_ids_appendedState {w : ShardWriter} {s : ExportState} (hw : w.Opened s.disk)
    (acc : List Record) :
    (w.appendedState s acc).disk.content w.ids = s.disk.content w.ids ++ idsBytes acc := by
  simp only [appendedState]
  rw [Disk.content_append_self (by simp [hw.ids_lt]), Disk.content_append_of_ne hw.metas_ne_ids,
    Disk.content_append_of_ne hw.vectors_ne_ids]

theorem content_vectors_appendedState {w : ShardWriter} {s : ExportState} (hw : w.Opened s.disk)
    (acc : List Record) :
    (w.appendedState s acc).disk.content w.vectors =
      s.disk.content w.vectors ++ vectorsBytes acc := by
  simp only [appendedState]
  rw [Disk.content_append_of_ne hw.vectors_ne_ids.symm,
    Disk.content_append_of_ne hw.vectors_ne_metas.symm, Disk.content_append_self hw.vectors_lt]

theorem content_metas_appendedState {w : ShardWriter} {s : ExportState} (hw : w.Opened s.disk)
    (acc : List Record) :
    (w.appendedState s acc).disk.content w.metas = s.disk.content w.metas ++ metasBytes acc := by
  simp only [appendedState]
  rw [Disk.content_append_of_ne hw.metas_ne_ids.symm,
    Disk.content_append_self (by simp [hw.metas_lt]), Disk.content_append_of_ne hw.vectors_ne_metas]

theorem writeEach_cons_ok {r : Record} (hr : r.validate = .ok ()) (w : ShardWriter)
    (s : ExportState) (rs : List Record) :
    w.writeEach s (r :: rs) =
      let c := writeEach { w with written := w.written + 1 }
        { s with disk := ((s.disk.append w.vectors (Frame.encode r.vectorBytes)).append w.metas
          (Frame.encode r.metadata)).append w.ids (r.id ++ "\n").toUTF8.toList } rs
      { c with accepted := r :: c.accepted } := by
  rw [writeEach, run_write_ok hr]

theorem writeEach_cons_error {r : Record} {e : DumpError} (hr : r.validate = .error e)
    (w : ShardWriter) (s : ExportState) (rs : List Record) :
    w.writeEach s (r :: rs) = w.writeEach s rs := by
  rw [writeEach, run_write_error hr]

/-- Calls of a writer over three distinct files accept the records that pass the checks, count
them, and append their lines and frames to the files. -/
theorem writeEach_eq {w : ShardWriter} (hw : w.Separate) (s : ExportState) (rs : List Record) :
    w.writeEach s rs =
      ⟨{ w with written := w.written + (rs.filter fun r => r.validate.isOk).length },
        w.appendedState s (rs.filter fun r => r.validate.isOk),
        rs.filter fun r => r.validate.isOk⟩ := by
  -- the induction is on the calls; the files stay where they are, only the count moves
  induction rs generalizing w s with
  | nil => simp [writeEach, appendedState_nil]
  | cons r rs ih =>
    cases hr : r.validate with
    | error e =>
      have hfalse : r.validate.isOk = false := by rw [hr]; rfl
      rw [writeEach_cons_error hr, ih hw]
      simp only [List.filter_cons, hfalse, Bool.false_eq_true, if_false]
    | ok u =>
      have htrue : r.validate.isOk = true := by rw [hr]; rfl
      rw [writeEach_cons_ok hr, ih (w := { w with written := w.written + 1 })
        ⟨hw.vectors_ne_metas, hw.vectors_ne_ids, hw.metas_ne_ids⟩]
      simp only [List.filter_cons, htrue, if_true, appendedState_written, appendedState_cons hw,
        List.length_cons, Calls.mk.injEq, ShardWriter.mk.injEq, and_true, true_and]
      omega

/-- A writer given any records, valid or not, with its calls going on after a refusal: the
checks guarantee that an accepted record's frames are not refused, a refused record changes
nothing, and after the calls the writer's three files hold, after what they held, the id lines,
vector frames and metadata frames of exactly the accepted records, in order, which the writer
counts. -/
theorem shard_writer_keeps_files_aligned {w : ShardWriter} {s : ExportState}
    (hw : w.Opened s.disk) (rs : List Record) :
    (∀ r : Record, r.validate = .ok () →
      '\n' ∉ r.id.toList ∧ r.vectorBytes.length = 8 * r.vector.length ∧
        0 < r.vectorBytes.length ∧ r.vectorBytes.length < Frame.lengthLimit ∧
        0 < r.metadata.length ∧ r.metadata.length < Frame.lengthLimit ∧
        ∀ buffer : Bytes,
          Frame.write buffer r.vectorBytes = .ok (buffer ++ Frame.encode r.vectorBytes) ∧
          Frame.write buffer r.metadata = .ok (buffer ++ Frame.encode r.metadata)) ∧
    (∀ (r : Record) (e : DumpError), r.validate = .error e →
      (w.write r).run.run s = (.error e, s)) ∧
    w.CallsAligned s rs (w.writeEach s rs) := by
  refine ⟨fun r hr => Record.frames_of_validate hr, fun r e hr => run_write_error hr w s, ?_⟩
  rw [writeEach_eq hw.toSeparate]
  exact ⟨rfl, rfl, rfl, content_ids_appendedState hw _, content_vectors_appendedState hw _,
    content_metas_appendedState hw _⟩

/-- A new shard's writer given a record and then one with an empty vector: the second is
refused, and the files hold the first. -/
theorem shard_writer_keeps_files_aligned_after_refusal :
    ShardWriter.Opened ⟨0, ShardFiles.ofShard "dump" 0, 0, 1, 2, 0⟩ ⟨[], [[], [], []]⟩ ∧
      ShardWriter.CallsAligned ⟨0, ShardFiles.ofShard "dump" 0, 0, 1, 2, 0⟩
        ⟨⟨[], [[], [], []]⟩, [], 0⟩ [⟨"a", [⟨0x3ff0000000000000⟩], [109]⟩, ⟨"b", [], [109]⟩]
        (ShardWriter.writeEach ⟨0, ShardFiles.ofShard "dump" 0, 0, 1, 2, 0⟩
          ⟨⟨[], [[], [], []]⟩, [], 0⟩ [⟨"a", [⟨0x3ff0000000000000⟩], [109]⟩, ⟨"b", [], [109]⟩]) := by
  have hw : ShardWriter.Opened ⟨0, ShardFiles.ofShard "dump" 0, 0, 1, 2, 0⟩ ⟨[], [[], [], []]⟩ :=
    ⟨⟨by decide, by decide, by decide⟩, by decide, by decide, by decide⟩
  exact ⟨hw, (shard_writer_keeps_files_aligned (s := ⟨⟨[], [[], [], []]⟩, [], 0⟩) hw _).2.2⟩

/-- The writer an export creates for the shard after `done` has three new, distinct and empty
files and has written nothing, so that the law above holds of it from its first call with the
files holding exactly the accepted records. -/
theorem create_opened_empty {d : Disk} {root : String} {top : List String}
    (hroot : d.EmptyDir root top) {done : List (List Record)} (hm : done.length < Text.wordBound)
    (src : List SourceItem) (k : Nat) :
    ∃ w, (create root done.length).run.run ⟨d.withShards top done, src, k⟩ =
        (.ok w, ⟨d.withShards top (done ++ [[]]), src, k⟩) ∧
      w.written = 0 ∧ w.Opened (d.withShards top (done ++ [[]])) ∧
      (d.withShards top (done ++ [[]])).content w.ids = [] ∧
      (d.withShards top (done ++ [[]])).content w.vectors = [] ∧
      (d.withShards top (done ++ [[]])).content w.metas = [] := by
  -- the new shard's files are the last three inodes, and it holds no records
  have hlen : (d.withShards top (done ++ [[]])).inodes.length =
      d.inodes.length + 3 * done.length + 3 := by
    rw [Disk.length_inodes_withShards, List.length_append, List.length_singleton]
    omega
  have hlast : done.length < (done ++ [[]]).length := by simp
  have hcontent : ∀ j < 3,
      (d.withShards top (done ++ [[]])).content (d.inodes.length + 3 * done.length + j) = [] :=
    fun j hj => by
      rw [Disk.content_withShards d top hlast hj, List.getElem_append_right (Nat.le_refl _)]
      rcases j with _ | _ | _ | j <;> simp [shardContents, idsBytes, vectorsBytes, metasBytes]
  refine ⟨_, run_create hroot hm src k, rfl, ⟨⟨by simp, by simp, by simp⟩, ?_, ?_, ?_⟩, hcontent 0 (by decide),
    hcontent 1 (by decide), hcontent 2 (by decide)⟩ <;> simp only [hlen] <;> omega

end ShardWriter

end ShardDump
