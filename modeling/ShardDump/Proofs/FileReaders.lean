import ShardDump.Reader.Ids
import ShardDump.Reader.Frames
import ShardDump.Proofs.Pulls
import ShardDump.Proofs.BufferedReading

/-!
# Readers of a shard's files

The ids, vectors and metas readers each read one file through a buffered reader. A pull
that gives an item hands out at least one byte of the file, a line or a frame, so the
bytes the reader has left drop with every item: the three readers are lawful, and
`Reader.collect` drains each of them.
-/

namespace ShardDump

/-! ## Ids -/

namespace IdReader

@[simp] theorem reader_next_eq (d : Disk) (r : IdReader) : Reader.next d r = next d r := rfl

theorem reader_bound_eq (d : Disk) (r : IdReader) :
    Reader.bound d r = match r.reader with
      | none => 1
      | some br => br.remaining d + 2 := rfl

/-- An id is read off a line, which the reader leaves behind it. -/
theorem remaining_lt_of_next {d : Disk} {r r' : IdReader} {x : String}
    (h : next d r = (some (.ok x), r')) :
    ∃ br br', r.reader = some br ∧ r'.reader = some br' ∧ br'.remaining d < br.remaining d := by
  unfold next at h
  split at h
  · cases h
  rename_i br hbr
  split at h
  · cases h
  rename_i bytes br' hline
  split at h
  · cases h
  rename_i hne
  split at h
  · cases h
  simp only [Prod.mk.injEq, Option.some.injEq, Except.ok.injEq] at h
  obtain ⟨-, rfl⟩ := h
  obtain ⟨-, -, hsplit⟩ := BufferedReader.readLine_ok hline
  have hpos : 0 < bytes.length := List.length_pos_iff.2 fun hb => hne (by simp [hb])
  refine ⟨br, br', hbr, rfl, ?_⟩
  rw [BufferedReader.remaining_eq_length_unread, BufferedReader.remaining_eq_length_unread,
    hsplit, List.length_append]
  omega

instance : Reader.Lawful IdReader String where
  bound_pos d r := by
    rw [reader_bound_eq]
    split <;> omega
  bound_lt_of_item h := by
    obtain ⟨br, br', hbr, hbr', hlt⟩ := remaining_lt_of_next h
    rw [reader_bound_eq, reader_bound_eq, hbr, hbr']
    dsimp only
    omega

end IdReader

/-! ## Frames -/

namespace FrameReader

@[simp] theorem reader_next_eq (d : Disk) (r : FrameReader) : Reader.next d r = next d r := rfl

theorem reader_bound_eq (d : Disk) (r : FrameReader) : Reader.bound d r = bound d r := rfl

/-- A payload is read off a frame, which the reader leaves behind it. -/
theorem remaining_lt_of_next {d : Disk} {r r' : FrameReader} {p : Bytes}
    (h : next d r = (some (.ok p), r')) :
    ∃ br br', r.reader = some br ∧ r'.reader = some br' ∧ br'.remaining d < br.remaining d := by
  unfold next at h
  split at h
  · cases h
  rename_i br hbr
  split at h
  · rename_i payload s hread
    simp only [Prod.mk.injEq, Option.some.injEq, Except.ok.injEq] at h
    obtain ⟨rfl, rfl⟩ := h
    -- the source keeps the disk, and its unread bytes start with the frame it read
    obtain ⟨⟨hdisk, -⟩, hfirst⟩ :=
      Frame.read_ok (FileSource.streams d br.handle) ⟨rfl, rfl⟩ hread
    obtain ⟨hsplit, -, -⟩ := Frame.eq_encode_of_first_some hfirst
    simp only [FileSource.unread] at hsplit
    rw [hdisk] at hsplit
    refine ⟨br, s.reader, hbr, rfl, ?_⟩
    rw [BufferedReader.remaining_eq_length_unread, BufferedReader.remaining_eq_length_unread,
      hsplit, List.length_append, Frame.length_encode]
    have : Frame.prefixSize = 4 := rfl
    omega
  · cases h
  · cases h

instance : Reader.Lawful FrameReader Bytes where
  bound_pos d r := by
    rw [reader_bound_eq, bound]
    split <;> omega
  bound_lt_of_item h := by
    obtain ⟨br, br', hbr, hbr', hlt⟩ := remaining_lt_of_next h
    rw [reader_bound_eq, reader_bound_eq, bound, bound, hbr, hbr']
    dsimp only
    omega

end FrameReader

/-! ## Vectors -/

namespace VectorReader

@[simp] theorem reader_next_eq (d : Disk) (r : VectorReader) : Reader.next d r = next d r := rfl

theorem reader_bound_eq (d : Disk) (r : VectorReader) :
    Reader.bound d r = Reader.bound d r.frames := rfl

/-- A vector is decoded from a payload of the frames reader, which moves on past it. -/
theorem frames_next_of_next {d : Disk} {r r' : VectorReader} {v : List Binary64}
    (h : next d r = (some (.ok v), r')) :
    ∃ p, r.frames.next d = (some (.ok p), r'.frames) := by
  unfold next at h
  split at h
  · cases h
  · cases h
  rename_i payload f hframes
  split at h
  · simp only [Prod.mk.injEq] at h
    obtain ⟨-, rfl⟩ := h
    exact ⟨payload, hframes⟩
  · cases h

instance : Reader.Lawful VectorReader (List Binary64) where
  bound_pos d r := Reader.Lawful.bound_pos d r.frames
  bound_lt_of_item h := by
    obtain ⟨p, hframes⟩ := frames_next_of_next h
    rw [reader_bound_eq, reader_bound_eq]
    exact Reader.Lawful.bound_lt_of_item hframes

end VectorReader

end ShardDump
