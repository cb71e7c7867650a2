import ShardDump.Disk.BufferedReader
import ShardDump.Proofs.FrameReading

/-!
# What a buffered reader has left

`BufferedReader.unread d r` is what the reader still hands out: its buffer, then the open
file from its offset. Refilling the buffer keeps it (`fill_ok`); a read hands out a prefix
of it and leaves the rest (`read_ok`), and reading a line hands out its first line
(`readLine_ok`). Reads of a file never fail, only reads of a directory do.

So a `FileSource` streams its unread bytes from every state over a fixed disk and handle,
and reliably when the handle is a file (`FileSource.streams`, `FileSource.reliable`).
-/

namespace ShardDump

namespace BufferedReader

/-- The bytes of the open file from `offset` on; none for a directory. -/
def fileFrom (d : Disk) : Handle → Nat → Bytes
  | .file i, offset => (d.content i).drop offset
  | .directory, _ => []

/-- The bytes the reader still hands out: its buffer, then the file from its offset. -/
def unread (d : Disk) (r : BufferedReader) : Bytes := r.buffer ++ fileFrom d r.handle r.offset

/-- The first line of `bytes`: through the first newline, or all of them. -/
def lineOf : Bytes → Bytes
  | [] => []
  | b :: rest => if b = newline then [b] else b :: lineOf rest

@[simp] theorem unread_ofHandle_file (d : Disk) (i : Nat) :
    (ofHandle (.file i)).unread d = d.content i := by
  simp [unread, ofHandle, fileFrom]

theorem remaining_eq_length_unread (d : Disk) (r : BufferedReader) :
    r.remaining d = (r.unread d).length := by
  cases hh : r.handle <;> simp [remaining, unread, fileFrom, hh]

@[simp] theorem lineOf_nil : lineOf [] = [] := rfl

/-! ## One read of the file -/

/-- A read of the open file hands out a prefix of the bytes from the offset, non-empty when
bytes were asked for and some are left. -/
theorem readAt_ok {d : Disk} {h : Handle} {offset want : Nat} {got : Bytes}
    (hread : d.readAt h offset want = .ok got) :
    fileFrom d h offset = got ++ fileFrom d h (offset + got.length) ∧ got.length ≤ want ∧
      (0 < want → fileFrom d h offset ≠ [] → got ≠ []) := by
  cases h with
  | directory => cases hread
  | file i =>
    simp only [Disk.readAt, Except.ok.injEq] at hread
    subst hread
    -- what follows the bytes taken is the file from after them
    have hdrop := @List.drop_left _ (((d.content i).drop offset).take want)
      (((d.content i).drop offset).drop want)
    rw [List.take_append_drop] at hdrop
    refine ⟨?_, List.length_take_le _ _, ?_⟩
    · simp only [fileFrom]
      rw [← List.drop_drop, hdrop, List.take_append_drop]
    · intro hwant hne
      simp only [fileFrom] at hne
      simp [List.take_eq_nil_iff, hne, Nat.pos_iff_ne_zero.1 hwant]

/-! ## Buffer refills and reads -/

/-- A refill keeps the handle and the unread bytes, and leaves bytes in the buffer when any
are unread. -/
theorem fill_ok {d : Disk} {r r' : BufferedReader} (h : r.fill d = .ok r') :
    r'.handle = r.handle ∧ r'.unread d = r.unread d ∧ (r.unread d ≠ [] → r'.buffer ≠ []) := by
  unfold fill at h
  split at h
  · rename_i hempty
    have hbuf : r.buffer = [] := List.isEmpty_iff.1 hempty
    match hread : d.readAt r.handle r.offset capacity with
    | .error e =>
      rw [hread] at h
      cases h
    | .ok got =>
      rw [hread] at h
      cases h
      obtain ⟨hsplit, -, hne⟩ := readAt_ok hread
      refine ⟨rfl, ?_, ?_⟩
      · simp [unread, hbuf, hsplit]
      · intro hunread
        simp only [unread, hbuf, List.nil_append] at hunread
        exact hne (by decide) hunread
  · rename_i hfull
    cases h
    exact ⟨rfl, rfl, fun _ hnil => hfull (by simp [hnil])⟩

/-- A read hands out a prefix of the unread bytes no longer than asked for, non-empty when
bytes were asked for and some are unread, and keeps the rest. -/
theorem read_ok {d : Disk} {r r' : BufferedReader} {want : Nat} {b : Bytes}
    (h : r.read d want = (.ok b, r')) :
    r'.handle = r.handle ∧ b.length ≤ want ∧ r.unread d = b ++ r'.unread d ∧
      (0 < want → r.unread d ≠ [] → b ≠ []) := by
  unfold read at h
  split at h
  · -- an empty buffer and a large request: the file is read directly
    rename_i hdirect
    have hbuf : r.buffer = [] := List.isEmpty_iff.1 hdirect.1
    match hread : d.readAt r.handle r.offset want with
    | .error e =>
      rw [hread] at h
      cases h
    | .ok got =>
      rw [hread] at h
      simp only [Prod.mk.injEq, Except.ok.injEq] at h
      obtain ⟨rfl, rfl⟩ := h
      obtain ⟨hsplit, hlen, hne⟩ := readAt_ok hread
      refine ⟨rfl, hlen, ?_, ?_⟩
      · simp [unread, hbuf, hsplit]
      · intro hwant hunread
        simp only [unread, hbuf, List.nil_append] at hunread
        exact hne hwant hunread
  · match hfill : r.fill d with
    | .error e =>
      rw [hfill] at h
      cases h
    | .ok r₁ =>
      rw [hfill] at h
      simp only [Prod.mk.injEq, Except.ok.injEq] at h
      obtain ⟨rfl, rfl⟩ := h
      obtain ⟨hhandle, hunread, hbuf⟩ := fill_ok hfill
      refine ⟨hhandle, List.length_take_le _ _, ?_, ?_⟩
      · rw [← hunread]
        simp only [unread]
        rw [← List.append_assoc, List.take_append_drop]
      · intro hwant hne
        simp [List.take_eq_nil_iff, Nat.pos_iff_ne_zero.1 hwant, hbuf hne]

theorem fill_file_isOk (d : Disk) {r : BufferedReader} {i : Nat} (hfile : r.handle = .file i) :
    ∃ r', r.fill d = .ok r' := by
  unfold fill
  split
  · rw [hfile]
    exact ⟨_, rfl⟩
  · exact ⟨r, rfl⟩

theorem read_file_isOk (d : Disk) {r : BufferedReader} {i : Nat} (hfile : r.handle = .file i)
    (want : Nat) : ∃ b, (r.read d want).1 = .ok b := by
  unfold read
  split
  · rw [hfile]
    exact ⟨_, rfl⟩
  · obtain ⟨r', hfill⟩ := fill_file_isOk d hfile
    rw [hfill]
    exact ⟨_, rfl⟩

/-! ## Lines -/

/-- Bytes without a newline all belong to the first line. -/
theorem lineOf_append_of_not_mem {l : Bytes} (h : newline ∉ l) (m : Bytes) :
    lineOf (l ++ m) = l ++ lineOf m := by
  induction l with
  | nil => rfl
  | cons b rest ih =>
    have hb : b ≠ newline := fun hb => h (hb ▸ List.mem_cons_self)
    have hrest : newline ∉ rest := fun hm => h (List.mem_cons_of_mem _ hm)
    simp [lineOf, hb, ih hrest]

/-- The first line ends at the first newline. -/
theorem lineOf_append_of_idxOf? {l : Bytes} {i : Nat} (h : l.idxOf? newline = some i)
    (m : Bytes) : lineOf (l ++ m) = l.take (i + 1) := by
  induction l generalizing i with
  | nil => simp at h
  | cons b rest ih =>
    rw [List.idxOf?_cons] at h
    by_cases hb : b = newline
    · subst hb
      simp only [BEq.rfl, ↓reduceIte, Option.some.injEq] at h
      subst h
      simp [lineOf]
    · simp only [beq_iff_eq, hb, ↓reduceIte, Option.map_eq_some_iff] at h
      obtain ⟨j, hj, rfl⟩ := h
      simp [lineOf, hb, ih hj]

/-- Reading a line with more refills than unread bytes hands out the first line of the
unread bytes and keeps the rest. -/
theorem readLineUpTo_ok {d : Disk} {fuel : Nat} {r r' : BufferedReader} {acc line : Bytes}
    (hfuel : (r.unread d).length < fuel) (h : readLineUpTo d fuel r acc = (.ok line, r')) :
    r'.handle = r.handle ∧ line = acc ++ lineOf (r.unread d) ∧
      r.unread d = lineOf (r.unread d) ++ r'.unread d := by
  revert hfuel h
  fun_induction readLineUpTo d fuel r acc with
  | case1 r acc =>
    intro hfuel
    omega
  | case2 fuel r acc e hfill =>
    intro _ h
    simp at h
  | case3 fuel r acc r₁ hfill hempty =>
    -- the refill brought nothing: no bytes are unread
    intro _ h
    simp only [Prod.mk.injEq, Except.ok.injEq] at h
    obtain ⟨rfl, rfl⟩ := h
    obtain ⟨hhandle, hunread, hbuf⟩ := fill_ok hfill
    have hnil : r.unread d = [] := by
      cases hu : r.unread d with
      | nil => rfl
      | cons x xs =>
        exact absurd (List.isEmpty_iff.1 hempty) (hbuf (by rw [hu]; exact List.cons_ne_nil x xs))
    exact ⟨hhandle, by simp [hnil], by simp [hnil, hunread]⟩
  | case4 fuel r acc r₁ hfill hne i hidx =>
    intro _ h
    simp only [Prod.mk.injEq, Except.ok.injEq] at h
    obtain ⟨rfl, rfl⟩ := h
    obtain ⟨hhandle, hunread, -⟩ := fill_ok hfill
    have hline : lineOf (r.unread d) = r₁.buffer.take (i + 1) := by
      rw [← hunread, unread, lineOf_append_of_idxOf? hidx]
    refine ⟨hhandle, by rw [hline], ?_⟩
    rw [hline, ← hunread]
    simp only [unread]
    rw [← List.append_assoc, List.take_append_drop]
  | case5 fuel r acc r₁ hfill hne hidx ih =>
    -- the buffer holds no newline: it all belongs to the line, which goes on in the file
    intro hfuel h
    obtain ⟨hhandle, hunread, -⟩ := fill_ok hfill
    have hnotmem : newline ∉ r₁.buffer := List.idxOf?_eq_none_iff.1 hidx
    have hsplit : r.unread d = r₁.buffer ++ ({ r₁ with buffer := [] } : BufferedReader).unread d := by
      rw [← hunread]
      simp [unread]
    have hfuel' : (({ r₁ with buffer := [] } : BufferedReader).unread d).length < fuel := by
      have hpos : 0 < r₁.buffer.length := List.length_pos_iff.2 fun hb => hne (by simp [hb])
      rw [hsplit, List.length_append] at hfuel
      omega
    obtain ⟨hhandle', hline, hrest⟩ := ih hfuel' h
    refine ⟨hhandle'.trans hhandle, ?_, ?_⟩
    · rw [hline, hsplit, lineOf_append_of_not_mem hnotmem, List.append_assoc]
    · rw [hsplit, lineOf_append_of_not_mem hnotmem, List.append_assoc, ← hrest]

/-- Reading a line hands out the first line of the unread bytes and keeps the rest. -/
theorem readLine_ok {d : Disk} {r r' : BufferedReader} {line : Bytes}
    (h : r.readLine d = (.ok line, r')) :
    r'.handle = r.handle ∧ line = lineOf (r.unread d) ∧ r.unread d = line ++ r'.unread d := by
  have hfuel : (r.unread d).length < r.remaining d + 2 := by
    rw [remaining_eq_length_unread]
    omega
  obtain ⟨hhandle, hline, hrest⟩ := readLineUpTo_ok hfuel h
  rw [List.nil_append] at hline
  exact ⟨hhandle, hline, hline ▸ hrest⟩

/-- Reading a line of a file never fails. -/
theorem readLineUpTo_file_isOk (d : Disk) {fuel : Nat} {r : BufferedReader} {i : Nat}
    (hfile : r.handle = .file i) (acc : Bytes) : ∃ line, (readLineUpTo d fuel r acc).1 = .ok line := by
  revert hfile
  fun_induction readLineUpTo d fuel r acc with
  | case1 r acc => exact fun _ => ⟨acc, rfl⟩
  | case2 fuel r acc e hfill =>
    intro hfile
    obtain ⟨r', hr'⟩ := fill_file_isOk d hfile
    rw [hfill] at hr'
    cases hr'
  | case3 fuel r acc r₁ hfill hempty => exact fun _ => ⟨acc, rfl⟩
  | case4 fuel r acc r₁ hfill hne i hidx => exact fun _ => ⟨_, rfl⟩
  | case5 fuel r acc r₁ hfill hne hidx ih =>
    intro hfile
    exact ih ((fill_ok hfill).1.trans hfile)

theorem readLine_file_isOk (d : Disk) {r : BufferedReader} {i : Nat}
    (hfile : r.handle = .file i) : ∃ line, (r.readLine d).1 = .ok line :=
  readLineUpTo_file_isOk d hfile []

end BufferedReader

/-! ## Buffered readers as sources -/

namespace FileSource

/-- The bytes the source still hands out. -/
def unread (s : FileSource) : Bytes := s.reader.unread s.disk

/-- The sources over the disk `d` that read through the handle `h`. -/
def Over (d : Disk) (h : Handle) (s : FileSource) : Prop := s.disk = d ∧ s.reader.handle = h

theorem read_eq (s : FileSource) (n : Nat) : ByteSource.read s n =
    match s.reader.read s.disk n with
    | (.ok b, r) => (.data b, { s with reader := r })
    | (.error e, r) => (.failed (.os e), { s with reader := r }) := rfl

/-- A file source streams its unread bytes. -/
theorem streams (d : Disk) (h : Handle) : ByteSource.Streams (Over d h) unread where
  data := by
    intro s n b s' hover hread
    rw [read_eq] at hread
    split at hread
    · rename_i b' r hr
      simp only [Prod.mk.injEq, ReadOutcome.data.injEq] at hread
      obtain ⟨rfl, rfl⟩ := hread
      obtain ⟨hhandle, hlen, hsplit, hne⟩ := BufferedReader.read_ok hr
      exact ⟨⟨hover.1, hhandle.trans hover.2⟩, hlen, hsplit, hne⟩
    · cases hread
  interrupted := by
    intro s n s' _ hread
    rw [read_eq] at hread
    split at hread <;> cases hread

/-- A file source over a file never fails. -/
theorem reliable (d : Disk) (i : Nat) : ByteSource.Reliable (Over d (.file i)) := by
  intro s n e hover
  obtain ⟨b, hb⟩ := BufferedReader.read_file_isOk s.disk hover.2 n
  rw [read_eq]
  match hr : s.reader.read s.disk n with
  | (.ok b', r) => simp
  | (.error e', r) =>
    rw [hr] at hb
    cases hb

end FileSource

end ShardDump
