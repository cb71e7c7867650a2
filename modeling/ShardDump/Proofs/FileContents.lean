import ShardDump.Proofs.WrittenFiles
import ShardDump.Proofs.FrameRuns

/-!
# What the readers of one file give, whatever its bytes

A reader of one file is a small machine over an arbitrary byte string: each pull reads a line
or a frame, and the reader ends at the end of the bytes, at a terminator, or at the first
damage, which it reports once. Afterwards every pull gives nothing.

The reference readings are stated on the bytes alone. The ids file is read as its `lines`:
the bytes before each newline, and a last line without a newline when it is not empty; each
line is its UTF-8 text, and the first line that is not UTF-8 damages the file. A line is
read with its newline, and it decodes exactly when the line without it does
(`fromUTF8?_append_newline`). The vectors and metas files are read as the frames of the
reference parse `Frame.parse`; a vector frame whose length is not a multiple of eight
damages the file in its place.

For every file, the readers opened on it yield exactly those pulls
(`file_readers_follow_contents`). Each law is one step lemma (what one pull does to the
bytes left) and an induction on the bytes left.
-/

namespace ShardDump

/-! ## Lines and their text -/


/-- The bytes of a line and those of the line with a newline after it differ by that
newline's one byte. -/
theorem bytes_append_newline (l : Bytes) :
    (⟨(l ++ [BufferedReader.newline]).toArray⟩ : ByteArray) = ⟨l.toArray⟩ ++ ['\n'].utf8Encode := by
  apply ByteArray.ext
  simp [ByteArray.data_append, List.utf8Encode, List.data_toByteArray]
  rfl

/-- A line followed by a newline is UTF-8 exactly when the line is: no character but the
newline ends in the newline byte. -/
theorem isValidUTF8_append_newline (l : Bytes) :
    ByteArray.IsValidUTF8 ⟨(l ++ [BufferedReader.newline]).toArray⟩ ↔
      ByteArray.IsValidUTF8 ⟨l.toArray⟩ := by
  constructor
  · rintro ⟨m, hm⟩
    have hbytes : l ++ [BufferedReader.newline] = m.flatMap String.utf8EncodeChar := by
      have := congrArg (fun b : ByteArray => b.data.toList) hm
      simpa [List.utf8Encode, List.toList_data_toByteArray] using this
    -- the characters end with the newline
    obtain hnil | ⟨m', c, rfl⟩ := List.eq_nil_or_concat m
    · subst hnil
      simp at hbytes
    rw [List.concat_eq_append, List.flatMap_append, List.flatMap_singleton] at hbytes
    have hlast : BufferedReader.newline ∈ String.utf8EncodeChar c := by
      have := congrArg List.getLast? hbytes
      rw [List.getLast?_append, List.getLast?_append] at this
      simp only [List.getLast?_singleton, Option.some_or] at this
      cases hc : (String.utf8EncodeChar c).getLast? with
      | none => simp [List.getLast?_eq_none_iff] at hc
      | some x =>
        rw [hc, Option.some_or] at this
        rw [Option.some.injEq] at this
        exact this ▸ List.mem_of_getLast? hc
    have hc : c = '\n' := eq_newline_of_mem_utf8EncodeChar hlast
    subst hc
    have hl : l = m'.flatMap String.utf8EncodeChar :=
      List.append_cancel_right (hbytes.trans rfl)
    refine ⟨m', ?_⟩
    apply ByteArray.ext
    simp [hl, List.utf8Encode, List.data_toByteArray]
  · intro h
    rw [bytes_append_newline]
    exact h.append ByteArray.isValidUTF8_utf8Encode

/-- A line followed by a newline decodes to the line's text followed by a newline. -/
theorem fromUTF8?_append_newline (l : Bytes) :
    String.fromUTF8? ⟨(l ++ [BufferedReader.newline]).toArray⟩ =
      (String.fromUTF8? ⟨l.toArray⟩).map (· ++ "\n") := by
  by_cases h : ByteArray.IsValidUTF8 ⟨l.toArray⟩
  · have h' := (isValidUTF8_append_newline l).2 h
    rw [String.fromUTF8?, dif_pos h', String.fromUTF8?, dif_pos h, Option.map_some,
      Option.some.injEq, ← String.toByteArray_inj, String.toByteArray_append]
    exact bytes_append_newline l
  · have h' : ¬ ByteArray.IsValidUTF8 ⟨(l ++ [BufferedReader.newline]).toArray⟩ :=
      mt (isValidUTF8_append_newline l).1 h
    rw [String.fromUTF8?, dif_neg h', String.fromUTF8?, dif_neg h, Option.map_none]

/-- The text of bytes without a newline has no newline, so it is its own id. -/
theorem idOfLine_of_not_mem {l : Bytes} {s : String} (hl : BufferedReader.newline ∉ l)
    (h : String.fromUTF8? ⟨l.toArray⟩ = some s) : IdReader.idOfLine s = s := by
  have hbytes : s.toUTF8.toList = l := by
    rw [String.fromUTF8?] at h
    split at h
    · cases h
      rw [byteArray_toList]
      rfl
    · cases h
  have hnl : '\n' ∉ s.toList := by
    intro hmem
    apply hl
    rw [← hbytes, toUTF8_toList, List.mem_flatMap]
    exact ⟨'\n', hmem, by decide⟩
  have hlast : s.toList.getLast? ≠ some '\n' := fun h' => hnl (List.mem_of_getLast? h')
  simp [IdReader.idOfLine, hlast]

namespace BufferedReader

/-! ## Lines -/

/-- The lines of `bytes` read on from the partial line `line`. -/
def linesFrom (line : Bytes) : Bytes → List Bytes
  | [] => if line.isEmpty then [] else [line]
  | b :: rest => if b = newline then line :: linesFrom [] rest else linesFrom (line ++ [b]) rest

/-- The lines of `bytes`, each without its newline; a last line without a newline counts when
it is not empty. -/
def lines (bytes : Bytes) : List Bytes := linesFrom [] bytes

@[simp] theorem lines_nil : lines [] = [] := rfl

/-- A line ended by a newline is one of the lines, and the lines after it follow. -/
theorem linesFrom_append_newline {l : Bytes} (hl : newline ∉ l) (acc rest : Bytes) :
    linesFrom acc (l ++ newline :: rest) = (acc ++ l) :: lines rest := by
  induction l generalizing acc with
  | nil => simp [linesFrom, lines]
  | cons b l ih =>
    have hb : b ≠ newline := fun hb => hl (hb ▸ List.mem_cons_self)
    have hl' : newline ∉ l := fun hm => hl (List.mem_cons_of_mem _ hm)
    simp [linesFrom, hb, ih hl']

/-- Bytes without a newline are one last line, or none when there are none. -/
theorem linesFrom_of_not_mem {l : Bytes} (hl : newline ∉ l) (acc : Bytes) :
    linesFrom acc l = if (acc ++ l).isEmpty then [] else [acc ++ l] := by
  induction l generalizing acc with
  | nil => simp [linesFrom]
  | cons b l ih =>
    have hb : b ≠ newline := fun hb => hl (hb ▸ List.mem_cons_self)
    have hl' : newline ∉ l := fun hm => hl (List.mem_cons_of_mem _ hm)
    simp [linesFrom, hb, ih hl']

/-- Bytes either hold a first line ended by a newline, or have no newline. -/
theorem first_line_or_not_mem (bytes : Bytes) :
    (∃ l rest, newline ∉ l ∧ bytes = l ++ newline :: rest) ∨ newline ∉ bytes := by
  induction bytes with
  | nil => exact .inr List.not_mem_nil
  | cons b bytes ih =>
    by_cases hb : b = newline
    · exact .inl ⟨[], bytes, List.not_mem_nil, by simp [hb]⟩
    · rcases ih with ⟨l, rest, hl, rfl⟩ | hnot
      · refine .inl ⟨b :: l, rest, ?_, rfl⟩
        simp [Ne.symm hb, hl]
      · refine .inr ?_
        simp [Ne.symm hb, hnot]

theorem lineOf_append_newline {l : Bytes} (hl : newline ∉ l) (rest : Bytes) :
    lineOf (l ++ newline :: rest) = l ++ [newline] := by
  rw [lineOf_append_of_not_mem hl]
  simp [lineOf]

theorem lineOf_of_not_mem {l : Bytes} (hl : newline ∉ l) : lineOf l = l := by
  simpa using lineOf_append_of_not_mem hl []

end BufferedReader

/-! ## The ids reader -/

namespace IdReader

open BufferedReader (lines lineOf newline)

/-- The pulls of an ids reader over the lines `ls`: the text of each line, until a line that
is not UTF-8, which damages the file and ends the reader. -/
def expectedPulls (path : String) : List Bytes → List (Pull String)
  | [] => []
  | l :: ls =>
    match String.fromUTF8? ⟨l.toArray⟩ with
    | some s => some (.ok s) :: expectedPulls path ls
    | none => [some (.error (.corruptFrame path "ids file is not valid UTF-8"))]

/-- A reader that has let go of its file gives nothing. -/
theorem pullAt_closed (d : Disk) (path : String) (k : Nat) :
    Reader.pullAt d (⟨path, none⟩ : IdReader) k = none := by
  induction k with
  | zero => rfl
  | succ k ih => exact ih

/-- A pull of the ids of a file that read the line `line`: the end for no bytes, the line's id
for text, damage otherwise. -/
theorem next_of_readLine {d : Disk} (path : String) {br br' : BufferedReader} {line : Bytes}
    (h : br.readLine d = (.ok line, br')) :
    next d ⟨path, some br⟩ =
      if line.isEmpty then (none, ⟨path, none⟩)
      else ((String.fromUTF8? ⟨line.toArray⟩).elim
          (some (.error (.corruptFrame path invalidTextReason)), ⟨path, none⟩)
          fun s => (some (.ok (idOfLine s)), ⟨path, some br'⟩)) := by
  simp only [next, h]
  split
  · rfl
  · cases String.fromUTF8? ⟨line.toArray⟩ <;> rfl

/-- One pull of the ids of a file: the end when no line is left; otherwise the text of the
first line, with the reader moved past that line, or damage when it is not UTF-8. -/
theorem next_of_file {d : Disk} (path : String) {br : BufferedReader} {i : Nat}
    (hfile : br.handle = .file i) :
    (lines (br.unread d) = [] ∧ next d ⟨path, some br⟩ = (none, ⟨path, none⟩)) ∨
    ∃ l br', lines (br.unread d) = l :: lines (br'.unread d) ∧ br'.handle = .file i ∧
      (br'.unread d).length < (br.unread d).length ∧
      next d ⟨path, some br⟩ = (String.fromUTF8? ⟨l.toArray⟩).elim
        (some (.error (.corruptFrame path invalidTextReason)), ⟨path, none⟩)
        fun s => (some (.ok s), ⟨path, some br'⟩) := by
  obtain ⟨line, hline⟩ := BufferedReader.readLine_file_isOk d hfile
  match hr : br.readLine d with
  | (.error e, _) =>
    rw [hr] at hline
    cases hline
  | (.ok line', br') =>
    obtain ⟨hhandle, hl, hsplit⟩ := BufferedReader.readLine_ok hr
    have hnext := next_of_readLine path hr
    have hfile' : br'.handle = .file i := hhandle.trans hfile
    rcases BufferedReader.first_line_or_not_mem (br.unread d) with ⟨l, rest, hnl, hu⟩ | hnl
    · -- a line ended by a newline: its text keeps the newline, which the id drops
      have hline' : line' = l ++ [newline] := by
        rw [hl, hu, BufferedReader.lineOf_append_newline hnl]
      have hrest : br'.unread d = rest := by
        rw [hu, hline', List.append_assoc] at hsplit
        simpa using (List.append_cancel_left hsplit).symm
      rw [hline', fromUTF8?_append_newline, if_neg (by simp)] at hnext
      refine .inr ⟨l, br', ?_, hfile', ?_, ?_⟩
      · rw [hu, hrest]
        exact BufferedReader.linesFrom_append_newline hnl [] rest
      · rw [hu, hrest, List.length_append, List.length_cons]
        omega
      · rw [hnext]
        cases String.fromUTF8? ⟨l.toArray⟩ with
        | none => rfl
        | some s => simp [idOfLine_append_newline]
    · -- no newline is left: the rest of the file is the last line, if there is one
      have hline' : line' = br.unread d := by rw [hl, BufferedReader.lineOf_of_not_mem hnl]
      have hlines := BufferedReader.linesFrom_of_not_mem hnl []
      rw [List.nil_append] at hlines
      by_cases hempty : br.unread d = []
      · rw [hline', hempty] at hnext
        exact .inl ⟨by rw [hempty]; rfl, hnext⟩
      · have hne : (br.unread d).isEmpty = false := by simpa using hempty
        have hrest : br'.unread d = [] := by
          rw [hline'] at hsplit
          simpa using hsplit
        rw [hline', if_neg (by simp [hne])] at hnext
        refine .inr ⟨br.unread d, br', ?_, hfile', ?_, ?_⟩
        · rw [lines, hlines, hne, hrest]
          rfl
        · rw [hrest]
          simpa [List.length_pos_iff] using hempty
        · rw [hnext]
          cases hdec : String.fromUTF8? ⟨(br.unread d).toArray⟩ with
          | none => rfl
          | some s => simp [idOfLine_of_not_mem hnl hdec]

/-- The ids reader of a file yields the text of each of its lines in turn, until a line that
is not UTF-8, and then nothing. -/
theorem pullAt_of_file {d : Disk} (path : String) {br : BufferedReader} {i : Nat}
    (hfile : br.handle = .file i) (k : Nat) :
    Reader.pullAt d (⟨path, some br⟩ : IdReader) k =
      (expectedPulls path (lines (br.unread d))).getD k none := by
  -- strong induction on the bytes left, which every line that is read shortens
  induction hn : (br.unread d).length using Nat.strongRecOn generalizing br k with
  | ind n ih =>
    subst hn
    rcases next_of_file path hfile with ⟨hnil, hnext⟩ | ⟨l, br', hlines, hfile', hlt, hnext⟩
    · rw [hnil]
      cases k <;> simp [hnext, pullAt_closed, expectedPulls]
    · rw [hlines]
      cases hdec : String.fromUTF8? ⟨l.toArray⟩ with
      | none =>
        rw [hdec] at hnext
        cases k <;> simp [hnext, pullAt_closed, expectedPulls, hdec, invalidTextReason]
      | some s =>
        rw [hdec, Option.elim_some] at hnext
        cases k with
        | zero => simp [hnext, expectedPulls, hdec]
        | succ k =>
          rw [Reader.pullAt_succ, reader_next_eq, hnext, ih _ hlt hfile' k rfl]
          simp [expectedPulls, hdec]

end IdReader

/-! ## The frames and vectors readers -/

namespace Frame

/-- The errors of `first` are streams that end inside a frame. -/
theorem kind_of_first_error {data : Bytes} {e : IoError} (h : first data = .error e) :
    e.kind = .unexpectedEof := by
  unfold first at h
  split at h
  · cases h
  split at h
  · cases h
    rfl
  dsimp only at h
  split at h
  · cases h
  split at h
  · cases h
    rfl
  · cases h

/-- A frame takes at least its prefix, so the bytes after it are fewer. -/
theorem length_lt_of_first_some {data p rest : Bytes} (h : first data = .ok (some (p, rest))) :
    rest.length < data.length := by
  rw [(eq_encode_of_first_some h).1, List.length_append, length_encode]
  have : prefixSize = 4 := rfl
  omega

end Frame

/-- The message of a payload that is no vector names its length. -/
theorem vectorLengthError_message (n : Nat) :
    (vectorLengthError n).message =
      "vector payload of " ++ toString n ++ " bytes is not a multiple of 8" := by
  have hlit : toString " bytes is not a multiple of " ++ toString Binary64.size =
      " bytes is not a multiple of 8" := by decide
  simp only [vectorLengthError, IoError.message]
  rw [String.append_assoc, hlit]
  rfl

namespace FrameReader

/-- The pulls of a frames reader over `data`: each frame of the reference parse, then the
damage where the parse ended inside a frame. -/
def expectedPulls (path : String) (data : Bytes) : List (Pull Bytes) :=
  (Frame.parse data).1.map (fun p => some (.ok p)) ++
    ((Frame.parse data).2.map fun e => some (.error (.corruptFrame path e.message))).toList

/-- A reader that has let go of its file gives nothing. -/
theorem pullAt_closed (d : Disk) (path : String) (k : Nat) :
    Reader.pullAt d (⟨path, none⟩ : FrameReader) k = none := by
  induction k with
  | zero => rfl
  | succ k ih => exact ih

/-- A frames reader over a file that ends inside a frame reports the damage and lets go. -/
theorem next_of_first_error {d : Disk} (path : String) {br : BufferedReader} {i : Nat}
    (hfile : br.handle = .file i) {e : IoError} (h : Frame.first (br.unread d) = .error e) :
    next d ⟨path, some br⟩ = (some (.error (.corruptFrame path e.message)), ⟨path, none⟩) := by
  have hover : FileSource.Over d (.file i) ⟨d, br⟩ := ⟨rfl, hfile⟩
  have hread : (Frame.read (FileSource.mk d br)).1 = .error e := by
    have := (Frame.read_spec (FileSource.streams d (.file i)) (FileSource.reliable d i) hover).1
    rw [FileSource.unread, h] at this
    exact this
  have hpair : Frame.read (FileSource.mk d br) = (.error e, (Frame.read (FileSource.mk d br)).2) := by
    rw [← hread]
  simp only [next]
  rw [hpair]
  simp only [frameError, Frame.kind_of_first_error h]

/-- The frames reader of a file yields the frames of the reference parse of its bytes, then
the damage where the parse ended inside a frame, and then nothing. -/
theorem pullAt_of_file {d : Disk} (path : String) {br : BufferedReader} {i : Nat}
    (hfile : br.handle = .file i) (k : Nat) :
    Reader.pullAt d (⟨path, some br⟩ : FrameReader) k =
      (expectedPulls path (br.unread d)).getD k none := by
  -- strong induction on the bytes left, which every frame that is read shortens
  induction hn : (br.unread d).length using Nat.strongRecOn generalizing br k with
  | ind n ih =>
    subst hn
    rcases hfirst : Frame.first (br.unread d) with e | _ | ⟨p, rest⟩
    · have hnext := next_of_first_error path hfile hfirst
      cases k <;> simp [hnext, pullAt_closed, expectedPulls, Frame.parse_of_first_error hfirst]
    · have hnext := next_of_first_none path hfile hfirst
      cases k <;> simp [hnext, pullAt_closed, expectedPulls, Frame.parse_of_first_none hfirst]
    · obtain ⟨br', hfile', hrest, hnext⟩ := next_of_first_some path hfile hfirst
      have hlen : (br'.unread d).length < (br.unread d).length :=
        hrest ▸ Frame.length_lt_of_first_some hfirst
      cases k with
      | zero => simp [hnext, expectedPulls, Frame.parse_of_first_some hfirst]
      | succ k =>
        rw [Reader.pullAt_succ, reader_next_eq, hnext, ih _ hlen hfile' k rfl, hrest]
        simp [expectedPulls, Frame.parse_of_first_some hfirst]

end FrameReader

namespace VectorReader

/-- The pulls of a vectors reader over the frames `ps` that ended as `ending`: the vector of
each frame, until a frame whose length is not a multiple of eight, which damages the file
and ends the reader; then the damage where the frames ended inside one. -/
def expectedPulls (path : String) : List Bytes → Frame.Ending → List (Pull (List Binary64))
  | [], ending => (ending.map fun e => some (.error (.corruptFrame path e.message))).toList
  | p :: ps, ending =>
    if p.length % 8 = 0 then some (.ok (decodeValues p)) :: expectedPulls path ps ending
    else [some (.error (.corruptFrame path
      ("vector payload of " ++ toString p.length ++ " bytes is not a multiple of 8")))]

/-- A reader that has let go of its file gives nothing. -/
theorem pullAt_closed (d : Disk) (path : String) (k : Nat) :
    Reader.pullAt d (⟨⟨path, none⟩⟩ : VectorReader) k = none := by
  induction k with
  | zero => rfl
  | succ k ih => exact ih

/-- The vectors reader of a file yields the vector of each frame of the reference parse of its
bytes, until a frame whose length is not a multiple of eight; then the damage where the parse
ended inside a frame, and then nothing. -/
theorem pullAt_of_file {d : Disk} (path : String) {br : BufferedReader} {i : Nat}
    (hfile : br.handle = .file i) (k : Nat) :
    Reader.pullAt d (⟨⟨path, some br⟩⟩ : VectorReader) k =
      (expectedPulls path (Frame.parse (br.unread d)).1 (Frame.parse (br.unread d)).2).getD k
        none := by
  -- strong induction on the bytes left, which every frame that is read shortens
  induction hn : (br.unread d).length using Nat.strongRecOn generalizing br k with
  | ind n ih =>
    subst hn
    rcases hfirst : Frame.first (br.unread d) with e | _ | ⟨p, rest⟩
    · have hnext : next d ⟨⟨path, some br⟩⟩ =
          (some (.error (.corruptFrame path e.message)), ⟨⟨path, none⟩⟩) := by
        simp [next, FrameReader.next_of_first_error path hfile hfirst]
      cases k <;> simp [hnext, pullAt_closed, expectedPulls, Frame.parse_of_first_error hfirst]
    · have hnext : next d ⟨⟨path, some br⟩⟩ = (none, ⟨⟨path, none⟩⟩) := by
        simp [next, FrameReader.next_of_first_none path hfile hfirst]
      cases k <;> simp [hnext, pullAt_closed, expectedPulls, Frame.parse_of_first_none hfirst]
    · obtain ⟨br', hfile', hrest, hframes⟩ := FrameReader.next_of_first_some path hfile hfirst
      rw [Frame.parse_of_first_some hfirst]
      by_cases hragged : p.length % 8 = 0
      · -- a whole vector: the reader moves past its frame
        have hnext : next d ⟨⟨path, some br⟩⟩ = (some (.ok (decodeValues p)), ⟨⟨path, some br'⟩⟩) := by
          simp [next, hframes, decodeVector, Binary64.size, hragged]
        have hlen : (br'.unread d).length < (br.unread d).length :=
          hrest ▸ Frame.length_lt_of_first_some hfirst
        cases k with
        | zero => simp [hnext, expectedPulls, hragged]
        | succ k =>
          rw [Reader.pullAt_succ, reader_next_eq, hnext, ih _ hlen hfile' k rfl, hrest]
          simp [expectedPulls, hragged]
      · -- a ragged payload damages the file, and the reader lets go of it
        have hnext : next d ⟨⟨path, some br⟩⟩ = (some (.error (.corruptFrame path
            ("vector payload of " ++ toString p.length ++ " bytes is not a multiple of 8"))),
            ⟨⟨path, none⟩⟩) := by
          have hkind : (vectorLengthError p.length).kind = .invalidData := rfl
          simp [next, hframes, decodeVector, Binary64.size, hragged, FrameReader.frameError,
            hkind, vectorLengthError_message]
        cases k <;> simp [hnext, pullAt_closed, expectedPulls, hragged]

end VectorReader


/-! ## Opening a file -/

/-- What the three readers opened on the file at `path` with the bytes `bytes` yield, pull
after pull: the ids reader the text of each line, the vectors reader the vector of each frame,
the metas reader each frame, each up to its first damage, and nothing after its end. -/
structure FileReadersFollow (d : Disk) (path : String) (bytes : Bytes) : Prop where
  ids : ∃ r, IdReader.open? d path = .ok r ∧
    ∀ k, Reader.pullAt d r k = (IdReader.expectedPulls path (BufferedReader.lines bytes)).getD k none
  vectors : ∃ r, VectorReader.open? d path = .ok r ∧
    ∀ k, Reader.pullAt d r k =
      (VectorReader.expectedPulls path (Frame.parse bytes).1 (Frame.parse bytes).2).getD k none
  metas : ∃ r, FrameReader.open? d path = .ok r ∧
    ∀ k, Reader.pullAt d r k = (FrameReader.expectedPulls path bytes).getD k none

/-- The readers opened on a file, whatever its bytes, yield exactly the reference readings of
those bytes: lines for ids, frames for vectors and metas, each up to the first damage, which
is reported once, and then nothing. -/
theorem file_readers_follow_contents {d : Disk} {path : String} {i : Nat}
    (hopen : d.openRead path = .ok (.file i)) : FileReadersFollow d path (d.content i) := by
  have hunread := BufferedReader.unread_ofHandle_file d i
  have hfile : (BufferedReader.ofHandle (.file i)).handle = .file i := rfl
  refine ⟨⟨⟨path, some (BufferedReader.ofHandle (.file i))⟩, ?_, fun k => ?_⟩,
    ⟨⟨⟨path, some (BufferedReader.ofHandle (.file i))⟩⟩, ?_, fun k => ?_⟩,
    ⟨⟨path, some (BufferedReader.ofHandle (.file i))⟩, ?_, fun k => ?_⟩⟩
  · simp [IdReader.open?, hopen]
  · rw [IdReader.pullAt_of_file path hfile k, hunread]
  · simp [VectorReader.open?, FrameReader.open?, hopen, Except.map]
  · rw [VectorReader.pullAt_of_file path hfile k, hunread]
  · simp [FrameReader.open?, hopen]
  · rw [FrameReader.pullAt_of_file path hfile k, hunread]

/-- A file holding one line and nothing else opens, so the readers follow its bytes. -/
theorem file_readers_follow_contents_one_line :
    (⟨[(["f"], .file 0)], [[104, 105, 10]]⟩ : Disk).openRead "f" = .ok (.file 0) ∧
      FileReadersFollow ⟨[(["f"], .file 0)], [[104, 105, 10]]⟩ "f" [104, 105, 10] :=
  ⟨rfl, @file_readers_follow_contents ⟨[(["f"], .file 0)], [[104, 105, 10]]⟩ "f" 0 rfl⟩

end ShardDump
