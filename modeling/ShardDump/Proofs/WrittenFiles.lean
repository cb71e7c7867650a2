import ShardDump.Proofs.FileReaders

/-!
# Reading back what was written

An id is written as its UTF-8 bytes and a newline. No character but the newline encodes
to the newline byte, so an id without a newline makes exactly one line, which the ids
reader takes back whole and turns into the id again. Payloads are written as frames, which
the frames reader takes back one by one, and a vector payload decodes to the vector.

So a file of id lines drains its ids reader to the ids (`IdReader.drains_of_lines`), and a
file of frames drains its frames reader to the payloads and its vectors reader to the
vectors (`FrameReader.drains_of_frames`, `VectorReader.drains_of_frames`).
-/

namespace ShardDump

/-! ## Bytes of text -/

theorem byteArray_toList_loop (bs : ByteArray) (i : Nat) (r : List UInt8) (hi : i ≤ bs.size) :
    ByteArray.toList.loop bs i r = r.reverse ++ bs.data.toList.drop i := by
  fun_induction ByteArray.toList.loop bs i r with
  | case1 i r hlt ih =>
    rw [ih hlt]
    have hlen : i < bs.data.toList.length := by simpa using hlt
    have hget : bs.get! i = bs.data.toList[i] := by
      obtain ⟨data⟩ := bs
      have hsize : i < data.size := by simpa using hlen
      simp only [ByteArray.get!]
      rw [getElem!_pos data i hsize]
      simp
    rw [List.drop_eq_getElem_cons hlen, hget]
    simp
  | case2 i r hge =>
    have hend : i = bs.size := by omega
    subst hend
    simp

/-- The bytes of a byte array, in order. -/
theorem byteArray_toList (bs : ByteArray) : bs.toList = bs.data.toList := by
  rw [ByteArray.toList]
  simpa using byteArray_toList_loop bs 0 [] (Nat.zero_le _)

/-- The UTF-8 bytes of a text are the bytes of its characters in turn. -/
theorem toUTF8_toList (s : String) : s.toUTF8.toList = s.toList.flatMap String.utf8EncodeChar := by
  rw [byteArray_toList, String.toUTF8_eq_toByteArray, ← String.utf8Encode_toList,
    List.utf8Encode, List.toList_data_toByteArray]

/-- Only the newline character encodes to the newline byte. -/
theorem eq_newline_of_mem_utf8EncodeChar {c : Char}
    (h : BufferedReader.newline ∈ String.utf8EncodeChar c) : c = '\n' := by
  have hbyte : ∀ k : Nat, BufferedReader.newline = UInt8.ofNat k → k % 256 = 10 := by
    intro k hk
    have := congrArg UInt8.toNat hk
    simpa [BufferedReader.newline] using this.symm
  unfold String.utf8EncodeChar at h
  dsimp only at h
  split at h
  · -- one byte: the character's own code
    simp only [List.mem_singleton] at h
    have hv := hbyte _ h
    have hval : c.val.toNat = 10 := by omega
    apply Char.ext
    apply UInt32.toNat_inj.1
    simpa using hval
  -- several bytes: each one has its high bit set
  split at h
  · simp only [List.mem_cons, List.not_mem_nil, or_false] at h
    rcases h with h | h <;> have := hbyte _ h <;> omega
  split at h
  · simp only [List.mem_cons, List.not_mem_nil, or_false] at h
    rcases h with h | h | h <;> have := hbyte _ h <;> omega
  · simp only [List.mem_cons, List.not_mem_nil, or_false] at h
    rcases h with h | h | h | h <;> have := hbyte _ h <;> omega

theorem newline_not_mem_toUTF8 {s : String} (h : '\n' ∉ s.toList) :
    BufferedReader.newline ∉ s.toUTF8.toList := by
  rw [toUTF8_toList, List.mem_flatMap]
  rintro ⟨c, hc, hmem⟩
  rw [eq_newline_of_mem_utf8EncodeChar hmem] at hc
  exact h hc

/-- A text is read back from its UTF-8 bytes. -/
theorem fromUTF8?_toUTF8_toList (s : String) :
    String.fromUTF8? ⟨s.toUTF8.toList.toArray⟩ = some s := by
  have hbytes : (⟨s.toUTF8.toList.toArray⟩ : ByteArray) = s.toByteArray := by
    rw [byteArray_toList]
    rfl
  rw [hbytes]
  simp [String.fromUTF8?, s.isValidUTF8, String.fromUTF8]

/-! ## Lines of ids -/

/-- The bytes of the line of an id: its UTF-8 bytes and a newline. -/
def idLine (id : String) : Bytes := (id ++ "\n").toUTF8.toList

theorem idLine_eq (id : String) : idLine id = id.toUTF8.toList ++ [BufferedReader.newline] := by
  rw [idLine, toUTF8_toList, toUTF8_toList, String.toList_append, List.flatMap_append]
  rfl

/-- The line of an id without a newline is the first line of what follows it. -/
theorem lineOf_idLine_append {id : String} (h : '\n' ∉ id.toList) (rest : Bytes) :
    BufferedReader.lineOf (idLine id ++ rest) = idLine id := by
  rw [idLine_eq, List.append_assoc, BufferedReader.lineOf_append_of_not_mem
    (newline_not_mem_toUTF8 h)]
  simp [BufferedReader.lineOf]

theorem idOfLine_append_newline (id : String) : IdReader.idOfLine (id ++ "\n") = id := by
  simp [IdReader.idOfLine, String.toList_append, String.ofList_toList]

/-- An ids reader over the lines of ids without newlines yields the ids, then ends. -/
theorem IdReader.drains_of_lines {d : Disk} {path : String} {ids : List String}
    (hids : ∀ id ∈ ids, '\n' ∉ id.toList) {br : BufferedReader} {i : Nat}
    (hfile : br.handle = .file i) (hbytes : br.unread d = (ids.map idLine).flatten) :
    Reader.Drains d (⟨path, some br⟩ : IdReader) ids none := by
  induction ids generalizing br with
  | nil =>
    obtain ⟨line, hline⟩ := BufferedReader.readLine_file_isOk d hfile
    match hr : br.readLine d with
    | (.error e, br') =>
      rw [hr] at hline
      cases hline
    | (.ok line', br') =>
      -- nothing is left to read: the line is empty and the reader ends
      obtain ⟨-, hl, -⟩ := BufferedReader.readLine_ok hr
      rw [hbytes, List.map_nil, List.flatten_nil, BufferedReader.lineOf_nil] at hl
      subst hl
      have hnext : IdReader.next d ⟨path, some br⟩ = (none, ⟨path, none⟩) := by
        simp [IdReader.next, hr]
      exact .done hnext
  | cons id rest ih =>
    obtain ⟨line, hline⟩ := BufferedReader.readLine_file_isOk d hfile
    match hr : br.readLine d with
    | (.error e, br') =>
      rw [hr] at hline
      cases hline
    | (.ok line', br') =>
      -- the line read is the id's own, and the rest of the file is left
      obtain ⟨hhandle, hl, hsplit⟩ := BufferedReader.readLine_ok hr
      have hid : '\n' ∉ id.toList := hids id List.mem_cons_self
      have hlineq : line' = idLine id := by
        rw [hl, hbytes, List.map_cons, List.flatten_cons, lineOf_idLine_append hid]
      subst hlineq
      have hrest : br'.unread d = (rest.map idLine).flatten := by
        rw [hbytes, List.map_cons, List.flatten_cons] at hsplit
        exact (List.append_cancel_left hsplit).symm
      have hne : (idLine id).isEmpty = false := by
        simp [idLine_eq]
      have hnext : IdReader.next d ⟨path, some br⟩ = (some (.ok id), ⟨path, some br'⟩) := by
        simp only [IdReader.next, hr, hne, Bool.false_eq_true, ↓reduceIte]
        simp only [idLine, fromUTF8?_toUTF8_toList, idOfLine_append_newline]
      exact .item hnext (ih (fun x hx => hids x (List.mem_cons_of_mem _ hx))
        (hhandle.trans hfile) hrest)

/-! ## Frames and vectors -/

/-- A frames reader over a file finds at the front of the file's unread bytes what
`Frame.first` finds there, and moves past it. -/
theorem FrameReader.next_of_first_some {d : Disk} (path : String) {br : BufferedReader}
    {i : Nat} (hfile : br.handle = .file i) {p rest : Bytes}
    (h : Frame.first (br.unread d) = .ok (some (p, rest))) :
    ∃ br', br'.handle = .file i ∧ br'.unread d = rest ∧
      FrameReader.next d ⟨path, some br⟩ = (some (.ok p), ⟨path, some br'⟩) := by
  have hover : FileSource.Over d (.file i) ⟨d, br⟩ := ⟨rfl, hfile⟩
  obtain ⟨hread, ⟨hdisk, hhandle⟩, hunread⟩ :=
    Frame.read_of_first_some (FileSource.streams d (.file i)) (FileSource.reliable d i) hover h
  have hpair : Frame.read (FileSource.mk d br) =
      (.ok (some p), (Frame.read (FileSource.mk d br)).2) := by
    rw [← hread]
  refine ⟨(Frame.read (FileSource.mk d br)).2.reader, hhandle, ?_, ?_⟩
  · simpa [FileSource.unread, hdisk] using hunread
  · simp only [FrameReader.next]
    rw [hpair]

theorem FrameReader.next_of_first_none {d : Disk} (path : String) {br : BufferedReader}
    {i : Nat} (hfile : br.handle = .file i) (h : Frame.first (br.unread d) = .ok none) :
    FrameReader.next d ⟨path, some br⟩ = (none, ⟨path, none⟩) := by
  have hover : FileSource.Over d (.file i) ⟨d, br⟩ := ⟨rfl, hfile⟩
  have hread := Frame.read_of_first_none (FileSource.streams d (.file i))
    (FileSource.reliable d i) hover h
  have hpair : Frame.read (FileSource.mk d br) = (.ok none, (Frame.read (FileSource.mk d br)).2) := by
    rw [← hread]
  simp only [FrameReader.next]
  rw [hpair]

/-- A frames reader over the frames of payloads yields the payloads, then ends. -/
theorem FrameReader.drains_of_frames {d : Disk} {path : String} {ps : List Bytes}
    (hps : ∀ p ∈ ps, p ≠ [] ∧ p.length < Frame.lengthLimit) {br : BufferedReader} {i : Nat}
    (hfile : br.handle = .file i) (hbytes : br.unread d = (ps.map Frame.encode).flatten) :
    Reader.Drains d (⟨path, some br⟩ : FrameReader) ps none := by
  induction ps generalizing br with
  | nil =>
    rw [List.map_nil, List.flatten_nil] at hbytes
    exact .done (FrameReader.next_of_first_none path hfile (by rw [hbytes, Frame.first_nil]))
  | cons p rest ih =>
    obtain ⟨hp, hlt⟩ := hps p List.mem_cons_self
    have hfirst : Frame.first (br.unread d) = .ok (some (p, (rest.map Frame.encode).flatten)) := by
      rw [hbytes, List.map_cons, List.flatten_cons, Frame.first_encode_append hp hlt]
    obtain ⟨br', hfile', hrest, hnext⟩ := FrameReader.next_of_first_some path hfile hfirst
    exact .item hnext (ih (fun q hq => hps q (List.mem_cons_of_mem _ hq)) hfile' hrest)

theorem decodeValues_append {bs : Bytes} (h : bs.length = 8) (rest : Bytes) :
    decodeValues (bs ++ rest) = Binary64.ofBytes bs :: decodeValues rest := by
  match bs, h with
  | [_, _, _, _, _, _, _, _], _ => rfl

theorem ofBytes_toBytes (x : Binary64) : Binary64.ofBytes x.toBytes = x := by
  have hlt : x.bits.toNat < Nat.pow 256 Binary64.size := x.bits.toNat_lt
  simp only [Binary64.ofBytes, Binary64.toBytes, leValue_leBytes_of_lt hlt, UInt64.ofNat_toNat]

/-- A vector is decoded from its payload, bit for bit. -/
theorem decodeVector_encodeVector (v : List Binary64) : decodeVector (encodeVector v) = .ok v := by
  have hvalues : decodeValues (encodeVector v) = v := by
    induction v with
    | nil => rfl
    | cons x rest ih =>
      rw [encodeVector, List.flatMap_cons, decodeValues_append (length_toBytes x),
        ofBytes_toBytes, ← encodeVector, ih]
  simp [decodeVector, hvalues, Binary64.size]

/-- A vectors reader over the frames of vector payloads yields the vectors, then ends. -/
theorem VectorReader.drains_of_frames {d : Disk} {path : String} {vs : List (List Binary64)}
    (hvs : ∀ v ∈ vs, encodeVector v ≠ [] ∧ (encodeVector v).length < Frame.lengthLimit)
    {br : BufferedReader} {i : Nat} (hfile : br.handle = .file i)
    (hbytes : br.unread d = (vs.map fun v => Frame.encode (encodeVector v)).flatten) :
    Reader.Drains d (⟨⟨path, some br⟩⟩ : VectorReader) vs none := by
  induction vs generalizing br with
  | nil =>
    rw [List.map_nil, List.flatten_nil] at hbytes
    have hframes := FrameReader.next_of_first_none path hfile
      (by rw [hbytes, Frame.first_nil])
    have hnext : VectorReader.next d ⟨⟨path, some br⟩⟩ = (none, ⟨⟨path, none⟩⟩) := by
      simp [VectorReader.next, hframes]
    exact .done hnext
  | cons v rest ih =>
    obtain ⟨hv, hlt⟩ := hvs v List.mem_cons_self
    have hfirst : Frame.first (br.unread d) =
        .ok (some (encodeVector v, (rest.map fun v => Frame.encode (encodeVector v)).flatten)) := by
      rw [hbytes, List.map_cons, List.flatten_cons, Frame.first_encode_append hv hlt]
    obtain ⟨br', hfile', hrest, hframes⟩ := FrameReader.next_of_first_some path hfile hfirst
    have hnext : VectorReader.next d ⟨⟨path, some br⟩⟩ = (some (.ok v), ⟨⟨path, some br'⟩⟩) := by
      simp [VectorReader.next, hframes, decodeVector_encodeVector]
    exact .item hnext (ih (fun w hw => hvs w (List.mem_cons_of_mem _ hw)) hfile' hrest)

end ShardDump
