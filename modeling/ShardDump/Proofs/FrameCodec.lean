import ShardDump.Proofs.FrameRuns

/-!
# Writing frames and reading them back

`Frame.writeAll` writes payloads one after another on one buffer, as a caller of `Frame.write`
does: a refused payload leaves the buffer as it was, and the next one is written after the last
accepted frame. Of payloads that fit the length prefix exactly the empty ones are refused, and the
buffer ends up holding the frames of the others, in order (`writeAll_eq`).

Reading is the inverse of writing. The frames of non-empty payloads read back as those payloads,
then a clean end that takes every byte (`parse_flatten_encode`, `parsedLength_flatten_encode`).
Conversely, bytes read to a clean end are the frames of what was read, followed either by nothing,
when the bytes ran out, or by a terminator and whatever comes after it
(`eq_flatten_encode_of_parse`): the reader accepts exactly what the writer produces. Since a source
that hands out at least a byte per call is read as `Frame.parse` says (`frames_eq_parse`), both
directions hold of reading from such a source (`frames_round_trip`).
-/

namespace ShardDump

namespace Frame

/-- The bytes of a frame that claims length zero, which ends a stream of frames. -/
def terminator : Bytes := leBytes prefixSize 0

/-- Calls `write` once per payload, in order, on one buffer: the error of each call, if any,
and the buffer at the end. A refused payload leaves the buffer as it was. -/
def writeAll (buffer : Bytes) : List Bytes → List (Option IoError) × Bytes
  | [] => ([], buffer)
  | p :: ps =>
    match write buffer p with
    | .ok buffer' => (none :: (writeAll buffer' ps).1, (writeAll buffer' ps).2)
    | .error e => (some e :: (writeAll buffer ps).1, (writeAll buffer ps).2)

/-! ## Writing -/

/-- Writing payloads that fit the prefix refuses exactly the empty ones, with the same error,
and leaves the buffer holding the frames of the others after what it held. -/
theorem writeAll_eq (buffer : Bytes) {ps : List Bytes} (hlt : ∀ p ∈ ps, p.length < lengthLimit) :
    writeAll buffer ps =
      (ps.map fun p => if p = [] then some emptyPayloadError else none,
        buffer ++ ((ps.filter (· ≠ [])).map encode).flatten) := by
  induction ps generalizing buffer with
  | nil => simp [writeAll]
  | cons p ps ih =>
    have hlt' : ∀ q ∈ ps, q.length < lengthLimit := fun q hq => hlt q (by simp [hq])
    by_cases hp : p = []
    · -- a refused payload writes nothing: the rest goes on from the same buffer
      subst hp
      simp [writeAll, write_nil, ih buffer hlt']
    · rw [writeAll, write_of_ne_nil buffer hp (hlt p (by simp))]
      simp [ih _ hlt', hp]

/-! ## Reading what was written -/

@[simp] theorem parse_nil : parse [] = ([], none) := by
  rw [parse]
  simp

@[simp] theorem parsedLength_nil : parsedLength [] = 0 := by
  rw [parsedLength]
  simp [prefixSize]

/-- The frames of non-empty payloads that fit the prefix read back as those payloads, then a
clean end. -/
theorem parse_flatten_encode {qs : List Bytes} (hne : ∀ q ∈ qs, q ≠ [])
    (hlt : ∀ q ∈ qs, q.length < lengthLimit) : parse (qs.map encode).flatten = (qs, none) := by
  induction qs with
  | nil => simp
  | cons q qs ih =>
    have hfirst := first_encode_append (hne q (by simp)) (hlt q (by simp)) (qs.map encode).flatten
    rw [List.map_cons, List.flatten_cons, parse_of_first_some hfirst,
      ih (fun x hx => hne x (by simp [hx])) (fun x hx => hlt x (by simp [hx]))]

/-- Reading those frames takes every byte of them. -/
theorem parsedLength_flatten_encode {qs : List Bytes} (hne : ∀ q ∈ qs, q ≠ [])
    (hlt : ∀ q ∈ qs, q.length < lengthLimit) :
    parsedLength (qs.map encode).flatten = ((qs.map encode).flatten).length := by
  induction qs with
  | nil => simp
  | cons q qs ih =>
    have hfirst := first_encode_append (hne q (by simp)) (hlt q (by simp)) (qs.map encode).flatten
    rw [List.map_cons, List.flatten_cons, parsedLength_of_first_some hfirst,
      ih (fun x hx => hne x (by simp [hx])) (fun x hx => hlt x (by simp [hx]))]
    simp only [List.length_append, length_encode]

/-! ## What reads to a clean end -/

/-- Where the first frame is the end, the bytes are over or start with a terminator. -/
theorem eq_terminator_of_first_none {data : Bytes} (h : first data = .ok none) :
    data = [] ∨ ∃ rest, data = terminator ++ rest := by
  unfold first at h
  split at h
  · rename_i hempty
    exact .inl (List.isEmpty_iff.1 hempty)
  split at h
  · cases h
  rename_i hne hlen
  dsimp only at h
  split at h
  · -- the prefix is there and claims nothing: it is the terminator
    rename_i hclaimed
    have htake : (data.take prefixSize).length = prefixSize := by
      simp only [List.length_take]
      omega
    have hprefix : data.take prefixSize = terminator := by
      have := leBytes_leValue (data.take prefixSize)
      rw [htake, hclaimed] at this
      exact this.symm
    exact .inr ⟨data.drop prefixSize, by rw [← hprefix, List.take_append_drop]⟩
  split at h <;> cases h

/-- Bytes read to a clean end are the frames of the payloads read, each non-empty and within
the length limit, followed by nothing or by a terminator and whatever comes after it. -/
theorem eq_flatten_encode_of_parse {data : Bytes} {fs : List Bytes} (h : parse data = (fs, none)) :
    (∀ f ∈ fs, f ≠ [] ∧ f.length < lengthLimit) ∧
      (data = (fs.map encode).flatten ∨
        ∃ rest, data = (fs.map encode).flatten ++ terminator ++ rest) := by
  -- strong induction on the bytes, following the first frame
  induction hn : data.length using Nat.strongRecOn generalizing data fs with
  | ind n ih =>
    subst hn
    rcases hfirst : first data with e | _ | ⟨p, rest⟩
    · rw [parse_of_first_error hfirst] at h
      cases h
    · rw [parse_of_first_none hfirst] at h
      cases h
      simpa using eq_terminator_of_first_none hfirst
    · rw [parse_of_first_some hfirst] at h
      obtain ⟨fs', hparse⟩ : ∃ fs', parse rest = (fs', none) :=
        ⟨(parse rest).1, Prod.ext rfl (Prod.mk.inj h).2⟩
      rw [hparse] at h
      obtain rfl : p :: fs' = fs := (Prod.mk.inj h).1
      obtain ⟨hdata, hp, hplt⟩ := eq_encode_of_first_some hfirst
      have hshorter : rest.length < data.length := by
        have hsize : prefixSize = 4 := rfl
        rw [hdata, List.length_append, length_encode]
        omega
      obtain ⟨hfs, hcases⟩ := ih rest.length hshorter hparse rfl
      refine ⟨?_, ?_⟩
      · intro f hf
        rcases List.mem_cons.1 hf with rfl | hf
        · exact ⟨hp, hplt⟩
        · exact hfs f hf
      · rw [hdata, List.map_cons, List.flatten_cons]
        rcases hcases with hrest | ⟨more, hrest⟩
        · exact .inl (by rw [hrest])
        · exact .inr ⟨more, by simp only [hrest, List.append_assoc]⟩

end Frame

/-! ## Reading from a source -/

namespace ChunkedBytes

/-- A source that hands out at least one byte per call, with or without interruptions, is read
to its end as `Frame.parse` reads its bytes, and the run takes `parsedLength` of them. -/
theorem frames_eq_parse (data : Bytes) {chunk : Option Nat} (hc : chunk ≠ some 0)
    (interrupting : Bool) :
    ((ofBytes data chunk interrupting none).frames.1,
        (ofBytes data chunk interrupting none).frames.2.1) = Frame.parse data ∧
      (ofBytes data chunk interrupting none).frames.2.2.consumed = Frame.parsedLength data := by
  have hstart : Serves data (ofBytes data chunk interrupting none) := ⟨rfl, hc, rfl, Nat.zero_le _⟩
  have hview : (ofBytes data chunk interrupting none).unread = data := rfl
  -- every frame takes a byte, so one more call than there are bytes reaches the end
  have hfuel : (ofBytes data chunk interrupting none).unread.length < data.length + 1 := by
    rw [hview]
    omega
  obtain ⟨hrun, hend, hafter⟩ := Frame.readMany_spec (streams data) (reliable data) hstart hfuel
  rw [hview] at hrun hafter
  have hframes : (ofBytes data chunk interrupting none).frames =
      Frame.readMany (ofBytes data chunk interrupting none) (data.length + 1) := rfl
  refine ⟨hrun, ?_⟩
  have hpl := Frame.parsedLength_le data
  rw [hframes, consumed_eq_of_serves hend, hafter, List.length_drop]
  omega

end ChunkedBytes

/-- Frames written one payload at a time and read back from a source that hands out at least a
byte per call. Writing payloads that fit the length prefix refuses exactly the empty ones and
leaves the buffer holding the frames of the others; reading that buffer gives those payloads in
order, then a clean end, having taken every byte. Conversely, bytes read to a clean end are what
writing the payloads read produces, with no payload refused, followed by nothing or by a
terminator and whatever comes after it. -/
theorem frames_round_trip {chunk : Option Nat} (hc : chunk ≠ some 0) (interrupting : Bool) :
    (∀ ps : List Bytes, (∀ p ∈ ps, p.length < Frame.lengthLimit) →
      (Frame.writeAll [] ps).1 =
          ps.map (fun p => if p = [] then some Frame.emptyPayloadError else none) ∧
        (Frame.writeAll [] ps).2 = ((ps.filter (· ≠ [])).map Frame.encode).flatten ∧
        (ChunkedBytes.ofBytes (Frame.writeAll [] ps).2 chunk interrupting none).frames.1 =
          ps.filter (· ≠ []) ∧
        (ChunkedBytes.ofBytes (Frame.writeAll [] ps).2 chunk interrupting none).frames.2.1 = none ∧
        (ChunkedBytes.ofBytes (Frame.writeAll [] ps).2 chunk interrupting none).frames.2.2.consumed =
          (Frame.writeAll [] ps).2.length) ∧
    (∀ (data : Bytes) (fs : List Bytes) (s : ChunkedBytes),
      (ChunkedBytes.ofBytes data chunk interrupting none).frames = (fs, none, s) →
        (Frame.writeAll [] fs).1 = fs.map (fun _ => none) ∧
        (data = (Frame.writeAll [] fs).2 ∨
          ∃ rest, data = (Frame.writeAll [] fs).2 ++ Frame.terminator ++ rest)) := by
  refine ⟨fun ps hlt => ?_, fun data fs s hrun => ?_⟩
  · have hne : ∀ q ∈ ps.filter (· ≠ []), q ≠ [] := fun q hq => by simpa using (List.mem_filter.1 hq).2
    have hlt' : ∀ q ∈ ps.filter (· ≠ []), q.length < Frame.lengthLimit :=
      fun q hq => hlt q (List.mem_filter.1 hq).1
    obtain ⟨hparse, hconsumed⟩ :=
      ChunkedBytes.frames_eq_parse ((ps.filter (· ≠ [])).map Frame.encode).flatten hc interrupting
    rw [Frame.parse_flatten_encode hne hlt'] at hparse
    rw [Frame.writeAll_eq [] hlt, List.nil_append]
    exact ⟨rfl, rfl, congrArg Prod.fst hparse, congrArg Prod.snd hparse,
      hconsumed.trans (Frame.parsedLength_flatten_encode hne hlt')⟩
  · obtain ⟨hparse, -⟩ := ChunkedBytes.frames_eq_parse data hc interrupting
    rw [hrun] at hparse
    obtain ⟨hfs, hdata⟩ := Frame.eq_flatten_encode_of_parse hparse.symm
    -- every payload read is one that writing accepts
    have hfilter : fs.filter (· ≠ []) = fs := List.filter_eq_self.2 fun f hf => by simpa using (hfs f hf).1
    have hmap : fs.map (fun p => if p = [] then some Frame.emptyPayloadError else none) =
        fs.map (fun _ => none) := List.map_congr_left fun f hf => if_neg (hfs f hf).1
    rw [Frame.writeAll_eq [] fun f hf => (hfs f hf).2, hmap, List.nil_append, hfilter]
    exact ⟨rfl, hdata⟩

/-- Three payloads, the middle one empty, written and read back one byte per call with every
other call interrupted: the empty one is refused and the other two come back. -/
theorem frames_round_trip_one_byte_calls :
    some 1 ≠ some 0 ∧ (∀ p ∈ ([[1, 2], [], [3]] : List Bytes), p.length < Frame.lengthLimit) ∧
      (ChunkedBytes.ofBytes (Frame.writeAll [] [[1, 2], [], [3]]).2 (some 1) true none).frames.1 =
        [[1, 2], [3]] := by
  have hlt : ∀ p ∈ ([[1, 2], [], [3]] : List Bytes), p.length < Frame.lengthLimit := by decide
  have hrun := ((@frames_round_trip (some 1) (by decide) true).1 _ hlt).2.2.1
  exact ⟨by decide, hlt, by simpa using hrun⟩

end ShardDump
