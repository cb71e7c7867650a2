import ShardDump.Frame.Chunked
import ShardDump.Proofs.FrameReading

/-!
# Reading every frame of a source

`Frame.parse` is the reference reading of a byte string: the first frame, then the frames
after it, until the bytes end, a terminator, or a frame cut short. `parsedLength` counts the
bytes that reading takes. From a reliable streaming source, reading frame after frame with
enough fuel gives exactly the reference parse of the bytes and takes exactly `parsedLength`
of them (`readMany_spec`).

An in-memory source that hands out at most `c ≥ 1` bytes per call, with or without an
interruption on every other call, streams its bytes reliably. So however its bytes are cut
and interrupted, each call of `Frame.read` reads what the reference reading finds at the
call's offset and no byte past it, and the whole run is the reference parse
(`chunked_frames_follow_parse`).
-/

namespace ShardDump

namespace Frame

/-! ## Whole runs -/

/-- The reference parse reads the first frame and goes on after it. -/
theorem parse_of_first_some {data p rest : Bytes} (h : first data = .ok (some (p, rest))) :
    parse data = (p :: (parse rest).1, (parse rest).2) := by
  unfold first at h
  rw [parse]
  split at h
  · cases h
  split at h
  · cases h
  rename_i hne hlen
  dsimp only at h ⊢
  split at h
  · cases h
  rename_i hclaimed
  split at h
  · cases h
  rename_i hfits
  simp only [Except.ok.injEq, Option.some.injEq, Prod.mk.injEq] at h
  obtain ⟨rfl, rfl⟩ := h
  simp only [hne, hlen, hclaimed, hfits, Bool.false_eq_true, ↓reduceIte]

theorem parse_of_first_none {data : Bytes} (h : first data = .ok none) : parse data = ([], none) := by
  unfold first at h
  rw [parse]
  split at h
  · rename_i hempty
    simp only [hempty, ↓reduceIte]
  split at h
  · cases h
  rename_i hne hlen
  dsimp only at h ⊢
  split at h
  · rename_i hclaimed
    simp only [hne, hlen, hclaimed, Bool.false_eq_true, ↓reduceIte]
  split at h <;> cases h

theorem parse_of_first_error {data : Bytes} {e : IoError} (h : first data = .error e) :
    parse data = ([], some e) := by
  unfold first at h
  rw [parse]
  split at h
  · cases h
  split at h
  · rename_i hne hlen
    cases h
    simp only [hne, hlen, Bool.false_eq_true, ↓reduceIte]
  rename_i hne hlen
  dsimp only at h ⊢
  split at h
  · cases h
  rename_i hclaimed
  split at h
  · rename_i hshort
    cases h
    simp only [hne, hlen, hclaimed, hshort, Bool.false_eq_true, ↓reduceIte]
  · cases h

/-- How many bytes reading every frame of `data` takes: all its frames, then the prefix of a
terminator, or every byte when the bytes end, cleanly or inside a frame. -/
def parsedLength (data : Bytes) : Nat :=
  if data.length < prefixSize then data.length
  else
    let claimed := leValue (data.take prefixSize)
    let rest := data.drop prefixSize
    if claimed = 0 then prefixSize
    else if rest.length < claimed then data.length
    else prefixSize + claimed + parsedLength (rest.drop claimed)
termination_by data.length
decreasing_by
  simp only [List.length_drop, prefixSize] at *
  omega

theorem parsedLength_of_first_some {data p rest : Bytes} (h : first data = .ok (some (p, rest))) :
    parsedLength data = prefixSize + p.length + parsedLength rest := by
  obtain ⟨hdata, -, -⟩ := eq_encode_of_first_some h
  unfold first at h
  rw [parsedLength]
  split at h
  · cases h
  split at h
  · cases h
  rename_i hne hlen
  dsimp only at h ⊢
  split at h
  · cases h
  rename_i hclaimed
  split at h
  · cases h
  rename_i hfits
  simp only [Except.ok.injEq, Option.some.injEq, Prod.mk.injEq] at h
  obtain ⟨rfl, rfl⟩ := h
  simp only [hlen, hclaimed, hfits, ↓reduceIte, List.length_take]
  omega

theorem parsedLength_of_first_end {data : Bytes} (h : ∀ p rest, first data ≠ .ok (some (p, rest))) :
    parsedLength data = firstLength data := by
  unfold first at h
  rw [parsedLength, firstLength]
  split
  · rfl
  rename_i hlen
  have hne : data.isEmpty = false := isEmpty_of_prefixSize_le (Nat.not_lt.1 hlen)
  dsimp only at h ⊢
  split
  · rfl
  rename_i hclaimed
  split
  · rename_i hshort
    simp only [List.length_drop] at hshort
    omega
  · -- a whole frame is there, which `h` rules out
    rename_i hfits
    exfalso
    apply h ((data.drop prefixSize).take (leValue (data.take prefixSize)))
      ((data.drop prefixSize).drop (leValue (data.take prefixSize)))
    simp only [hne, hlen, hclaimed, hfits, Bool.false_eq_true, ↓reduceIte]

end Frame

namespace Frame

variable {σ : Type} [ByteSource σ] {good : σ → Prop} {view : σ → Bytes}

/-- From a reliable source, reading frames with more fuel than bytes gives the reference
parse of the bytes and takes `parsedLength` of them. -/
theorem readMany_spec (hs : ByteSource.Streams good view) (hr : ByteSource.Reliable good)
    {s : σ} (hg : good s) {fuel : Nat} (hfuel : (view s).length < fuel) :
    ((readMany s fuel).1, (readMany s fuel).2.1) = parse (view s) ∧ good (readMany s fuel).2.2 ∧
      view (readMany s fuel).2.2 = (view s).drop (parsedLength (view s)) := by
  -- induction on the fuel, which the bytes left stay below since every frame takes some
  induction fuel generalizing s with
  | zero => omega
  | succ fuel ih =>
    obtain ⟨hres, hg', hview⟩ := read_spec hs hr hg
    cases hrd : read s with
    | mk r s' =>
    rw [hrd] at hres hg' hview
    dsimp only at hres hg' hview
    rcases hfirst : first (view s) with e | _ | ⟨p, rest⟩
    · simp only [hfirst, Except.map] at hres
      subst hres
      simp only [readMany, hrd]
      refine ⟨(parse_of_first_error hfirst).symm, hg', ?_⟩
      rw [hview, parsedLength_of_first_end (by simp [hfirst])]
    · simp only [hfirst, Except.map, Option.map_none] at hres
      subst hres
      simp only [readMany, hrd]
      refine ⟨(parse_of_first_none hfirst).symm, hg', ?_⟩
      rw [hview, parsedLength_of_first_end (by simp [hfirst])]
    · simp only [hfirst, Except.map, Option.map_some] at hres
      subst hres
      simp only [readMany, hrd]
      have hrest : view s' = rest := by rw [hview, drop_firstLength_of_first_some hfirst]
      have hlen : (view s).length = prefixSize + p.length + rest.length := by
        rw [(eq_encode_of_first_some hfirst).1]
        simp
      have hsize : prefixSize = 4 := rfl
      obtain ⟨hrun, hg'', hview''⟩ := ih hg' (by rw [hrest]; omega)
      rw [hrest] at hrun hview''
      refine ⟨?_, hg'', ?_⟩
      · rw [parse_of_first_some hfirst, ← hrun]
      · rw [hview'', parsedLength_of_first_some hfirst, (eq_encode_of_first_some hfirst).1,
          List.drop_append]
        simp

end Frame

namespace Frame

theorem parsedLength_le (data : Bytes) : parsedLength data ≤ data.length := by
  -- strong induction on the bytes, following the first frame
  induction hn : data.length using Nat.strongRecOn generalizing data with
  | ind n ih =>
    subst hn
    rcases hfirst : first data with e | _ | ⟨p, rest⟩
    · rw [parsedLength_of_first_end (by simp [hfirst])]
      exact firstLength_le data
    · rw [parsedLength_of_first_end (by simp [hfirst])]
      exact firstLength_le data
    · have hlen : data.length = prefixSize + p.length + rest.length := by
        rw [(eq_encode_of_first_some hfirst).1]
        simp
      have hsize : prefixSize = 4 := rfl
      have hrest := ih rest.length (by omega) rest rfl
      rw [parsedLength_of_first_some hfirst]
      omega

end Frame

namespace ChunkedBytes

/-- The bytes the source has not handed out yet. -/
def unread (s : ChunkedBytes) : Bytes := s.data.drop s.consumed

/-- The sources over `data` that never fail and give at least one byte to a call that asks
for some while some are left. -/
structure Serves (data : Bytes) (s : ChunkedBytes) : Prop where
  data_eq : s.data = data
  chunk_ne_zero : s.chunk ≠ some 0
  no_failure : s.failAt = none
  consumed_le : s.consumed ≤ data.length

theorem read_eq (s : ChunkedBytes) (n : Nat) : ByteSource.read s n = s.readCall n := rfl

theorem failsNow_of_serves {data : Bytes} {s : ChunkedBytes} (hs : Serves data s) :
    s.failsNow = false := by
  simp [failsNow, hs.no_failure]

/-- The bytes before the `consumed` mark and those after it make up the unread bytes. -/
theorem consumed_eq_of_serves {data : Bytes} {s : ChunkedBytes} (hs : Serves data s) :
    s.consumed = data.length - s.unread.length := by
  have := hs.consumed_le
  simp only [unread, hs.data_eq, List.length_drop]
  omega

/-- A call that hands out the next `size` bytes, at most the `n` asked for and some when
some were asked for, leaves the source serving the bytes after them. -/
theorem data_step {data : Bytes} {s s' : ChunkedBytes} (hs : Serves data s) {n size : Nat}
    (hle : size ≤ n) (hpos : 0 < n → 0 < size) (hdata : s'.data = s.data)
    (hchunk : s'.chunk = s.chunk) (hfail : s'.failAt = s.failAt)
    (hconsumed : s'.consumed = s.consumed + ((s.data.drop s.consumed).take size).length) :
    Serves data s' ∧ ((s.data.drop s.consumed).take size).length ≤ n ∧
      s.unread = (s.data.drop s.consumed).take size ++ s'.unread ∧
      (0 < n → s.unread ≠ [] → (s.data.drop s.consumed).take size ≠ []) := by
  have hdata₀ := hs.data_eq
  refine ⟨⟨hdata.trans hs.data_eq, hchunk ▸ hs.chunk_ne_zero, hfail ▸ hs.no_failure, ?_⟩, ?_, ?_, ?_⟩
  · have := hs.consumed_le
    simp only [hconsumed, List.length_take, List.length_drop, hdata₀]
    omega
  · exact Nat.le_trans (List.length_take_le _ _) hle
  · simp only [unread, hdata, hconsumed, ← List.drop_drop]
    by_cases hfit : size ≤ (s.data.drop s.consumed).length
    · rw [List.length_take, Nat.min_eq_left hfit, List.take_append_drop]
    · rw [List.length_take, Nat.min_eq_right (by omega), List.drop_length,
        List.take_of_length_le (by omega), List.append_nil]
  · intro hn hne
    simp only [unread] at hne
    simp [List.take_eq_nil_iff, Nat.pos_iff_ne_zero.1 (hpos hn), hne]

/-- A source over `data` hands its unread bytes out in order. -/
theorem streams (data : Bytes) : ByteSource.Streams (Serves data) unread where
  data := by
    intro s n b s' hs hread
    rw [read_eq, readCall, if_neg (by simp [failsNow_of_serves hs])] at hread
    split at hread
    · cases hread
    simp only [Prod.mk.injEq, ReadOutcome.data.injEq] at hread
    obtain ⟨rfl, rfl⟩ := hread
    -- one call hands out the next bytes, as many as asked for or as the chunk allows
    split
    · rename_i c hc
      have hc0 : c ≠ 0 := fun h0 => hs.chunk_ne_zero (by rw [hc, h0])
      exact data_step hs (Nat.min_le_right c n) (by omega) rfl rfl rfl rfl
    · exact data_step hs (Nat.le_refl n) id rfl rfl rfl rfl
  interrupted := by
    intro s n s' hs hread
    rw [read_eq, readCall, if_neg (by simp [failsNow_of_serves hs])] at hread
    split at hread
    · simp only [Prod.mk.injEq] at hread
      obtain ⟨-, rfl⟩ := hread
      exact ⟨⟨hs.data_eq, hs.chunk_ne_zero, hs.no_failure, hs.consumed_le⟩, rfl⟩
    · simp at hread

/-- A source over `data` never fails. -/
theorem reliable (data : Bytes) : ByteSource.Reliable (Serves data) := by
  intro s n e hs
  rw [read_eq, readCall, if_neg (by simp [failsNow_of_serves hs])]
  split <;> simp

end ChunkedBytes

/-- What reading frames from a source over `data` gives when each call hands out at most `c`
bytes and, with `interrupting`, every other call is interrupted. Each call, at any offset,
reads what the reference reading finds there and takes `firstLength` bytes, never one past
the frame or terminator it returns; the calls from the start until the end or an error give
the reference parse and take `parsedLength` bytes. -/
structure ChunkedBytes.ReadsLikeParse (data : Bytes) (c : Nat) (interrupting : Bool) : Prop where
  call : ∀ s : ChunkedBytes, s.data = data → s.chunk = some c → s.failAt = none →
    s.consumed ≤ data.length →
    (Frame.read s).1 = (Frame.first (data.drop s.consumed)).map (Option.map Prod.fst) ∧
      (Frame.read s).2.consumed = s.consumed + Frame.firstLength (data.drop s.consumed)
  frames : (ChunkedBytes.ofBytes data (some c) interrupting none).frames.1 = (Frame.parse data).1
  ending : (ChunkedBytes.ofBytes data (some c) interrupting none).frames.2.1 = (Frame.parse data).2
  consumed : (ChunkedBytes.ofBytes data (some c) interrupting none).frames.2.2.consumed =
    Frame.parsedLength data

/-- However a source cuts its bytes into pieces of at least one byte, and whether or not every
other call is interrupted, reading frames from it follows the reference reading exactly. -/
theorem chunked_frames_follow_parse (data : Bytes) {c : Nat} (hc : 0 < c)
    (interrupting : Bool) : ChunkedBytes.ReadsLikeParse data c interrupting := by
  have hs := ChunkedBytes.streams data
  have hr := ChunkedBytes.reliable data
  have hchunk : some c ≠ some 0 := by simp; omega
  have hstart : ChunkedBytes.Serves data (ChunkedBytes.ofBytes data (some c) interrupting none) :=
    ⟨rfl, hchunk, rfl, Nat.zero_le _⟩
  have hview : (ChunkedBytes.ofBytes data (some c) interrupting none).unread = data := rfl
  -- every frame takes a byte, so one more call than there are bytes reaches the end
  have hfuel : (ChunkedBytes.ofBytes data (some c) interrupting none).unread.length <
      data.length + 1 := by
    rw [hview]
    omega
  obtain ⟨hrun, hend, hafter⟩ := Frame.readMany_spec hs hr hstart hfuel
  rw [hview] at hrun hafter
  have hframes : (ChunkedBytes.ofBytes data (some c) interrupting none).frames =
      Frame.readMany (ChunkedBytes.ofBytes data (some c) interrupting none) (data.length + 1) := rfl
  refine ⟨fun s hdata hsc hfail hle => ?_, by rw [hframes]; exact congrArg Prod.fst hrun,
    by rw [hframes]; exact congrArg Prod.snd hrun, ?_⟩
  · have hserves : ChunkedBytes.Serves data s := ⟨hdata, hsc ▸ hchunk, hfail, hle⟩
    obtain ⟨hres, hserves', hview'⟩ := Frame.read_spec hs hr hserves
    have hunread : s.unread = data.drop s.consumed := by rw [ChunkedBytes.unread, hdata]
    rw [hunread] at hres hview'
    refine ⟨hres, ?_⟩
    have hfl := Frame.firstLength_le (data.drop s.consumed)
    rw [ChunkedBytes.consumed_eq_of_serves hserves', hview', List.length_drop, List.length_drop]
    simp only [List.length_drop] at hfl
    omega
  · have hpl := Frame.parsedLength_le data
    rw [hframes, ChunkedBytes.consumed_eq_of_serves hend, hafter, List.length_drop]
    omega

/-- A frame cut into pieces of three bytes and then a terminator, read with every other call
interrupted, is read as the reference reading says. -/
theorem chunked_frames_follow_parse_in_pieces :
    0 < 3 ∧ ChunkedBytes.ReadsLikeParse (Frame.encode [1, 2, 3, 4, 5] ++ [0, 0, 0, 0, 9]) 3 true :=
  ⟨by decide, chunked_frames_follow_parse _ (by decide) true⟩

end ShardDump
