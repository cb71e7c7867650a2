import ShardDump.Frame.Stream

/-!
# Reading frames from a source that streams its bytes

A source streams the bytes `view s` from the states in `good` when its reads hand them
out in order: a read gives a prefix of them no longer than asked for, a non-empty one
when some were asked for and some are left, and leaves the rest; an interruption leaves
them all. The source is reliable there when no read fails. A source that gives its bytes
out in pieces of any size, with any interruptions between them, streams them.

From a streaming source the loops of `ByteSource` take exactly the bytes they want, or all
that are left (`readFull_ok`, `readWindow_ok`), and `Frame.read` reads what `Frame.first`
finds at the front of the bytes (`read_ok`). From a reliable source it takes exactly the
`firstLength` bytes of that first frame, never one past it (`read_spec`); `Frame.first`
reads back exactly the frames that `encode` writes (`first_encode_append`,
`eq_encode_of_first_some`).
-/

namespace ShardDump

namespace ByteSource

variable {σ : Type} [ByteSource σ]

/-- Reads from the states in `good` stay in `good` and hand out the bytes `view s` in
order: a prefix no longer than asked for, non-empty when some bytes were asked for and
some are left, leaving the rest; an interruption leaves them all. -/
structure Streams (good : σ → Prop) (view : σ → Bytes) : Prop where
  data : ∀ {s : σ} {n : Nat} {b : Bytes} {s' : σ}, good s → read s n = (.data b, s') →
    good s' ∧ b.length ≤ n ∧ view s = b ++ view s' ∧ (0 < n → view s ≠ [] → b ≠ [])
  interrupted : ∀ {s : σ} {n : Nat} {s' : σ}, good s → read s n = (.interrupted, s') →
    good s' ∧ view s' = view s

/-- No read from a state in `good` fails. -/
def Reliable (good : σ → Prop) : Prop :=
  ∀ (s : σ) (n : Nat) (e : IoError), good s → (read s n).1 ≠ .failed e

variable {good : σ → Prop} {view : σ → Bytes}

/-! ## Single reads -/

/-- A read made again while it is interrupted hands out bytes like a single read. -/
theorem readOnce_ok (hs : Streams good view) {s : σ} {want : Nat} {b : Bytes} {s' : σ}
    (hg : good s) (h : readOnce s want = (.ok b, s')) :
    good s' ∧ b.length ≤ want ∧ view s = b ++ view s' ∧
      (0 < want → view s ≠ [] → b ≠ []) := by
  revert hg h
  fun_induction readOnce s want with
  | case1 s bytes hread =>
    intro hg h
    simp only [Prod.mk.injEq, Except.ok.injEq] at h
    obtain ⟨rfl, rfl⟩ := h
    exact hs.data hg (by rw [← hread])
  | case2 s e hread =>
    intro _ h
    simp at h
  | case3 s hread ih =>
    intro hg h
    have hread' : read s want = (.interrupted, (read s want).2) := by rw [← hread]
    obtain ⟨hg', hview⟩ := hs.interrupted hg hread'
    rw [← hview]
    exact ih hg' h

/-- A read that asked for bytes and got none finds no bytes left. -/
theorem readOnce_nil (hs : Streams good view) {s : σ} {want : Nat} {s' : σ} (hg : good s)
    (hwant : 0 < want) (h : readOnce s want = (.ok [], s')) :
    good s' ∧ view s = [] ∧ view s' = [] := by
  obtain ⟨hg', -, hsplit, hne⟩ := readOnce_ok hs hg h
  have hempty : view s = [] := by
    cases hv : view s with
    | nil => rfl
    | cons x xs => exact absurd rfl (hne hwant (by rw [hv]; exact List.cons_ne_nil x xs))
  rw [List.nil_append] at hsplit
  exact ⟨hg', hempty, by rw [← hsplit, hempty]⟩

/-- From a reliable source a read made again while interrupted never fails. -/
theorem readOnce_isOk (hs : Streams good view) (hr : Reliable good) {s : σ} (hg : good s)
    (want : Nat) : ∃ b, (readOnce s want).1 = .ok b := by
  revert hg
  fun_induction readOnce s want with
  | case1 s bytes hread => exact fun _ => ⟨bytes, rfl⟩
  | case2 s e hread => exact fun hg => absurd hread (hr s want e hg)
  | case3 s hread ih =>
    intro hg
    have hread' : read s want = (.interrupted, (read s want).2) := by rw [← hread]
    exact ih (hs.interrupted hg hread').1

/-! ## Reading a number of bytes -/

/-- Reading until `need` bytes arrived takes exactly the first `need` bytes left, or all of
them when fewer are left. -/
theorem readFull_ok (hs : Streams good view) {s : σ} {need : Nat} {acc out : Bytes} {s' : σ}
    (hg : good s) (h : readFull s need acc = (.ok out, s')) :
    good s' ∧ out = acc ++ (view s).take need ∧ view s' = (view s).drop need := by
  revert hg h
  fun_induction readFull s need acc with
  | case1 s acc =>
    intro hg h
    simp only [Prod.mk.injEq, Except.ok.injEq] at h
    obtain ⟨rfl, rfl⟩ := h
    simp [hg]
  | case2 s need acc hneed e s₁ hread =>
    intro _ h
    simp at h
  | case3 s need acc hneed bytes s₁ hread got hgot =>
    -- the source handed out nothing although bytes were asked for: none are left
    intro hg h
    simp only [Prod.mk.injEq, Except.ok.injEq] at h
    obtain ⟨rfl, rfl⟩ := h
    have hbytes : bytes = [] := by
      simpa [got, List.take_eq_nil_iff, hneed] using hgot
    subst hbytes
    obtain ⟨hg', hempty, hempty'⟩ := readOnce_nil hs hg (Nat.pos_of_ne_zero hneed) hread
    simp [hg', hempty, hempty']
  | case4 s need acc hneed bytes s₁ hread got hgot ih =>
    intro hg h
    obtain ⟨hlen, hsplit, -⟩ := (readOnce_ok hs hg hread).2
    obtain ⟨hg', hout, hrest⟩ := ih (readOnce_ok hs hg hread).1 h
    have hgot_eq : got = bytes := List.take_of_length_le hlen
    rw [hgot_eq] at hout hrest
    refine ⟨hg', ?_, ?_⟩
    · rw [hout, hsplit, List.take_append, List.take_of_length_le hlen, List.append_assoc]
    · rw [hrest, hsplit, List.drop_append, List.drop_eq_nil_of_le hlen, List.nil_append]

/-- From a reliable source reading a number of bytes never fails. -/
theorem readFull_isOk (hs : Streams good view) (hr : Reliable good) {s : σ} (hg : good s)
    (need : Nat) (acc : Bytes) : ∃ out, (readFull s need acc).1 = .ok out := by
  revert hg
  fun_induction readFull s need acc with
  | case1 s acc => exact fun _ => ⟨acc, rfl⟩
  | case2 s need acc hneed e s₁ hread =>
    intro hg
    obtain ⟨b, hb⟩ := readOnce_isOk hs hr hg need
    rw [hread] at hb
    cases hb
  | case3 s need acc hneed bytes s₁ hread got hgot => exact fun _ => ⟨acc, rfl⟩
  | case4 s need acc hneed bytes s₁ hread got hgot ih =>
    exact fun hg => ih (readOnce_ok hs hg hread).1

/-- The growing-buffer loop takes exactly the `limit` bytes of the window, or all that are
left when fewer are. -/
theorem readWindowLoop_ok (hs : Streams good view) {s : σ} {limit capacity cap : Nat}
    {acc out : Bytes} {s' : σ} (hg : good s) (hcap : 0 < cap)
    (h : readWindowLoop s limit capacity cap acc = (.ok out, s')) :
    good s' ∧ out = acc ++ (view s).take limit ∧ view s' = (view s).drop limit := by
  revert hg h hcap
  fun_induction readWindowLoop s limit capacity cap acc with
  | case1 s capacity cap acc =>
    intro hg _ h
    simp only [Prod.mk.injEq, Except.ok.injEq] at h
    obtain ⟨rfl, rfl⟩ := h
    simp [hg]
  | case2 s limit capacity cap acc capacity' room hlimit want e s₁ hread =>
    intro _ _ h
    simp at h
  | case3 s limit capacity cap acc capacity' room hlimit want bytes s₁ hread got hgot =>
    -- nothing came although bytes were asked for: none are left
    intro hg hcap h
    simp only [Prod.mk.injEq, Except.ok.injEq] at h
    obtain ⟨rfl, rfl⟩ := h
    -- the buffer always has room for a probe, so some bytes were asked for
    have hspare : probeSize ≤ capacity' - acc.length := by
      simp only [capacity', grownCapacity]
      split <;> omega
    have hwant : 0 < want := by
      have : probeSize = 32 := rfl
      simp only [want, room]
      omega
    have hbytes : bytes = [] := by
      simpa [got, List.take_eq_nil_iff, Nat.pos_iff_ne_zero.1 hwant] using hgot
    subst hbytes
    obtain ⟨hg', hempty, hempty'⟩ := readOnce_nil hs hg hwant hread
    simp [hg', hempty, hempty']
  | case4 s limit capacity cap acc capacity' room hlimit want bytes s₁ hread got hgot cap' ih =>
    intro hg hcap h
    have hcap' : 0 < cap' := by
      simp only [cap']
      split <;> omega
    obtain ⟨hlen, hsplit, -⟩ := (readOnce_ok hs hg hread).2
    obtain ⟨hg', hout, hrest⟩ := ih (readOnce_ok hs hg hread).1 hcap' h
    have hwant : want ≤ limit := Nat.min_le_right _ _
    have hle : bytes.length ≤ limit := Nat.le_trans hlen hwant
    have hgot_eq : got = bytes := List.take_of_length_le hlen
    rw [hgot_eq] at hout hrest
    refine ⟨hg', ?_, ?_⟩
    · rw [hout, hsplit, List.take_append, List.take_of_length_le hle, List.append_assoc]
    · rw [hrest, hsplit, List.drop_append, List.drop_eq_nil_of_le hle, List.nil_append]

/-- From a reliable source the growing-buffer loop never fails. -/
theorem readWindowLoop_isOk (hs : Streams good view) (hr : Reliable good) {s : σ}
    (hg : good s) (limit capacity cap : Nat) (acc : Bytes) :
    ∃ out, (readWindowLoop s limit capacity cap acc).1 = .ok out := by
  revert hg
  fun_induction readWindowLoop s limit capacity cap acc with
  | case1 s capacity cap acc => exact fun _ => ⟨acc, rfl⟩
  | case2 s limit capacity cap acc capacity' room hlimit want e s₁ hread =>
    intro hg
    obtain ⟨b, hb⟩ := readOnce_isOk hs hr hg want
    rw [hread] at hb
    cases hb
  | case3 s limit capacity cap acc capacity' room hlimit want bytes s₁ hread got hgot =>
    exact fun _ => ⟨acc, rfl⟩
  | case4 s limit capacity cap acc capacity' room hlimit want bytes s₁ hread got hgot cap' ih =>
    exact fun hg => ih (readOnce_ok hs hg hread).1

/-- Reading a window of `limit` bytes takes exactly those bytes, or all that are left when
fewer are. -/
theorem readWindow_ok (hs : Streams good view) {s : σ} {limit : Nat} {out : Bytes} {s' : σ}
    (hg : good s) (h : readWindow s limit = (.ok out, s')) :
    good s' ∧ out = (view s).take limit ∧ view s' = (view s).drop limit := by
  unfold readWindow at h
  split at h
  · simp only [Prod.mk.injEq, Except.ok.injEq] at h
    obtain ⟨rfl, rfl⟩ := h
    simp [*]
  · rename_i hlimit
    dsimp only at h
    have hprobe : 0 < min probeSize limit := by
      have : probeSize = 32 := rfl
      omega
    match hread : readOnce s (min probeSize limit) with
    | (.error e, s₁) =>
      rw [hread] at h
      simp at h
    | (.ok bytes, s₁) =>
      rw [hread] at h
      obtain ⟨hg₁, hlen, hsplit, -⟩ := readOnce_ok hs hg hread
      have hgot_eq : bytes.take (min probeSize limit) = bytes := List.take_of_length_le hlen
      simp only [hgot_eq] at h
      split at h
      · -- the probe brought nothing: no bytes are left
        rename_i hgot
        simp only [Prod.mk.injEq, Except.ok.injEq] at h
        obtain ⟨rfl, rfl⟩ := h
        have hbytes : bytes = [] := List.eq_nil_of_length_eq_zero hgot
        subst hbytes
        obtain ⟨hg', hempty, hempty'⟩ := readOnce_nil hs hg hprobe hread
        simp [hg', hempty, hempty']
      · have hle : bytes.length ≤ limit := Nat.le_trans hlen (Nat.min_le_right _ _)
        obtain ⟨hg', hout, hrest⟩ := readWindowLoop_ok hs hg₁ (by decide) h
        refine ⟨hg', ?_, ?_⟩
        · rw [hout, hsplit, List.take_append, List.take_of_length_le hle]
        · rw [hrest, hsplit, List.drop_append, List.drop_eq_nil_of_le hle, List.nil_append]

/-- From a reliable source reading a window never fails. -/
theorem readWindow_isOk (hs : Streams good view) (hr : Reliable good) {s : σ} (hg : good s)
    (limit : Nat) : ∃ out, (readWindow s limit).1 = .ok out := by
  unfold readWindow
  split
  · exact ⟨[], rfl⟩
  · obtain ⟨b, hb⟩ := readOnce_isOk hs hr hg (min probeSize limit)
    dsimp only
    match hread : readOnce s (min probeSize limit) with
    | (.error e, s₁) =>
      rw [hread] at hb
      cases hb
    | (.ok bytes, s₁) =>
      simp only
      split
      · exact ⟨[], rfl⟩
      · exact readWindowLoop_isOk hs hr (readOnce_ok hs hg hread).1 _ _ _ _

end ByteSource

namespace Frame

/-- The first frame at the front of a byte string: its payload with the bytes after it,
`none` at the end of the stream, or the error of a stream that ends inside a frame. -/
def first (data : Bytes) : Except IoError (Option (Bytes × Bytes)) :=
  if data.isEmpty then .ok none
  else if data.length < prefixSize then .error (truncatedPrefixError data.length)
  else
    let claimed := leValue (data.take prefixSize)
    let rest := data.drop prefixSize
    if claimed = 0 then .ok none
    else if rest.length < claimed then .error (shortPayloadError claimed rest.length)
    else .ok (some (rest.take claimed, rest.drop claimed))

@[simp] theorem first_nil : first [] = .ok none := rfl

/-- How many bytes reading the first frame of `data` takes: a whole frame, the prefix of a
terminator, or every byte when the bytes end inside a frame. -/
def firstLength (data : Bytes) : Nat :=
  if data.length < prefixSize then data.length
  else if leValue (data.take prefixSize) = 0 then prefixSize
  else min data.length (prefixSize + leValue (data.take prefixSize))

theorem firstLength_le (data : Bytes) : firstLength data ≤ data.length := by
  unfold firstLength
  split
  · exact Nat.le_refl _
  split
  · omega
  · exact Nat.min_le_left _ _


theorem isEmpty_of_prefixSize_le {data : Bytes} (h : prefixSize ≤ data.length) :
    data.isEmpty = false := by
  cases data with
  | nil => simp [prefixSize] at h
  | cons b rest => rfl

/-- A frame at the front of the bytes is read whole and leaves the bytes after it. -/
theorem first_encode_append {p : Bytes} (hp : p ≠ []) (hlt : p.length < lengthLimit)
    (more : Bytes) : first (encode p ++ more) = .ok (some (p, more)) := by
  have hprefix : (encode p ++ more).take prefixSize = leBytes prefixSize p.length := by
    simp [encode]
  have hrest : (encode p ++ more).drop prefixSize = p ++ more := by
    simp [encode]
  have hclaimed : leValue (leBytes prefixSize p.length) = p.length :=
    leValue_leBytes_of_lt hlt
  have hlen : prefixSize ≤ (encode p ++ more).length := by
    simp only [List.length_append, length_encode]
    omega
  have hzero : p.length ≠ 0 := by simpa using hp
  have hfits : ¬ (p ++ more).length < p.length := by simp
  simp only [first, isEmpty_of_prefixSize_le hlen, Bool.false_eq_true, ↓reduceIte,
    Nat.not_lt.2 hlen, hprefix, hrest, hclaimed, hzero, hfits, List.take_left, List.drop_left]

/-- What `first` reads as a frame is one: the bytes start with the frame of a payload that a
frame can carry. -/
theorem eq_encode_of_first_some {data p rest : Bytes} (h : first data = .ok (some (p, rest))) :
    data = encode p ++ rest ∧ p ≠ [] ∧ p.length < lengthLimit := by
  unfold first at h
  split at h
  · cases h
  split at h
  · cases h
  rename_i hne hlen
  dsimp only at h
  split at h
  · cases h
  rename_i hclaimed
  split at h
  · cases h
  rename_i hfits
  simp only [Except.ok.injEq, Option.some.injEq, Prod.mk.injEq] at h
  obtain ⟨rfl, rfl⟩ := h
  have htake : (data.take prefixSize).length = prefixSize := by
    simp only [List.length_take]
    omega
  have hprefix : leBytes prefixSize (leValue (data.take prefixSize)) = data.take prefixSize := by
    have := leBytes_leValue (data.take prefixSize)
    rwa [htake] at this
  have hplen : ((data.drop prefixSize).take (leValue (data.take prefixSize))).length =
      leValue (data.take prefixSize) := by
    simp only [List.length_take]
    omega
  refine ⟨?_, ?_, ?_⟩
  · rw [encode, hplen, hprefix, List.append_assoc, List.take_append_drop, List.take_append_drop]
  · intro hnil
    rw [hnil, List.length_nil] at hplen
    exact hclaimed hplen.symm
  · have hbelow := leValue_lt (data.take prefixSize)
    rw [htake] at hbelow
    rw [hplen]
    exact hbelow

theorem firstLength_of_first_some {data p rest : Bytes} (h : first data = .ok (some (p, rest))) :
    firstLength data = prefixSize + p.length := by
  obtain ⟨rfl, hp, hlt⟩ := eq_encode_of_first_some h
  have hprefix : (encode p ++ rest).take prefixSize = leBytes prefixSize p.length := by
    simp [encode]
  have hclaimed : leValue (leBytes prefixSize p.length) = p.length := leValue_leBytes_of_lt hlt
  have hzero : p.length ≠ 0 := by simpa using hp
  have hlen : (encode p ++ rest).length = prefixSize + p.length + rest.length := by simp
  rw [firstLength, hprefix, hclaimed, if_neg (by omega), if_neg hzero, hlen]
  omega

theorem drop_firstLength_of_first_some {data p rest : Bytes}
    (h : first data = .ok (some (p, rest))) : data.drop (firstLength data) = rest := by
  rw [firstLength_of_first_some h, (eq_encode_of_first_some h).1, List.drop_append]
  simp

variable {σ : Type} [ByteSource σ] {good : σ → Prop} {view : σ → Bytes}

/-- A successful `Frame.read` reads what `first` finds at the front of the bytes, and leaves
the bytes after the frame it read. -/
theorem read_ok (hs : ByteSource.Streams good view) {s : σ} {res : Option Bytes} {s' : σ}
    (hg : good s) (h : read s = (.ok res, s')) :
    good s' ∧ first (view s) = .ok (res.map fun p => (p, view s')) := by
  unfold read at h
  match hfull : ByteSource.readFull s prefixSize [] with
  | (.error e, s₁) =>
    rw [hfull] at h
    simp at h
  | (.ok lengthBytes, s₁) =>
    rw [hfull] at h
    obtain ⟨hg₁, hlb, hrest⟩ := ByteSource.readFull_ok hs hg hfull
    rw [List.nil_append] at hlb
    subst hlb
    dsimp only at h
    split at h
    · -- no byte at all: the bytes are over
      rename_i hzero
      simp only [Prod.mk.injEq, Except.ok.injEq] at h
      obtain ⟨rfl, rfl⟩ := h
      have hempty : view s = [] := by
        simpa [prefixSize] using hzero
      simp [hg₁, hempty]
    split at h
    · simp at h
    rename_i hnz hshort
    have hlen : prefixSize ≤ (view s).length := by
      simp [List.length_take] at hshort
      omega
    split at h
    · -- a terminator frame
      rename_i hclaimed
      simp only [Prod.mk.injEq, Except.ok.injEq] at h
      obtain ⟨rfl, rfl⟩ := h
      refine ⟨hg₁, ?_⟩
      simp only [first, isEmpty_of_prefixSize_le hlen, Bool.false_eq_true, ↓reduceIte,
        Nat.not_lt.2 hlen, hclaimed, Option.map_none]
    · rename_i hclaimed
      match hwin : ByteSource.readWindow s₁ (leValue ((view s).take prefixSize)) with
      | (.error e, s₂) =>
        rw [hwin] at h
        simp at h
      | (.ok payload, s₂) =>
        rw [hwin] at h
        obtain ⟨hg₂, hpayload, hafter⟩ := ByteSource.readWindow_ok hs hg₁ hwin
        dsimp only at h
        split at h
        · simp at h
        rename_i hfits
        simp only [Prod.mk.injEq, Except.ok.injEq] at h
        obtain ⟨rfl, rfl⟩ := h
        rw [hrest] at hpayload hafter
        have hfits' :
            ¬ ((view s).drop prefixSize).length < leValue ((view s).take prefixSize) := by
          rw [hpayload, List.length_take] at hfits
          omega
        refine ⟨hg₂, ?_⟩
        simp only [first, isEmpty_of_prefixSize_le hlen, Bool.false_eq_true, ↓reduceIte,
          Nat.not_lt.2 hlen, hclaimed, hfits', hpayload, hafter, Option.map_some]

/-- From a reliable source `Frame.read` reads what `first` finds at the front of the bytes,
and takes exactly `firstLength` of them. -/
theorem read_spec (hs : ByteSource.Streams good view) (hr : ByteSource.Reliable good)
    {s : σ} (hg : good s) :
    (read s).1 = (first (view s)).map (Option.map Prod.fst) ∧ good (read s).2 ∧
      view (read s).2 = (view s).drop (firstLength (view s)) := by
  unfold read
  obtain ⟨lengthBytes, hfull⟩ := ByteSource.readFull_isOk hs hr hg prefixSize []
  match hf : ByteSource.readFull s prefixSize [] with
  | (.error e, s₁) =>
    rw [hf] at hfull
    cases hfull
  | (.ok lb, s₁) =>
    obtain ⟨hg₁, hlb, hrest⟩ := ByteSource.readFull_ok hs hg hf
    rw [List.nil_append] at hlb
    subst hlb
    dsimp only
    split
    · -- no byte at all: the bytes are over
      rename_i hzero
      have hempty : view s = [] := by simpa [prefixSize] using hzero
      simp [hg₁, hrest, hempty, first, firstLength, Except.map]
    split
    · -- the bytes end inside the length prefix
      rename_i hnz hshort
      have hshort' : (view s).length < prefixSize := by
        simp [List.length_take] at hshort
        omega
      have hne : (view s).isEmpty = false := by
        cases hv : view s with
        | nil => simp [hv] at hnz
        | cons x xs => rfl
      rw [List.take_of_length_le (Nat.le_of_lt hshort')]
      refine ⟨by simp [first, hne, hshort', Except.map], hg₁, ?_⟩
      rw [hrest, firstLength, if_pos hshort', List.drop_length,
        List.drop_eq_nil_of_le (Nat.le_of_lt hshort')]
    rename_i hnz hshort
    have hlen : prefixSize ≤ (view s).length := by
      simp [List.length_take] at hshort
      omega
    split
    · -- a terminator frame
      rename_i hclaimed
      refine ⟨?_, hg₁, ?_⟩
      · simp [first, isEmpty_of_prefixSize_le hlen, Nat.not_lt.2 hlen, hclaimed, Except.map]
      · rw [hrest, firstLength, if_neg (Nat.not_lt.2 hlen), if_pos hclaimed]
    rename_i hclaimed
    obtain ⟨payload, hwin⟩ :=
      ByteSource.readWindow_isOk hs hr hg₁ (leValue ((view s).take prefixSize))
    match hw : ByteSource.readWindow s₁ (leValue ((view s).take prefixSize)) with
    | (.error e', s₂) =>
      rw [hw] at hwin
      cases hwin
    | (.ok payload', s₂) =>
      obtain ⟨hg₂, hpayload, hafter⟩ := ByteSource.readWindow_ok hs hg₁ hw
      rw [hrest] at hpayload hafter
      have hlength : firstLength (view s) =
          min (view s).length (prefixSize + leValue ((view s).take prefixSize)) := by
        rw [firstLength, if_neg (Nat.not_lt.2 hlen), if_neg hclaimed]
      have hdrop : (view s).drop (firstLength (view s)) =
          ((view s).drop prefixSize).drop (leValue ((view s).take prefixSize)) := by
        rw [hlength, List.drop_drop]
        by_cases hfit : prefixSize + leValue ((view s).take prefixSize) ≤ (view s).length
        · rw [Nat.min_eq_right hfit]
        · rw [Nat.min_eq_left (by omega), List.drop_length,
            List.drop_eq_nil_of_le (by omega)]
      dsimp only
      split
      · -- the bytes end inside the payload
        rename_i hshortp
        have hplen : payload'.length = ((view s).drop prefixSize).length := by
          rw [hpayload, List.length_take] at hshortp ⊢
          omega
        have hshortp' :
            ((view s).drop prefixSize).length < leValue ((view s).take prefixSize) := by
          rw [← hplen]
          exact hshortp
        refine ⟨?_, hg₂, by rw [hafter, hdrop]⟩
        simp only [first, isEmpty_of_prefixSize_le hlen, Bool.false_eq_true, ↓reduceIte,
          Nat.not_lt.2 hlen, hclaimed, hshortp', hplen]
        rfl
      · rename_i hfits
        have hfits' :
            ¬ ((view s).drop prefixSize).length < leValue ((view s).take prefixSize) := by
          rw [hpayload, List.length_take] at hfits
          omega
        refine ⟨?_, hg₂, by rw [hafter, hdrop]⟩
        simp only [first, isEmpty_of_prefixSize_le hlen, Bool.false_eq_true, ↓reduceIte,
          Nat.not_lt.2 hlen, hclaimed, hfits', hpayload]
        rfl

/-- From a reliable source `Frame.read` finds the frame that `first` finds. -/
theorem read_of_first_some (hs : ByteSource.Streams good view) (hr : ByteSource.Reliable good)
    {s : σ} {p rest : Bytes} (hg : good s) (h : first (view s) = .ok (some (p, rest))) :
    (read s).1 = .ok (some p) ∧ good (read s).2 ∧ view (read s).2 = rest := by
  obtain ⟨hres, hg', hview⟩ := read_spec hs hr hg
  rw [h] at hres
  exact ⟨hres, hg', by rw [hview, drop_firstLength_of_first_some h]⟩

/-- From a reliable source `Frame.read` ends where `first` finds the end. -/
theorem read_of_first_none (hs : ByteSource.Streams good view) (hr : ByteSource.Reliable good)
    {s : σ} (hg : good s) (h : first (view s) = .ok none) : (read s).1 = .ok none := by
  rw [(read_spec hs hr hg).1, h]
  rfl

end Frame

end ShardDump
