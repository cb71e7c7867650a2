import ShardDump.Proofs.FrameRuns

/-!
# Reading from a source that starts failing

A failed read call is passed on by every loop that reads frames, as it is. To say where a run of
a source that fails from some point on departs from the run of the same source without failures,
the failure-free source is watched (`ByteSource.Watched`): its answers are unchanged, and the
state of its first call made where a `stop` test holds is noted.

A source `σ` follows a source `τ` through `φ` until `τ` dies (`ByteSource.Follows`) when it
answers every call as `τ` does, except that the call after which `τ` is dead fails with one error
`E`. Each loop that reads bytes, and `Frame.read`, then gives from `φ t` what the run of `τ` from
`t` gives while `τ` lives, and otherwise `E`, in the image of the state where `τ` died
(`ByteSource.readFull_follows`, `ByteSource.readWindow_follows`, `Frame.read_follows`). Over a
run of frames, the frames read before the one in progress are those of `τ`'s run, and the run
ends with `E` (`Frame.readMany_follows`). Watching a source follows it with no death
(`ByteSource.Watched.follows_source`); a source that fails where `stop` holds and answers as the
free source elsewhere follows the watched free source (`ByteSource.Guards.follows`).

An in-memory source with a failure offset `k` fails once `k` bytes were consumed and answers as
the same source without one before (`ChunkedBytes.guards`). Reading frames from it is reading
them without failures up to the first call made past `k`, and then the injected error itself
(`failing_reads_cut_free_run`).
-/

namespace ShardDump

namespace ByteSource

/-- A source of type `β` watched for the first read call made from a state where `stop`
holds: `stopped` is the state that call was made from, once there was one. -/
structure Watched (β : Type) (stop : β → Bool) where
  /-- The watched source. -/
  source : β
  /-- The state of the first call made where `stop` holds, if one was made. -/
  stopped : Option β

namespace Watched

variable {β : Type} [ByteSource β] {stop : β → Bool}

/-- Watching starts before any call. -/
def start (b : β) : Watched β stop := ⟨b, none⟩

/-- The watched source answers a call as its source does, and notes the state the call was
made from when it is the first where `stop` holds. -/
def readCall (w : Watched β stop) (n : Nat) : ReadOutcome × Watched β stop :=
  ((read w.source n).1,
    ⟨(read w.source n).2, w.stopped.or (if stop w.source then some w.source else none)⟩)

instance : ByteSource (Watched β stop) where
  read := readCall
  interruptBudget w := interruptBudget w.source
  budget_lt w n h := budget_lt w.source n h

theorem read_eq (w : Watched β stop) (n : Nat) : read w n = w.readCall n := rfl

end Watched

/-! ## One call made again while interrupted -/

section Calls

variable {σ : Type} [ByteSource σ] {s s' : σ} {n : Nat}

theorem readOnce_data {b : Bytes} (h : read s n = (.data b, s')) : readOnce s n = (.ok b, s') := by
  rw [readOnce]
  split
  · rename_i bytes hread
    rw [h] at hread ⊢
    cases hread
    rfl
  · rename_i e hread
    rw [h] at hread
    cases hread
  · rename_i hread
    rw [h] at hread
    cases hread

theorem readOnce_failed {e : IoError} (h : read s n = (.failed e, s')) :
    readOnce s n = (.error e, s') := by
  rw [readOnce]
  split
  · rename_i bytes hread
    rw [h] at hread
    cases hread
  · rename_i e' hread
    rw [h] at hread ⊢
    cases hread
    rfl
  · rename_i hread
    rw [h] at hread
    cases hread

theorem readOnce_interrupted (h : read s n = (.interrupted, s')) : readOnce s n = readOnce s' n := by
  rw [readOnce]
  split
  · rename_i bytes hread
    rw [h] at hread
    cases hread
  · rename_i e hread
    rw [h] at hread
    cases hread
  · rw [h]

end Calls

/-! ## What every call keeps, every loop keeps -/

section Keeps

variable {σ : Type} [ByteSource σ] {P : σ → Prop}

theorem readOnce_keeps (hP : ∀ s n, P s → P (read s n).2) {s : σ} {want : Nat}
    {r : Except IoError Bytes} {s' : σ} (hs : P s) (h : readOnce s want = (r, s')) : P s' := by
  revert hs h
  fun_induction readOnce s want with
  | case1 s bytes hread =>
    intro hs h
    cases h
    exact hP s want hs
  | case2 s e hread =>
    intro hs h
    cases h
    exact hP s want hs
  | case3 s hread ih => exact fun hs => ih (hP s want hs)

theorem readFull_keeps (hP : ∀ s n, P s → P (read s n).2) {s : σ} {need : Nat} {acc : Bytes}
    {r : Except IoError Bytes} {s' : σ} (hs : P s) (h : readFull s need acc = (r, s')) : P s' := by
  revert hs h
  fun_induction readFull s need acc with
  | case1 s acc =>
    intro hs h
    cases h
    exact hs
  | case2 s need acc hneed e s₁ hread =>
    intro hs h
    cases h
    exact readOnce_keeps hP hs hread
  | case3 s need acc hneed bytes s₁ hread got hgot =>
    intro hs h
    cases h
    exact readOnce_keeps hP hs hread
  | case4 s need acc hneed bytes s₁ hread got hgot ih =>
    exact fun hs => ih (readOnce_keeps hP hs hread)

theorem readWindowLoop_keeps (hP : ∀ s n, P s → P (read s n).2) {s : σ}
    {limit capacity cap : Nat} {acc : Bytes} {r : Except IoError Bytes} {s' : σ} (hs : P s)
    (h : readWindowLoop s limit capacity cap acc = (r, s')) : P s' := by
  revert hs h
  fun_induction readWindowLoop s limit capacity cap acc with
  | case1 s capacity cap acc =>
    intro hs h
    cases h
    exact hs
  | case2 s limit capacity cap acc capacity' room hlimit want e s₁ hread =>
    intro hs h
    cases h
    exact readOnce_keeps hP hs hread
  | case3 s limit capacity cap acc capacity' room hlimit want bytes s₁ hread got hgot =>
    intro hs h
    cases h
    exact readOnce_keeps hP hs hread
  | case4 s limit capacity cap acc capacity' room hlimit want bytes s₁ hread got hgot cap' ih =>
    exact fun hs => ih (readOnce_keeps hP hs hread)

theorem readWindow_keeps (hP : ∀ s n, P s → P (read s n).2) {s : σ} {limit : Nat}
    {r : Except IoError Bytes} {s' : σ} (hs : P s) (h : readWindow s limit = (r, s')) : P s' := by
  unfold readWindow at h
  split at h
  · cases h
    exact hs
  · dsimp only at h
    match hread : readOnce s (min probeSize limit) with
    | (.error e, s₁) =>
      rw [hread] at h
      cases h
      exact readOnce_keeps hP hs hread
    | (.ok bytes, s₁) =>
      rw [hread] at h
      dsimp only at h
      split at h
      · cases h
        exact readOnce_keeps hP hs hread
      · exact readWindowLoop_keeps hP (readOnce_keeps hP hs hread) h

end Keeps

/-! ## A source that follows another until it dies -/

section Follows

variable {σ τ : Type}

/-- What a source following `τ` through `φ` gives where a run of `τ` ended with `r` in the
state `t`: `r` while `τ` lives, else `E`; in the image of `t`. -/
def cut (φ : τ → σ) (dead : τ → Bool) (E : IoError) {γ : Type} (r : Except IoError γ) (t : τ) :
    Except IoError γ × σ :=
  (if dead t then .error E else r, φ t)

variable {φ : τ → σ} {dead : τ → Bool} {E : IoError} {γ : Type} {r : Except IoError γ} {t : τ}

@[simp] theorem cut_live (h : dead t = false) : cut φ dead E r t = (r, φ t) := by
  simp [cut, h]

@[simp] theorem cut_dead (h : dead t = true) : cut φ dead E r t = (.error E, φ t) := by
  simp [cut, h]

variable [ByteSource σ] [ByteSource τ]

/-- The source `σ` follows the source `τ` through `φ` from the states in `ok`, until `τ` is
dead: a call from a live state is answered as `τ` answers it, except that the call after which
`τ` is dead fails with `E`; and a call from a dead state leaves it dead, with the same image. -/
structure Follows (ok : τ → Prop) (φ : τ → σ) (dead : τ → Bool) (E : IoError) : Prop where
  ok_read : ∀ t n, ok t → ok (read t n).2
  read_live : ∀ t n, ok t → dead t = false → dead (read t n).2 = false →
    read (φ t) n = ((read t n).1, φ (read t n).2)
  read_dying : ∀ t n, ok t → dead t = false → dead (read t n).2 = true →
    read (φ t) n = (.failed E, φ (read t n).2)
  dead_read : ∀ t n, dead t = true → dead (read t n).2 = true ∧ φ (read t n).2 = φ t

variable {ok : τ → Prop}

/-- Once dead, `τ` stays dead, with the same image. -/
theorem Follows.stays (hf : Follows ok φ dead E) (x : σ) (t : τ) (n : Nat)
    (h : dead t = true ∧ φ t = x) : dead (read t n).2 = true ∧ φ (read t n).2 = x :=
  ⟨(hf.dead_read t n h.1).1, (hf.dead_read t n h.1).2.trans h.2⟩

theorem Follows.dead_readOnce (hf : Follows ok φ dead E) (hd : dead t = true) (want : Nat) :
    dead (readOnce t want).2 = true ∧ φ (readOnce t want).2 = φ t :=
  readOnce_keeps (hf.stays _) ⟨hd, rfl⟩ rfl

theorem Follows.dead_readFull (hf : Follows ok φ dead E) (hd : dead t = true) (need : Nat)
    (acc : Bytes) : dead (readFull t need acc).2 = true ∧ φ (readFull t need acc).2 = φ t :=
  readFull_keeps (hf.stays _) ⟨hd, rfl⟩ rfl

theorem Follows.dead_readWindowLoop (hf : Follows ok φ dead E) (hd : dead t = true)
    (limit capacity cap : Nat) (acc : Bytes) :
    dead (readWindowLoop t limit capacity cap acc).2 = true ∧
      φ (readWindowLoop t limit capacity cap acc).2 = φ t :=
  readWindowLoop_keeps (hf.stays _) ⟨hd, rfl⟩ rfl

theorem Follows.dead_readWindow (hf : Follows ok φ dead E) (hd : dead t = true) (limit : Nat) :
    dead (readWindow t limit).2 = true ∧ φ (readWindow t limit).2 = φ t :=
  readWindow_keeps (hf.stays _) ⟨hd, rfl⟩ rfl

theorem readOnce_follows (hf : Follows ok φ dead E) (hok : ok t) (hlive : dead t = false)
    (want : Nat) : readOnce (φ t) want = cut φ dead E (readOnce t want).1 (readOnce t want).2 := by
  revert hok hlive
  fun_induction readOnce t want with
  | case1 t bytes hread =>
    intro hok hlive
    cases hd : dead (read t want).2
    · rw [readOnce_data (by rw [hf.read_live t want hok hlive hd, hread]), cut_live hd]
    · rw [readOnce_failed (hf.read_dying t want hok hlive hd), cut_dead hd]
  | case2 t e hread =>
    intro hok hlive
    cases hd : dead (read t want).2
    · rw [readOnce_failed (by rw [hf.read_live t want hok hlive hd, hread]), cut_live hd]
    · rw [readOnce_failed (hf.read_dying t want hok hlive hd), cut_dead hd]
  | case3 t hread ih =>
    intro hok hlive
    cases hd : dead (read t want).2
    · rw [readOnce_interrupted (by rw [hf.read_live t want hok hlive hd, hread])]
      exact ih (hf.ok_read t want hok) hd
    · -- the free source goes on past the failed call, dead from then on
      obtain ⟨hdead, himage⟩ := hf.dead_readOnce hd want
      rw [readOnce_failed (hf.read_dying t want hok hlive hd), cut_dead hdead, himage]

theorem readFull_follows (hf : Follows ok φ dead E) (hok : ok t) (hlive : dead t = false)
    (need : Nat) (acc : Bytes) :
    readFull (φ t) need acc = cut φ dead E (readFull t need acc).1 (readFull t need acc).2 := by
  revert hok hlive
  fun_induction readFull t need acc with
  | case1 t acc =>
    intro _ hlive
    rw [readFull, if_pos rfl, cut_live hlive]
  | case2 t need acc hneed e t₁ hread =>
    intro hok hlive
    have hfirst := readOnce_follows hf hok hlive need
    rw [hread] at hfirst
    rw [readFull, if_neg hneed, hfirst]
    cases hd : dead t₁ <;> simp [hd]
  | case3 t need acc hneed bytes t₁ hread got hgot =>
    intro hok hlive
    have hfirst := readOnce_follows hf hok hlive need
    rw [hread] at hfirst
    rw [readFull, if_neg hneed, hfirst]
    have hgot' : (bytes.take need).length = 0 := hgot
    cases hd : dead t₁ <;> simp [hd, hgot']
  | case4 t need acc hneed bytes t₁ hread got hgot ih =>
    intro hok hlive
    have hfirst := readOnce_follows hf hok hlive need
    rw [hread] at hfirst
    rw [readFull, if_neg hneed, hfirst]
    have hgot' : ¬(bytes.take need).length = 0 := hgot
    cases hd : dead t₁
    · simp only [cut_live hd, hgot', dite_false]
      exact ih (readOnce_keeps hf.ok_read hok hread) hd
    · obtain ⟨hdead, himage⟩ := hf.dead_readFull hd (need - got.length) (acc ++ got)
      simp only [cut_dead hd, cut_dead hdead, himage]

theorem readWindowLoop_follows (hf : Follows ok φ dead E) (hok : ok t) (hlive : dead t = false)
    (limit capacity cap : Nat) (acc : Bytes) :
    readWindowLoop (φ t) limit capacity cap acc =
      cut φ dead E (readWindowLoop t limit capacity cap acc).1
        (readWindowLoop t limit capacity cap acc).2 := by
  revert hok hlive
  fun_induction readWindowLoop t limit capacity cap acc with
  | case1 t capacity cap acc =>
    intro _ hlive
    rw [readWindowLoop]
    simp [hlive]
  | case2 t limit capacity cap acc capacity' room hlimit want e t₁ hread =>
    intro hok hlive
    have hfirst := readOnce_follows hf hok hlive want
    rw [hread] at hfirst
    simp only [want, room, capacity', dite_eq_ite] at hfirst
    rw [readWindowLoop]
    simp only [hlimit, if_false]
    rw [hfirst]
    cases hd : dead t₁ <;> simp [hd]
  | case3 t limit capacity cap acc capacity' room hlimit want bytes t₁ hread got hgot =>
    intro hok hlive
    have hfirst := readOnce_follows hf hok hlive want
    rw [hread] at hfirst
    simp only [want, room, capacity', dite_eq_ite] at hfirst
    simp only [got, want, room, capacity', dite_eq_ite] at hgot
    rw [readWindowLoop]
    simp only [hlimit, if_false]
    rw [hfirst]
    cases hd : dead t₁
    · simp only [cut_live hd, hgot, dite_true]
    · simp only [cut_dead hd]
  | case4 t limit capacity cap acc capacity' room hlimit want bytes t₁ hread got hgot cap' ih =>
    intro hok hlive
    have hfirst := readOnce_follows hf hok hlive want
    rw [hread] at hfirst
    simp only [want, room, capacity', dite_eq_ite] at hfirst
    have hgot' := hgot
    simp only [got, want, room, capacity', dite_eq_ite] at hgot'
    rw [readWindowLoop]
    simp only [hlimit, if_false]
    rw [hfirst]
    cases hd : dead t₁
    · simp only [cut_live hd, hgot', dite_false]
      exact ih (readOnce_keeps hf.ok_read hok hread) hd
    · obtain ⟨hdead, himage⟩ :=
        hf.dead_readWindowLoop hd (limit - got.length) capacity' cap' (acc ++ got)
      simp only [cut_dead hd, cut_dead hdead, himage]

theorem readWindow_follows (hf : Follows ok φ dead E) (hok : ok t) (hlive : dead t = false)
    (limit : Nat) :
    readWindow (φ t) limit = cut φ dead E (readWindow t limit).1 (readWindow t limit).2 := by
  unfold readWindow
  by_cases hlimit : limit = 0
  · simp only [hlimit, if_true, cut_live hlive]
  simp only [hlimit, if_false]
  have hfirst := readOnce_follows hf hok hlive (min probeSize limit)
  rcases hread : readOnce t (min probeSize limit) with ⟨r₁, t₁⟩
  rw [hread] at hfirst
  rw [hfirst]
  -- the probe is answered alike, or it is the call that fails
  cases r₁ with
  | error e => cases hd : dead t₁ <;> simp [hd]
  | ok bytes =>
    by_cases hgot : (bytes.take (min probeSize limit)).length = 0
    · cases hd : dead t₁ <;> simp [hgot, hd]
    cases hd : dead t₁
    · simp only [cut_live hd, hgot, if_false]
      exact readWindowLoop_follows hf (readOnce_keeps hf.ok_read hok hread) hd _ _ _ _
    · simp only [cut_dead hd, hgot, if_false]
      rw [cut_dead (hf.dead_readWindowLoop hd _ _ _ _).1, (hf.dead_readWindowLoop hd _ _ _ _).2]

end Follows

/-! ## Watched and guarded sources -/

section Guards

variable {α β : Type} [ByteSource α] [ByteSource β] {stop : β → Bool}

namespace Watched

/-- The state standing for the watched source: its source's state until a call stopped, then
the state that call was made from. -/
def mirror (lift : β → α) (w : Watched β stop) : α := lift (w.stopped.getD w.source)

/-- Whether a call was made where `stop` holds. -/
def isStopped (w : Watched β stop) : Bool := w.stopped.isSome

theorem stopped_read_of_none {w : Watched β stop} (h : w.stopped = none) (n : Nat) :
    (read w n).2.stopped = if stop w.source then some w.source else none := by
  simp [read_eq, readCall, h]

theorem stopped_read_of_some {w : Watched β stop} {t : β} (h : w.stopped = some t) (n : Nat) :
    (read w n).2.stopped = some t := by
  simp [read_eq, readCall, h]

/-- Watching a source follows it, and never dies. -/
theorem follows_source (E : IoError) :
    Follows (fun _ => True) (Watched.source : Watched β stop → β) (fun _ => false) E where
  ok_read _ _ _ := trivial
  read_live _ _ _ _ _ := rfl
  read_dying _ _ _ _ h := Bool.noConfusion h
  dead_read _ _ h := Bool.noConfusion h

/-- Where the first call from a stopping state was made, the state that call was made from
stopped it. -/
theorem stop_of_stopped (w : Watched β stop) (n : Nat)
    (h : ∀ t, w.stopped = some t → stop t = true) :
    ∀ t, (read w n).2.stopped = some t → stop t = true := by
  intro t ht
  cases hw : w.stopped with
  | some t₀ =>
    rw [stopped_read_of_some hw] at ht
    exact h t (hw.trans ht)
  | none =>
    rw [stopped_read_of_none hw] at ht
    split at ht
    · cases ht
      assumption
    · cases ht

end Watched

/-- The source `α` guards the free source `β`: from the state `lift b` standing for a state `b`
in `good`, a call fails with `E` when `stop b` holds and is otherwise answered as `β` answers
it from `b`; calls keep the free source in `good`. -/
structure Guards (good : β → Prop) (lift : β → α) (stop : β → Bool) (E : IoError) : Prop where
  good_read : ∀ b n, good b → good (read b n).2
  read_stop : ∀ b n, good b → stop b = true → read (lift b) n = (.failed E, lift b)
  read_go : ∀ b n, good b → stop b = false → read (lift b) n = ((read b n).1, lift (read b n).2)

/-- A guarded source follows the watched free source until a call of it stops. -/
theorem Guards.follows {good : β → Prop} {lift : β → α} {E : IoError}
    (hg : Guards good lift stop E) :
    Follows (fun w : Watched β stop => good w.source) (Watched.mirror lift) Watched.isStopped E where
  ok_read w n hw := hg.good_read w.source n hw
  read_live w n hw hlive hlive' := by
    have hnone : w.stopped = none := by simpa [Watched.isStopped] using hlive
    have hstop : stop w.source = false := by
      simpa [Watched.isStopped, Watched.stopped_read_of_none hnone] using hlive'
    have hnone' : (read w n).2.stopped = none := by simp [Watched.stopped_read_of_none hnone, hstop]
    simp only [Watched.mirror, hnone, hnone', Option.getD_none]
    exact hg.read_go w.source n hw hstop
  read_dying w n hw hlive hdying := by
    have hnone : w.stopped = none := by simpa [Watched.isStopped] using hlive
    have hstop : stop w.source = true := by
      cases hs : stop w.source with
      | true => rfl
      | false => simp [Watched.isStopped, Watched.stopped_read_of_none hnone, hs] at hdying
    have hsome : (read w n).2.stopped = some w.source := by
      simp [Watched.stopped_read_of_none hnone, hstop]
    simp only [Watched.mirror, hnone, hsome, Option.getD_none, Option.getD_some]
    exact hg.read_stop w.source n hw hstop
  dead_read w n hdead := by
    obtain ⟨t, ht⟩ := Option.isSome_iff_exists.1 hdead
    have ht' := Watched.stopped_read_of_some ht n
    exact ⟨by simp [Watched.isStopped, ht'], by simp [Watched.mirror, ht, ht']⟩

end Guards

end ByteSource

namespace Frame

section Keeps

variable {σ : Type} [ByteSource σ] {P : σ → Prop}

theorem read_keeps (hP : ∀ s n, P s → P (ByteSource.read s n).2) {s : σ}
    {r : Except IoError (Option Bytes)} {s' : σ} (hs : P s) (h : read s = (r, s')) : P s' := by
  unfold read at h
  match hfull : ByteSource.readFull s prefixSize [] with
  | (.error e, s₁) =>
    rw [hfull] at h
    cases h
    exact ByteSource.readFull_keeps hP hs hfull
  | (.ok lengthBytes, s₁) =>
    have hs₁ := ByteSource.readFull_keeps hP hs hfull
    rw [hfull] at h
    dsimp only at h
    split at h
    · cases h
      exact hs₁
    split at h
    · cases h
      exact hs₁
    split at h
    · cases h
      exact hs₁
    match hwindow : ByteSource.readWindow s₁ (leValue lengthBytes) with
    | (.error e, s₂) =>
      rw [hwindow] at h
      cases h
      exact ByteSource.readWindow_keeps hP hs₁ hwindow
    | (.ok payload, s₂) =>
      rw [hwindow] at h
      dsimp only at h
      split at h <;>
      · cases h
        exact ByteSource.readWindow_keeps hP hs₁ hwindow

theorem readMany_keeps (hP : ∀ s n, P s → P (ByteSource.read s n).2) {s : σ} (hs : P s)
    (fuel : Nat) : P (readMany s fuel).2.2 := by
  induction fuel generalizing s with
  | zero => exact hs
  | succ fuel ih =>
    rcases hread : read s with ⟨r, s₁⟩
    have hs₁ := read_keeps hP hs hread
    rcases r with e | _ | p
    · simp only [readMany, hread]
      exact hs₁
    · simp only [readMany, hread]
      exact hs₁
    · simp only [readMany, hread]
      exact ih hs₁

/-- A run with more fuel goes on from where the run with less fuel stopped, so what calls keep
passes from the end of the shorter run to the end of the longer one. -/
theorem readMany_keeps_of_le (hP : ∀ s n, P s → P (ByteSource.read s n).2) {s : σ} {a b : Nat}
    (hab : a ≤ b) (hs : P (readMany s a).2.2) : P (readMany s b).2.2 := by
  induction a generalizing s b with
  | zero => exact readMany_keeps hP hs b
  | succ a ih =>
    obtain ⟨b, rfl⟩ : ∃ b', b = b' + 1 := ⟨b - 1, by omega⟩
    rcases hread : read s with ⟨r, s₁⟩
    rcases r with e | _ | p
    · simp only [readMany, hread] at hs ⊢
      exact hs
    · simp only [readMany, hread] at hs ⊢
      exact hs
    · simp only [readMany, hread] at hs ⊢
      exact ih (by omega) hs

end Keeps

section Follows

variable {σ τ : Type} [ByteSource σ] [ByteSource τ] {ok : τ → Prop} {φ : τ → σ}
  {dead : τ → Bool} {E : IoError} {t : τ}

open ByteSource (Follows cut cut_live cut_dead)

theorem read_follows (hf : Follows ok φ dead E) (hok : ok t) (hlive : dead t = false) :
    read (φ t) = cut φ dead E (read t).1 (read t).2 := by
  unfold read
  have hfull := ByteSource.readFull_follows hf hok hlive prefixSize []
  rcases hr : ByteSource.readFull t prefixSize [] with ⟨r₁, t₁⟩
  rw [hr] at hfull
  rw [hfull]
  -- each way the length prefix can end, with its calls answered alike or one of them failed
  cases r₁ with
  | error e => cases hd : dead t₁ <;> simp [hd]
  | ok lengthBytes =>
    by_cases h0 : lengthBytes.length = 0
    · cases hd : dead t₁ <;> simp [h0, hd]
    by_cases hshort : lengthBytes.length < prefixSize
    · cases hd : dead t₁ <;> simp [h0, hshort, hd]
    by_cases hclaimed : leValue lengthBytes = 0
    · cases hd : dead t₁ <;> simp [h0, hshort, hclaimed, hd]
    cases hd : dead t₁
    · -- the payload is read alike, or one of its calls fails
      simp only [cut_live hd, h0, hshort, hclaimed, if_false]
      have hwindow := ByteSource.readWindow_follows hf (ByteSource.readFull_keeps hf.ok_read hok hr)
        hd (leValue lengthBytes)
      rcases hw : ByteSource.readWindow t₁ (leValue lengthBytes) with ⟨r₂, t₂⟩
      rw [hw] at hwindow
      rw [hwindow]
      cases r₂ with
      | error e => cases hd₂ : dead t₂ <;> simp [hd₂]
      | ok payload =>
        by_cases hpayload : payload.length < leValue lengthBytes <;>
          cases hd₂ : dead t₂ <;> simp [hpayload, hd₂]
    · -- the free source reads the payload on, dead
      simp only [cut_dead hd, h0, hshort, hclaimed, if_false]
      obtain ⟨hdead, himage⟩ := hf.dead_readWindow hd (leValue lengthBytes)
      rcases hw : ByteSource.readWindow t₁ (leValue lengthBytes) with ⟨r₂, t₂⟩
      rw [hw] at hdead himage
      cases r₂ with
      | error e => simp [hdead, himage]
      | ok payload =>
        by_cases hpayload : payload.length < leValue lengthBytes <;> simp [hpayload, hdead, himage]

/-- Over a run of frames: while `τ` lives the following source reads the same frames; once it
dies, during the read of frame `j + 1`, the following source has read the first `j` frames of
`τ`'s run and ends with `E`. -/
theorem readMany_follows (hf : Follows ok φ dead E) (t : τ) (hok : ok t) (hlive : dead t = false)
    (fuel : Nat) :
    (dead (readMany t fuel).2.2 = false →
      readMany (φ t) fuel = ((readMany t fuel).1, (readMany t fuel).2.1, φ (readMany t fuel).2.2)) ∧
    (dead (readMany t fuel).2.2 = true →
      ∃ j < fuel, dead (readMany t j).2.2 = false ∧ dead (readMany t (j + 1)).2.2 = true ∧
        readMany (φ t) fuel = ((readMany t fuel).1.take j, some E, φ (readMany t fuel).2.2)) := by
  induction fuel generalizing t with
  | zero =>
    refine ⟨fun _ => rfl, fun h => ?_⟩
    simp only [readMany, hlive] at h
    cases h
  | succ fuel ih =>
    have hread := read_follows hf hok hlive
    rcases hr : read t with ⟨r, t₁⟩
    rw [hr] at hread
    cases hd : dead t₁
    · -- the frame was read alike
      rw [cut_live hd] at hread
      cases r with
      | error e => simp [readMany, hr, hread, hd]
      | ok o =>
        cases o with
        | none => simp [readMany, hr, hread, hd]
        | some p =>
          obtain ⟨hsame, hcut⟩ := ih t₁ (read_keeps hf.ok_read hok hr) hd
          simp only [readMany, hr, hread]
          refine ⟨fun h => by rw [hsame h], fun h => ?_⟩
          obtain ⟨j, hj, hjlive, hjdead, hrun⟩ := hcut h
          refine ⟨j + 1, by omega, ?_, ?_, ?_⟩
          · simpa [readMany, hr] using hjlive
          · simpa [readMany, hr] using hjdead
          · rw [hrun]
            simp
    · -- the failing call came during this frame; the free run goes on, dead from then on
      rw [cut_dead hd] at hread
      have hfirst : dead (readMany t 1).2.2 = true := by
        cases r with
        | error e => simp [readMany, hr, hd]
        | ok o => cases o <;> simp [readMany, hr, hd]
      have hkeep : dead (readMany t (fuel + 1)).2.2 = true ∧
          φ (readMany t (fuel + 1)).2.2 = φ t₁ := by
        cases r with
        | error e => simp [readMany, hr, hd]
        | ok o =>
          cases o with
          | none => simp [readMany, hr, hd]
          | some p =>
            simp only [readMany, hr]
            exact readMany_keeps (hf.stays _) ⟨hd, rfl⟩ fuel
      refine ⟨fun h => absurd h (by rw [hkeep.1]; decide), fun _ => ⟨0, by omega, ?_, hfirst, ?_⟩⟩
      · simpa [readMany] using hlive
      · rw [hkeep.2]
        simp only [readMany, hread, List.take_zero]

end Follows

section Watching

variable {β : Type} [ByteSource β] {stop : β → Bool}

open ByteSource (Watched)

/-- The call a watched run notes was made where `stop` holds. -/
theorem stop_of_readMany_stopped (w : Watched β stop) (hw : ∀ t, w.stopped = some t → stop t = true)
    (fuel : Nat) {t : β} (h : (readMany w fuel).2.2.stopped = some t) : stop t = true :=
  @readMany_keeps _ _ (fun v : Watched β stop => ∀ t, v.stopped = some t → stop t = true)
    Watched.stop_of_stopped w hw fuel t h

/-- A longer run notes the call that a shorter one noted. -/
theorem stopped_readMany_of_le (w : Watched β stop) {a b : Nat} (hab : a ≤ b) {t : β}
    (h : (readMany w a).2.2.stopped = some t) : (readMany w b).2.2.stopped = some t :=
  @readMany_keeps_of_le _ _ (fun v : Watched β stop => v.stopped = some t)
    (fun _ n hv => Watched.stopped_read_of_some hv n) w a b hab h

end Watching

end Frame

namespace ChunkedBytes

/-- The same source, failing every call made once `k` bytes were consumed. -/
def failingAt (k : Nat) (s : ChunkedBytes) : ChunkedBytes := { s with failAt := some k }

/-- Whether `k` bytes were consumed, so that the source failing at `k` fails a call made now. -/
def pastOffset (k : Nat) (s : ChunkedBytes) : Bool := decide (k ≤ s.consumed)

theorem failsNow_failingAt (k : Nat) (s : ChunkedBytes) :
    (failingAt k s).failsNow = pastOffset k s := rfl

/-- A source failing at `k` guards the same source without failures: it fails the calls made
once `k` bytes were consumed and answers the others alike. -/
theorem guards (k : Nat) :
    ByteSource.Guards (fun s : ChunkedBytes => s.failAt = none) (failingAt k) (pastOffset k)
      injectedError where
  good_read s n hs := by
    rw [read_eq, readCall, if_neg (by simp [failsNow, hs])]
    split <;> exact hs
  read_stop s n _ hstop := by
    rw [read_eq, readCall, if_pos (by rw [failsNow_failingAt]; exact hstop)]
  read_go s n hs hstop := by
    have hfailing : (failingAt k s).failsNow = false := by rw [failsNow_failingAt, hstop]
    have hfree : s.failsNow = false := by simp [failsNow, hs]
    simp only [read_eq, readCall, hfailing, hfree, Bool.false_eq_true, if_false]
    cases hi : s.interruptNext
    · simp [failingAt, hi]
    · simp [failingAt, hi]

/-- The run of frames from the source over `data` without failures, watched for its first call
made once `k` bytes were consumed, for at most `fuel` frames. -/
def watchedFrames (data : Bytes) (chunk : Option Nat) (interrupting : Bool) (k fuel : Nat) :
    List Bytes × Frame.Ending × ByteSource.Watched ChunkedBytes (pastOffset k) :=
  Frame.readMany (ByteSource.Watched.start (ofBytes data chunk interrupting none)) fuel

/-- How reading every frame from the source over `data` that fails every call made once `k`
bytes were consumed compares with reading them from the same source without failures. -/
structure CutAtOffset (data : Bytes) (chunk : Option Nat) (interrupting : Bool) (k : Nat) :
    Prop where
  /-- Watching the run without failures changes nothing of it. -/
  watched : ((watchedFrames data chunk interrupting k (data.length + 1)).1,
      (watchedFrames data chunk interrupting k (data.length + 1)).2.1,
      (watchedFrames data chunk interrupting k (data.length + 1)).2.2.source) =
    (ofBytes data chunk interrupting none).frames
  /-- When the run without failures makes no call once `k` bytes were consumed, both runs read
  the same frames, end alike and consume the same bytes. -/
  same : (watchedFrames data chunk interrupting k (data.length + 1)).2.2.stopped = none →
    (ofBytes data chunk interrupting (some k)).frames =
      ((ofBytes data chunk interrupting none).frames.1,
        (ofBytes data chunk interrupting none).frames.2.1,
        failingAt k (ofBytes data chunk interrupting none).frames.2.2)
  /-- When it makes one, from the state `t`, during the read of frame `j + 1`, the failing run
  gives the first `j` frames of the run without failures and then the injected error itself,
  left in the state of that call. -/
  cut : ∀ t, (watchedFrames data chunk interrupting k (data.length + 1)).2.2.stopped = some t →
    k ≤ t.consumed ∧ ∃ j < data.length + 1,
      (watchedFrames data chunk interrupting k j).2.2.stopped = none ∧
      (watchedFrames data chunk interrupting k (j + 1)).2.2.stopped = some t ∧
      (ofBytes data chunk interrupting (some k)).frames =
        ((ofBytes data chunk interrupting none).frames.1.take j,
          some (.custom .other "injected read failure"), failingAt k t)

end ChunkedBytes

open ByteSource in
/-- A read call that fails is passed on as it is. Reading frames from a source that fails every
call made once `k` bytes were consumed, whatever the size of its pieces and whether or not every
other call is interrupted, is reading them without failures up to the first call made past `k`:
if there is none, both runs are the same; if there is one, the frames read before the frame in
progress are returned as the run without failures returns them, the frame in progress is not,
and the run ends with the injected error, neither an early end of the stream nor a clean one. -/
theorem failing_reads_cut_free_run (data : Bytes) (chunk : Option Nat) (interrupting : Bool)
    (k : Nat) : ChunkedBytes.CutAtOffset data chunk interrupting k := by
  obtain ⟨w, hw⟩ : ∃ w : Watched ChunkedBytes (ChunkedBytes.pastOffset k),
      w = Watched.start (ChunkedBytes.ofBytes data chunk interrupting none) := ⟨_, rfl⟩
  have hrun : ∀ j, ChunkedBytes.watchedFrames data chunk interrupting k j = Frame.readMany w j := by
    intro j
    rw [hw]
    rfl
  -- watching changes nothing of the free run
  have hfree : (ChunkedBytes.ofBytes data chunk interrupting none).frames =
      ((Frame.readMany w (data.length + 1)).1, (Frame.readMany w (data.length + 1)).2.1,
        (Frame.readMany w (data.length + 1)).2.2.source) := by
    rw [← (Frame.readMany_follows (Watched.follows_source ChunkedBytes.injectedError) w trivial rfl
      (data.length + 1)).1 rfl, hw]
    rfl
  -- the failing source follows the watched free run until a call of it stops
  obtain ⟨hsame, hcut⟩ := Frame.readMany_follows (ChunkedBytes.guards k).follows w
    (by rw [hw]; rfl) (by rw [hw]; rfl) (data.length + 1)
  have hfailing : (ChunkedBytes.ofBytes data chunk interrupting (some k)).frames =
      Frame.readMany (Watched.mirror (ChunkedBytes.failingAt k) w) (data.length + 1) := by
    rw [hw]
    rfl
  refine ⟨by rw [hrun, hfree], fun hnone => ?_, fun t hsome => ?_⟩
  · rw [hrun] at hnone
    rw [hfailing, hsame (by simp [Watched.isStopped, hnone]), hfree]
    simp [Watched.mirror, hnone]
  · rw [hrun] at hsome
    -- the call that stopped was made past `k`
    have hpast : ChunkedBytes.pastOffset k t = true :=
      Frame.stop_of_readMany_stopped w (fun t h => by rw [hw] at h; cases h) _ hsome
    obtain ⟨j, hj, hjlive, hjdead, hcutrun⟩ := hcut (by simp [Watched.isStopped, hsome])
    obtain ⟨t', ht'⟩ := Option.isSome_iff_exists.1 hjdead
    -- the call noted in frame `j + 1` is the one the whole run notes
    have hkeep := Frame.stopped_readMany_of_le w (show j + 1 ≤ data.length + 1 by omega) ht'
    rw [hsome] at hkeep
    obtain rfl : t = t' := Option.some.inj hkeep
    refine ⟨by simpa [ChunkedBytes.pastOffset] using hpast, j, hj, ?_, by rw [hrun]; exact ht', ?_⟩
    · rw [hrun]
      simpa [Watched.isStopped] using hjlive
    · rw [hfailing, hcutrun, hfree]
      simp [Watched.mirror, hsome, ChunkedBytes.injectedError]

/- Two one-byte frames read in whole calls, failing from the sixth byte on: the second length
prefix is read by a call made at byte five, and the call for its payload fails. -/
example : (ChunkedBytes.ofBytes (Frame.encode [1] ++ Frame.encode [2]) none false (some 6)).frames.1 =
      [[1]] ∧
    (ChunkedBytes.ofBytes (Frame.encode [1] ++ Frame.encode [2]) none false (some 6)).frames.2.1 =
      some ChunkedBytes.injectedError := by
  decide +kernel

end ShardDump
