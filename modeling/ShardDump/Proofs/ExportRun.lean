import ShardDump.Proofs.ExportSteps

/-!
# Running a whole export

The shards of an export are filled in turn, shard `i` taking `z i` items of the source,
so shard `i` takes the items from `offset z i` on. The whole loop is read off the records
at the head of the source that pass the checks: when all the items the shards ask for
give records, every shard is complete; otherwise the loop stops at the first item that
does not, in the shard that item falls in, with the shards before it complete and that
shard holding the records before the item. The source is pulled once more than the
records written, for the item that stopped it.
-/

namespace ShardDump

open ExportM

/-! ## Records at the head of a source -/

namespace SourceItem

theorem length_writable_le (items : List SourceItem) :
    (writable items).1.length ≤ items.length := by
  induction items with
  | nil => simp
  | cons item rest ih =>
    cases h : item.toRecord with
    | error e => simp [writable_cons_error h]
    | ok r =>
      simp only [writable_cons_ok h, List.length_cons]
      omega

/-- When every item of `l₁` gives a record, the records go on with those of `l₂`. -/
theorem writable_append_of_length_eq {l₁ : List SourceItem}
    (h : (writable l₁).1.length = l₁.length) (l₂ : List SourceItem) :
    writable (l₁ ++ l₂) = ((writable l₁).1 ++ (writable l₂).1, (writable l₂).2) := by
  induction l₁ with
  | nil => simp
  | cons item rest ih =>
    cases hrec : item.toRecord with
    | error e => simp [writable_cons_error hrec] at h
    | ok r =>
      rw [writable_cons_ok hrec, List.length_cons, List.length_cons] at h
      rw [List.cons_append, writable_cons_ok hrec, writable_cons_ok hrec, ih (by omega)]
      rfl

/-- Once an item of `l₁` stops the records, what follows `l₁` does not matter. -/
theorem writable_append_of_length_ne {l₁ : List SourceItem}
    (h : (writable l₁).1.length ≠ l₁.length) (l₂ : List SourceItem) :
    writable (l₁ ++ l₂) = writable l₁ := by
  induction l₁ with
  | nil => simp at h
  | cons item rest ih =>
    cases hrec : item.toRecord with
    | error e => rw [List.cons_append, writable_cons_error hrec, writable_cons_error hrec]
    | ok r =>
      rw [writable_cons_ok hrec, List.length_cons, List.length_cons] at h
      rw [List.cons_append, writable_cons_ok hrec, writable_cons_ok hrec, ih (by omega)]

/-- Items that all give records are all written, and nothing stops them. -/
theorem writable_of_map_toRecord {l : List SourceItem} {rs : List Record}
    (h : l.map toRecord = rs.map .ok) : writable l = (rs, none) := by
  induction l generalizing rs with
  | nil =>
    cases rs with
    | nil => rfl
    | cons r rs => simp at h
  | cons item rest ih =>
    cases rs with
    | nil => simp at h
    | cons r rs =>
      simp only [List.map_cons, List.cons.injEq] at h
      rw [writable_cons_ok h.1, ih h.2]

/-- The first item that gives no record stops the records with its error. -/
theorem writable_of_first_error {l : List SourceItem} {f : Nat} {rs : List Record}
    {e : DumpError} (h : (l.take f).map toRecord = rs.map .ok) (hf : f < l.length)
    (he : l[f].toRecord = .error e) : writable l = (rs, some e) := by
  induction l generalizing f rs with
  | nil => simp at hf
  | cons item rest ih =>
    cases f with
    | zero =>
      cases rs with
      | nil => exact writable_cons_error (by simpa using he) rest
      | cons r rs => simp at h
    | succ f =>
      cases rs with
      | nil => simp at h
      | cons r rs =>
        simp only [List.take_succ_cons, List.map_cons, List.cons.injEq] at h
        rw [writable_cons_ok h.1, ih h.2 (by simpa using hf) (by simpa using he)]

end SourceItem

/-! ## Shard offsets -/

/-- The number of items the shards before shard `i` take, shard `j` taking `z j`. -/
def offset (z : Nat → Nat) : Nat → Nat
  | 0 => 0
  | i + 1 => offset z i + z i

@[simp] theorem offset_zero (z : Nat → Nat) : offset z 0 = 0 := rfl

@[simp] theorem offset_succ (z : Nat → Nat) (i : Nat) : offset z (i + 1) = offset z i + z i := rfl

theorem offset_mono (z : Nat → Nat) {i j : Nat} (h : i ≤ j) : offset z i ≤ offset z j := by
  induction h with
  | refl => exact Nat.le_refl _
  | step _ ih =>
    rw [offset_succ]
    omega

/-- The offset of shard `j` is the sum of the sizes of the shards before it. -/
theorem foldr_add_map_range (z : Nat → Nat) (j : Nat) :
    ((List.range j).map z).foldr (· + ·) 0 = offset z j := by
  change ((List.range j).map z).sum = offset z j
  induction j with
  | zero => rfl
  | succ j ih =>
    rw [List.range_succ, List.map_append, List.sum_append, ih]
    simp

/-- The records of shard `i` among the records `rs` written in order. -/
def shardSlice (z : Nat → Nat) (rs : List Record) (i : Nat) : List Record :=
  (rs.drop (offset z i)).take (z i)

/-- The number of the first `c` shards that end at or before position `f`: when `f` is
before the end of shard `c - 1`, the shard that the item at `f` falls in. -/
def shardAt (z : Nat → Nat) (c f : Nat) : Nat :=
  (List.range c).countP fun i => offset z (i + 1) ≤ f

theorem shardAt_succ (z : Nat → Nat) (c f : Nat) :
    shardAt z (c + 1) f = shardAt z c f + if offset z (c + 1) ≤ f then 1 else 0 := by
  simp only [shardAt, List.range_succ, List.countP_append, List.countP_singleton,
    decide_eq_true_eq]

/-- Every shard before shard `c` ends at or before the end of the shards before `c`. -/
theorem shardAt_of_offset_le (z : Nat → Nat) {c f : Nat} (h : offset z c ≤ f) :
    shardAt z c f = c := by
  rw [shardAt, List.countP_eq_length.2, List.length_range]
  intro i hi
  have hle : offset z (i + 1) ≤ offset z c := offset_mono z (List.mem_range.1 hi)
  simp only [decide_eq_true_eq]
  omega

/-- Appending records after those of the first `c` shards leaves their slices as they
were, and the next shard holds what was appended when that fits it. -/
theorem map_shardSlice_append (z : Nat → Nat) {c : Nat} {rs more : List Record}
    (hrs : rs.length = offset z c) (hmore : more.length ≤ z c) :
    (List.range (c + 1)).map (shardSlice z (rs ++ more)) =
      (List.range c).map (shardSlice z rs) ++ [more] := by
  rw [List.range_succ, List.map_append, List.map_singleton]
  congr 1
  · refine List.map_congr_left fun i hi => ?_
    have hle : offset z (i + 1) ≤ offset z c := offset_mono z (List.mem_range.1 hi)
    rw [offset_succ] at hle
    rw [shardSlice, shardSlice, List.drop_append_of_le_length (by omega),
      List.take_append_of_le_length (by simp; omega)]
  · rw [shardSlice, List.drop_append_of_le_length (by omega), ← hrs, List.drop_length,
      List.nil_append, List.take_of_length_le hmore]

theorem length_shardSlice (z : Nat → Nat) {rs : List Record} {i : Nat}
    (h : offset z (i + 1) ≤ rs.length) : (shardSlice z rs i).length = z i := by
  rw [offset_succ] at h
  simp only [shardSlice, List.length_take, List.length_drop]
  omega

theorem mem_of_mem_shardSlice {z : Nat → Nat} {rs : List Record} {i : Nat} {r : Record}
    (h : r ∈ shardSlice z rs i) : r ∈ rs :=
  List.mem_of_mem_drop (List.mem_of_mem_take h)

/-- The slices of the first `c` shards, one after another, are the records they take. -/
theorem flatten_map_shardSlice (z : Nat → Nat) (rs : List Record) (c : Nat) :
    ((List.range c).map (shardSlice z rs)).flatten = rs.take (offset z c) := by
  induction c with
  | zero => simp
  | succ c ih =>
    rw [List.range_succ, List.map_append, List.flatten_append, ih, List.map_singleton,
      List.flatten_singleton, shardSlice, offset_succ, List.take_add]

/-- A summary of shards `0` to `c - 1` with the sizes `z` counts the records those shards
take. -/
theorem ExportSummary.totalRecords_range (root : String) (z : Nat → Nat) (c : Nat) :
    (ExportSummary.mk root ((List.range c).map fun i => ⟨i, shardDir root i, z i⟩)).totalRecords =
      offset z c := by
  rw [ExportSummary.totalRecords, List.map_map]
  exact foldr_add_map_range z c

/-! ## The shard loop -/

/-- Running shards `0` to `c` is running shards `0` to `c - 1`, then shard `c` unless they
failed. -/
theorem run_mapM_range_succ {β : Type} (g : Nat → ExportM β) (c : Nat) (s : ExportState) :
    ((List.range (c + 1)).mapM g).run.run s =
      match ((List.range c).mapM g).run.run s with
      | (.ok bs, s') =>
        match (g c).run.run s' with
        | (.ok b, s'') => (.ok (bs ++ [b]), s'')
        | (.error e, s'') => (.error e, s'')
      | (.error e, s') => (.error e, s') := by
  rw [List.range_succ, List.mapM_append, run_bind]
  rcases ((List.range c).mapM g).run.run s with ⟨_ | bs, s'⟩
  · rfl
  · simp only [List.mapM_cons, List.mapM_nil, run_bind]
    rcases (g c).run.run s' with ⟨_ | b, s''⟩ <;> rfl

/-- How the shards `0` to `c - 1` of an export end, read off the records `rs` that the
source gives at its head for the items the shards ask for, and the error `e` of the item
after them: the loop's result, the records of each shard it made, and its pulls. -/
def shardsOutcome (root : String) (z : Nat → Nat) (c : Nat) (rs : List Record)
    (e : Option DumpError) : Except DumpError (List ShardSummary) × List (List Record) × Nat :=
  if rs.length = offset z c then
    (.ok ((List.range c).map fun i => ⟨i, shardDir root i, z i⟩),
      (List.range c).map (shardSlice z rs), rs.length)
  else
    (.error (e.getD (.sourceExhausted (shardAt z c rs.length) (z (shardAt z c rs.length))
        (rs.length - offset z (shardAt z c rs.length)))),
      (List.range (shardAt z c rs.length + 1)).map (shardSlice z rs), rs.length + 1)

/-- The shard loop of an export below the empty directory `top` of its root: shards `0`
to `c - 1` are created and filled in turn, shard `i` taking `z i` items of the source, and
it ends as `shardsOutcome` says of the records at the head of the first `offset z c`
items. -/
theorem run_writeShards {d : Disk} {root : String} {top : List String}
    (hroot : d.EmptyDir root top) (z : Nat → Nat) (S : List SourceItem) {c : Nat}
    (hc : c ≤ Text.wordBound) :
    ((List.range c).mapM fun i => writeShard root i (z i)).run.run ⟨d.withShards top [], S, 0⟩ =
      ((shardsOutcome root z c (SourceItem.writable (S.take (offset z c))).1
          (SourceItem.writable (S.take (offset z c))).2).1,
        ⟨d.withShards top (shardsOutcome root z c (SourceItem.writable (S.take (offset z c))).1
            (SourceItem.writable (S.take (offset z c))).2).2.1,
          S.drop (shardsOutcome root z c (SourceItem.writable (S.take (offset z c))).1
            (SourceItem.writable (S.take (offset z c))).2).2.2,
          (shardsOutcome root z c (SourceItem.writable (S.take (offset z c))).1
            (SourceItem.writable (S.take (offset z c))).2).2.2⟩) := by
  induction c with
  | zero =>
    rw [List.range_zero, List.mapM_nil, run_pure]
    simp [shardsOutcome]
  | succ c ih =>
    rw [run_mapM_range_succ, ih (by omega)]
    have htake : S.take (offset z (c + 1)) =
        S.take (offset z c) ++ (S.drop (offset z c)).take (z c) := by
      rw [offset_succ, List.take_add]
    have hle := SourceItem.length_writable_le (S.take (offset z c))
    have htakeLen : (S.take (offset z c)).length ≤ offset z c := List.length_take_le _ _
    by_cases hA : (SourceItem.writable (S.take (offset z c))).1.length = offset z c
    · -- every item so far gave a record: shard `c` is made and filled
      rw [htake, SourceItem.writable_append_of_length_eq (by omega)]
      simp only [shardsOutcome, hA, if_true]
      rw [run_writeShard hroot (by simp) (by omega)]
      have hWle : (SourceItem.writable ((S.drop (offset z c)).take (z c))).1.length ≤ z c :=
        Nat.le_trans (SourceItem.length_writable_le _) (List.length_take_le _ _)
      generalize SourceItem.writable (S.take (offset z c)) = G at hA ⊢
      generalize SourceItem.writable ((S.drop (offset z c)).take (z c)) = W at hWle ⊢
      by_cases hB : W.1.length = z c
      · -- shard `c` is complete too
        have hlen : (G.1 ++ W.1).length = offset z (c + 1) := by
          rw [List.length_append, hA, hB, offset_succ]
        rw [if_pos hlen]
        simp only [fillOutcome, if_pos hB, Except.map]
        rw [map_shardSlice_append z hA hWle, hlen, List.drop_drop, offset_succ, List.range_succ,
          List.map_append]
        simp
      · -- the item that stops the records falls in shard `c`
        have hlen : (G.1 ++ W.1).length = offset z c + W.1.length := by
          rw [List.length_append, hA]
        have hne : (G.1 ++ W.1).length ≠ offset z (c + 1) := by
          rw [hlen, offset_succ]
          omega
        have hj : shardAt z (c + 1) (G.1 ++ W.1).length = c := by
          rw [shardAt_succ, shardAt_of_offset_le z (by omega),
            if_neg (by rw [hlen, offset_succ]; omega), Nat.add_zero]
        rw [if_neg hne, hj]
        simp only [fillOutcome, if_neg hB, Except.map]
        rw [map_shardSlice_append z hA hWle, hlen, List.drop_drop]
        simp [Nat.add_assoc]
    · -- an earlier shard failed, and the loop stopped there
      have hlt : (SourceItem.writable (S.take (offset z c))).1.length < offset z c := by omega
      have hsame : SourceItem.writable (S.take (offset z (c + 1))) =
          SourceItem.writable (S.take (offset z c)) := by
        rw [htake]
        by_cases hstop : (SourceItem.writable (S.take (offset z c))).1.length =
            (S.take (offset z c)).length
        · -- the source ran out within those items, so nothing comes after them
          have hshort : S.length ≤ offset z c := by
            rw [List.length_take] at hstop
            omega
          rw [List.drop_eq_nil_of_le hshort, List.take_nil, List.append_nil]
        · exact SourceItem.writable_append_of_length_ne hstop _
      have hmono : offset z c ≤ offset z (c + 1) := offset_mono z (Nat.le_succ c)
      have hne : ¬ (SourceItem.writable (S.take (offset z c))).1.length = offset z (c + 1) := by
        omega
      have hj : shardAt z (c + 1) (SourceItem.writable (S.take (offset z c))).1.length =
          shardAt z c (SourceItem.writable (S.take (offset z c))).1.length := by
        rw [shardAt_succ, if_neg (by omega), Nat.add_zero]
      rw [hsame]
      simp only [shardsOutcome, if_neg hA, if_neg hne, hj]

/-! ## Creating the root -/

/-- Creating the root reads and changes only the disk. -/
theorem run_createRoot (root : String) (d : Disk) (src : List SourceItem) (k : Nat) :
    (createRoot root).run.run ⟨d, src, k⟩ =
      (((createRoot root).run.run ⟨d, [], 0⟩).1,
        ⟨((createRoot root).run.run ⟨d, [], 0⟩).2.disk, src, k⟩) := by
  unfold createRoot
  -- the parents are made first; unless that fails, `d'` is the disk they leave
  rcases Path.parent root with _ | up
  case' none =>
    simp only [run_bind, run_get]
    generalize d = d'
  case' some =>
    by_cases hup : up.isEmpty
    case' pos =>
      simp only [hup, run_bind, run_get, Bool.not_true, Bool.false_eq_true, ↓reduceIte]
      generalize d = d'
    case' neg =>
      simp only [hup, run_bind, run_get, Bool.not_false, ↓reduceIte]
      rcases d.makeDirectories up with e | d'
      case' error => rfl
      case' ok => simp only [run_set, run_bind, run_get]
  -- the root itself is made last, on `d'`
  all_goals
    rcases d'.makeDirectory root with e | d₁
    · rcases e <;> rfl
    · rfl

/-- The disk after the root of a dump and its missing parents are made, or the error that
stops it. -/
def rootCreated (d : Disk) (root : String) : Except DumpError Disk :=
  match (createRoot root).run.run ⟨d, [], 0⟩ with
  | (.ok (), s) => .ok s.disk
  | (.error e, _) => .error e

theorem run_createRoot_ok {d d₁ : Disk} {root : String} (h : rootCreated d root = .ok d₁)
    (src : List SourceItem) (k : Nat) :
    (createRoot root).run.run ⟨d, src, k⟩ = (.ok (), ⟨d₁, src, k⟩) := by
  rw [run_createRoot]
  unfold rootCreated at h
  rcases hrun : (createRoot root).run.run ⟨d, [], 0⟩ with ⟨e | ⟨⟩, s⟩
  · rw [hrun] at h
    cases h
  · rw [hrun] at h
    cases h
    rfl

theorem run_createRoot_error {d : Disk} {root : String} {e : DumpError}
    (h : rootCreated d root = .error e) (src : List SourceItem) (k : Nat) :
    ∃ d', (createRoot root).run.run ⟨d, src, k⟩ = (.error e, ⟨d', src, k⟩) := by
  rw [run_createRoot]
  unfold rootCreated at h
  rcases hrun : (createRoot root).run.run ⟨d, [], 0⟩ with ⟨e' | ⟨⟩, s⟩
  · rw [hrun] at h
    cases h
    exact ⟨s.disk, rfl⟩
  · rw [hrun] at h
    cases h

/-- Making a directory where a walk finds nothing, on a closed disk, leaves it empty. -/
theorem Disk.emptyDir_of_makeDirectory {d d₁ : Disk} (hc : d.Closed) {root : String}
    (h : d.makeDirectory root = .ok d₁) : ∃ top, d₁.EmptyDir root top := by
  unfold Disk.makeDirectory at h
  rcases hw : d.walk root with e | r
  · simp [hw, bind, Except.bind] at h
  rcases hn : r.node with _ | n
  · simp only [hw, hn, bind, Except.bind, Except.ok.injEq] at h
    subst h
    have hnone : d.node? r.path = none := by rw [← Disk.walk_node hw, hn]
    refine ⟨r.path, ⟨r.wantsDirectory, ?_⟩, ?_⟩
    · rw [Disk.walk_extends (Disk.extends_addEntry _ _ _) hw, Disk.node?_addEntry, hnone]
      simp
    · intro e he hpre
      simp only [Disk.addEntry, List.mem_append, List.mem_singleton] at he
      rcases he with he | rfl
      · exact absurd hpre (Disk.not_prefix_of_node?_eq_none hc hnone e he)
      · rfl
  · simp [hw, hn, bind, Except.bind] at h

/-- Creating the root ends by making it, on a closed disk. -/
theorem makeDirectory_of_rootCreated {d d₁ : Disk} (hc : d.Closed) {root : String}
    (h : rootCreated d root = .ok d₁) :
    ∃ d' : Disk, d'.Closed ∧ d'.makeDirectory root = .ok d₁ := by
  unfold rootCreated createRoot at h
  -- the parents are made first; in every case `d'` is the closed disk they leave
  rcases hp : Path.parent root with _ | up
  case' none =>
    simp only [hp, run_bind, run_get] at h
    generalize d = d' at h hc
  case' some =>
    by_cases hup : up.isEmpty
    case' pos =>
      simp only [hp, hup, run_bind, run_get, Bool.not_true, Bool.false_eq_true, ↓reduceIte] at h
      generalize d = d' at h hc
    case' neg =>
      simp only [hp, hup, run_bind, run_get, Bool.not_false, ↓reduceIte] at h
      rcases hdirs : d.makeDirectories up with e | d'
      case' error =>
        rw [hdirs] at h
        cases h
      case' ok =>
        rw [hdirs] at h
        simp only [run_set, run_bind, run_get] at h
        replace hc : d'.Closed := hc.makeDirectories hdirs
  -- the root itself is made last, on `d'`
  all_goals
    rcases hmk : d'.makeDirectory root with e | d''
    · rw [hmk] at h
      rcases e <;> cases h
    · rw [hmk] at h
      cases h
      exact ⟨d', hc, hmk⟩

/-- A root created on a closed disk is an empty directory. -/
theorem emptyDir_of_rootCreated {d d₁ : Disk} (hc : d.Closed) {root : String}
    (h : rootCreated d root = .ok d₁) : ∃ top, d₁.EmptyDir root top := by
  obtain ⟨d', hc', hmk⟩ := makeDirectory_of_rootCreated hc h
  exact Disk.emptyDir_of_makeDirectory hc' hmk

/-! ## A whole export -/

theorem Disk.withShards_nil (d : Disk) (top : List String) : d.withShards top [] = d :=
  Disk.eq_of_entries_inodes (by simp [Disk.withShards]) (by simp [Disk.withShards])

theorem ShardPlan.make?_of_pos {t n : Nat} (hn : 0 < n) : ShardPlan.make? t n = some ⟨t, n, hn⟩ :=
  dif_pos hn

/-- The shards of a plan take all its records: shard `c` starts after `c` shares, and the
last shard ends at the total. -/
theorem ShardPlan.offset_sizeOf (p : ShardPlan) {c : Nat} (hc : c ≤ p.count) :
    offset p.sizeOf c = if c < p.count then c * p.perShard else p.total := by
  induction c with
  | zero => simp [p.count_pos]
  | succ c ih =>
    rw [offset_succ, ih (by omega), if_pos (by omega), sizeOf, if_neg (by omega)]
    have hsplit : p.count * p.perShard + p.extra = p.total := Nat.div_add_mod p.total p.count
    by_cases hlast : c = p.count - 1
    · rw [if_pos hlast, if_neg (by omega), ← hsplit, show p.count = c + 1 by omega,
        Nat.succ_mul]
      omega
    · rw [if_neg hlast, if_pos (by omega), Nat.succ_mul]

theorem ShardPlan.offset_sizeOf_count (p : ShardPlan) : offset p.sizeOf p.count = p.total := by
  rw [p.offset_sizeOf (Nat.le_refl _), if_neg (Nat.lt_irrefl _)]

/-- An export by the plan `p` into a root that does not exist, once the root is created:
the shard loop runs on the new root as `run_writeShards` says, over the items the plan
asks for. -/
theorem runExport_of_rootCreated (p : ShardPlan) {d d₁ : Disk} {root : String}
    {top : List String} (hpresent : d.present root = false) (hnw : p.count ≤ Text.wordBound)
    (h : rootCreated d root = .ok d₁) (hroot : d₁.EmptyDir root top) (S : List SourceItem) :
    runExport d root p.count p.total S =
      ⟨(shardsOutcome root p.sizeOf p.count (SourceItem.writable (S.take p.total)).1
          (SourceItem.writable (S.take p.total)).2).1.map fun shards => ⟨root, shards⟩,
        d₁.withShards top (shardsOutcome root p.sizeOf p.count
          (SourceItem.writable (S.take p.total)).1 (SourceItem.writable (S.take p.total)).2).2.1,
        (shardsOutcome root p.sizeOf p.count (SourceItem.writable (S.take p.total)).1
          (SourceItem.writable (S.take p.total)).2).2.2⟩ := by
  obtain ⟨t, n, hn⟩ := p
  dsimp only at hnw ⊢
  have hloop := run_writeShards hroot (ShardPlan.sizeOf ⟨t, n, hn⟩) S hnw
  rw [Disk.withShards_nil, ShardPlan.offset_sizeOf_count] at hloop
  unfold runExport exportDump
  simp only [run_bind, run_get, hpresent, ShardPlan.make?_of_pos hn, Bool.false_eq_true,
    ↓reduceIte, run_createRoot_ok h, hloop]
  -- the summary is made of the loop's shards
  rcases (shardsOutcome root (ShardPlan.sizeOf ⟨t, n, hn⟩) n (SourceItem.writable (S.take t)).1
    (SourceItem.writable (S.take t)).2).1 with e | shards <;> rfl

/-- An export into a root that does not exist but cannot be created fails with the error
that stopped the creation, before pulling anything from the source. -/
theorem runExport_of_rootCreated_error {d : Disk} {root : String} {n t : Nat} {e : DumpError}
    (hpresent : d.present root = false) (hn : 0 < n) (h : rootCreated d root = .error e)
    (S : List SourceItem) :
    (runExport d root n t S).result = .error e ∧ (runExport d root n t S).pulls = 0 := by
  obtain ⟨d', hrun⟩ := run_createRoot_error h S 0
  unfold runExport exportDump
  simp only [run_bind, run_get, hpresent, ShardPlan.make?_of_pos hn, Bool.false_eq_true,
    ↓reduceIte, hrun, and_self]

/-- Records that all pass the checks are all written, and nothing stops them. -/
theorem SourceItem.writable_map_ok {rs : List Record} (hvalid : ∀ r ∈ rs, r.validate = .ok ()) :
    SourceItem.writable (rs.map .ok) = (rs, none) := by
  apply SourceItem.writable_of_map_toRecord
  rw [List.map_map]
  exact List.map_congr_left fun r hr => SourceItem.toRecord_ok_iff.2 ⟨rfl, hvalid r hr⟩

/-- The shard the item at position `f` of a source falls in: shard `f / perShard` below the
last shard, which takes the rest, and takes every item when the other shards are empty. -/
def ShardPlan.shardOf (p : ShardPlan) (f : Nat) : Nat :=
  if p.perShard = 0 then p.count - 1 else min (f / p.perShard) (p.count - 1)

theorem ShardPlan.shardOf_lt_count (p : ShardPlan) (f : Nat) : p.shardOf f < p.count := by
  have := p.count_pos
  unfold shardOf
  split <;> omega

/-- Shard `p.shardOf f` starts at or before position `f`, so the shards below it end there. -/
theorem ShardPlan.offset_shardOf_le (p : ShardPlan) (f : Nat) :
    offset p.sizeOf (p.shardOf f) ≤ f := by
  have hlt := p.shardOf_lt_count f
  rw [p.offset_sizeOf (Nat.le_of_lt hlt), if_pos hlt, shardOf]
  split
  · simp [*]
  · calc min (f / p.perShard) (p.count - 1) * p.perShard
        ≤ f / p.perShard * p.perShard := Nat.mul_le_mul_right _ (Nat.min_le_left _ _)
      _ ≤ f := Nat.div_mul_le_self f p.perShard

/-- The shard loop puts the item at position `f`, before the plan's total, in shard
`p.shardOf f`. -/
theorem ShardPlan.shardAt_sizeOf (p : ShardPlan) {f : Nat} (hf : f < p.total) :
    shardAt p.sizeOf p.count f = p.shardOf f := by
  -- below the last shard, shard `i` ends at `(i + 1) * perShard`
  have hbelow : ∀ c, c ≤ p.count - 1 → shardAt p.sizeOf c f =
      if p.perShard = 0 then c else min (f / p.perShard) c := by
    intro c hc
    induction c with
    | zero => simp [shardAt]
    | succ c ih =>
      rw [shardAt_succ, ih (by omega), p.offset_sizeOf (by omega),
        if_pos (show c + 1 < p.count by omega)]
      by_cases hq : p.perShard = 0
      · simp [hq]
      · have hdiv : (c + 1) * p.perShard ≤ f ↔ c + 1 ≤ f / p.perShard :=
          (Nat.le_div_iff_mul_le (by omega)).symm
        by_cases hle : (c + 1) * p.perShard ≤ f
        · simp only [hq, hle, if_true, if_false]
          omega
        · simp only [hq, hle, if_false]
          omega
  -- the last shard ends at the total, after `f`
  obtain ⟨m, hm⟩ : ∃ m, p.count = m + 1 := ⟨p.count - 1, by have := p.count_pos; omega⟩
  have hend : ¬ offset p.sizeOf (m + 1) ≤ f := by
    rw [← hm, p.offset_sizeOf_count]
    omega
  rw [hm, shardAt_succ, hbelow m (by omega), if_neg hend, Nat.add_zero, shardOf, hm,
    Nat.add_sub_cancel]

/-- When the records reach the plan's total, the loop fills every shard. -/
theorem ShardPlan.shardsOutcome_of_eq (p : ShardPlan) (root : String) {rs : List Record}
    (h : rs.length = p.total) (e : Option DumpError) :
    shardsOutcome root p.sizeOf p.count rs e =
      (.ok ((List.range p.count).map fun i => ⟨i, shardDir root i, p.sizeOf i⟩),
        (List.range p.count).map (shardSlice p.sizeOf rs), rs.length) := by
  rw [shardsOutcome, if_pos (h.trans p.offset_sizeOf_count.symm)]

/-- When the records stop before the plan's total, the loop stops in shard `shardOf` of
their count, that shard holding what reached it. -/
theorem ShardPlan.shardsOutcome_of_lt (p : ShardPlan) (root : String) {rs : List Record}
    (h : rs.length < p.total) (e : Option DumpError) :
    shardsOutcome root p.sizeOf p.count rs e =
      (.error (e.getD (.sourceExhausted (p.shardOf rs.length) (p.sizeOf (p.shardOf rs.length))
          (rs.length - p.shardOf rs.length * p.perShard))),
        (List.range (p.shardOf rs.length + 1)).map (shardSlice p.sizeOf rs), rs.length + 1) := by
  have hne : rs.length ≠ offset p.sizeOf p.count := by
    rw [p.offset_sizeOf_count]
    omega
  have hlt := p.shardOf_lt_count rs.length
  rw [shardsOutcome, if_neg hne, p.shardAt_sizeOf h, p.offset_sizeOf (Nat.le_of_lt hlt), if_pos hlt]

end ShardDump
