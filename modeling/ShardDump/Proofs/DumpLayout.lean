import Mathlib.Data.List.Basic
import ShardDump.Proofs.DiskTree
import ShardDump.Proofs.WrittenFiles
import ShardDump.Proofs.LockStep

/-!
# The disk an export leaves

An export lays shard `i` out below its root as the directory `i` holding the files `ids`,
`vectors` and `metas`, whose inodes follow those of the disk it started from, three to a
shard. `Disk.withShards` is that disk for the records of each shard. Read back, it lists
the shards `0` to `m - 1`, and the readers of each shard give back its records.
-/

namespace ShardDump

/-! ## Shard names -/

theorem digitChar_toNat_sub {k : Nat} (hk : k < 10) :
    (Nat.digitChar k).toNat - '0'.toNat = k := by
  have hdigits : ∀ k < 10, (Nat.digitChar k).toNat - '0'.toNat = k := by decide
  exact hdigits k hk

namespace Text

theorem digitsValue_digitChar {acc k : Nat} (hk : k < 10) (hv : 10 * acc + k < wordBound)
    (cs : List Char) :
    digitsValue acc (Nat.digitChar k :: cs) = digitsValue (10 * acc + k) cs := by
  have hdigit : (Nat.digitChar k).isDigit = true := by simpa using hk
  have hfits : ¬ wordBound ≤ 10 * acc + k := by omega
  simp only [digitsValue, hdigit, digitChar_toNat_sub hk, hfits, ↓reduceIte]

/-- Reading the decimal digits of `n` gives `n` when it fits a word: the values read on the
way are the numbers the leading digits spell, none above `n`. -/
theorem digitsValue_toDigits_append {n : Nat} (hn : n < wordBound) (cs : List Char) :
    digitsValue 0 (Nat.toDigits 10 n ++ cs) = digitsValue n cs := by
  induction n using Nat.strongRecOn generalizing cs with
  | ind n ih =>
    rw [Nat.toDigits_eq_if (by decide)]
    split
    · rename_i hlt
      rw [List.singleton_append, digitsValue_digitChar hlt (by omega)]
      simp
    · rename_i hge
      -- the leading digits spell `n / 10`, and the last one adds `n % 10`
      have hmod : n % 10 < 10 := Nat.mod_lt n (by decide)
      have hsplit : 10 * (n / 10) + n % 10 = n := Nat.div_add_mod n 10
      rw [List.append_assoc, List.singleton_append, ih (n / 10) (by omega) (by omega),
        digitsValue_digitChar hmod (by omega), hsplit]

theorem not_sign_of_mem_toDigits {n : Nat} {c : Char} (h : c ∈ Nat.toDigits 10 n) : c ≠ '+' := by
  have hdigit := Nat.isDigit_of_mem_toDigits (by decide) (by decide) h
  rintro rfl
  simp at hdigit

/-- A shard number reads back from its name. -/
theorem parseUnsigned_toString {n : Nat} (hn : n < wordBound) :
    parseUnsigned (toString n) = .ok n := by
  have hdigits := digitsValue_toDigits_append hn []
  rw [List.append_nil] at hdigits
  have hsign : ∀ rest, Nat.toDigits 10 n ≠ '+' :: rest := fun rest heq =>
    not_sign_of_mem_toDigits (heq ▸ List.mem_cons_self) rfl
  unfold parseUnsigned
  rw [Nat.toString_eq_repr, Nat.toList_repr]
  split
  · rename_i hnil
    exact absurd hnil (Nat.toDigits_ne_nil)
  · rename_i hplus
    exact absurd hplus (hsign [])
  · rename_i rest _ hplus
    exact absurd hplus (hsign rest)
  · exact hdigits

end Text

/-- A shard's name is one plain component: it is made of digits. -/
theorem isPlainName_toString (n : Nat) : Path.isPlainName (toString n) = true := by
  have hdigit : ∀ c ∈ (toString n).toList, c.isDigit = true := fun c hc =>
    Nat.isDigit_of_mem_toDigits (by decide) (by decide)
      (show c ∈ Nat.toDigits 10 n by simpa [Nat.toList_repr] using hc)
  refine Path.isPlainName_iff.2 ⟨?_, ?_, ?_⟩
  · intro hempty
    have hnil : Nat.toDigits 10 n = [] := by
      rw [← Nat.toList_repr, ← Nat.toString_eq_repr, hempty]
      rfl
    exact Nat.toDigits_ne_nil hnil
  · intro hdot
    have hmem : '.' ∈ (toString n).toList := by simp [hdot]
    exact absurd (hdigit '.' hmem) (by decide)
  · intro hsep
    exact absurd (hdigit Path.separator hsep) (by decide)

/-- Shard numbers that fit a word have distinct names. -/
theorem toString_inj_of_lt {i j : Nat} (hi : i < Text.wordBound) (hj : j < Text.wordBound)
    (h : toString i = toString j) : i = j := by
  have hparse := Text.parseUnsigned_toString hi
  rw [h, Text.parseUnsigned_toString hj] at hparse
  exact (Except.ok.inj hparse).symm

/-! ## Records that can be written -/

namespace Record

/-- What `validate` accepts: an id without a newline, and two payloads that are not empty and
fit a frame. -/
theorem validate_eq_ok_iff (r : Record) :
    r.validate = .ok () ↔ '\n' ∉ r.id.toList ∧ r.vector ≠ [] ∧ r.metadata ≠ [] ∧
      (encodeVector r.vector).length < Frame.lengthLimit ∧
      r.metadata.length < Frame.lengthLimit := by
  -- a length of a word or more is counted as a word, which no frame holds either
  have hword : Frame.lengthLimit ≤ wordMax := by decide
  have hvector : Frame.lengthLimit ≤ min (Binary64.size * r.vector.length) wordMax ↔
      ¬ (encodeVector r.vector).length < Frame.lengthLimit := by
    rw [length_encodeVector, Binary64.size]
    omega
  unfold validate checkFrameLength
  simp only [List.contains_eq_mem, decide_eq_true_eq, List.isEmpty_iff, bind, Except.bind]
  split_ifs with hid hv hmeta hlong hmlong
  · simp [hid]
  · simp [hv]
  · simp [hmeta]
  · simp only [false_iff, not_and]
    exact fun _ _ _ hshort => absurd hshort (hvector.1 hlong)
  · simp only [false_iff, not_and]
    intro _ _ _ _
    omega
  · refine iff_of_true rfl ⟨hid, hv, hmeta, ?_, Nat.lt_of_not_le hmlong⟩
    by_contra hshort
    exact hlong (hvector.2 hshort)

end Record

/-! ## The shards of a dump on disk -/

/-- The bytes of an ids file: the line of each id. -/
def idsBytes (recs : List Record) : Bytes := (recs.map fun r => idLine r.id).flatten

/-- The bytes of a vectors file: the frame of each vector's payload. -/
def vectorsBytes (recs : List Record) : Bytes :=
  (recs.map fun r => Frame.encode r.vectorBytes).flatten

/-- The bytes of a metas file: the frame of each record's metadata. -/
def metasBytes (recs : List Record) : Bytes := (recs.map fun r => Frame.encode r.metadata).flatten

/-- The bytes of a shard's files, in the order their inodes are made: ids, vectors, metas. -/
def shardContents (recs : List Record) : List Bytes :=
  [idsBytes recs, vectorsBytes recs, metasBytes recs]

/-- The entries of shard `i` below the directory `top`: its directory, then its files, whose
inodes are three in a row from `base + 3 * i`. -/
def shardEntries (top : List String) (base i : Nat) : List (List String × Node) :=
  [(top ++ [toString i], .directory),
   (top ++ [toString i, idsFileName], .file (base + 3 * i)),
   (top ++ [toString i, vectorsFileName], .file (base + 3 * i + 1)),
   (top ++ [toString i, metasFileName], .file (base + 3 * i + 2))]

namespace Disk

/-- `d` with the shards `0` to `shards.length - 1` added below the directory `top`, shard
`i` holding the records `shards[i]`. -/
def withShards (d : Disk) (top : List String) (shards : List (List Record)) : Disk where
  entries := d.entries ++ (List.range shards.length).flatMap (shardEntries top d.inodes.length)
  inodes := d.inodes ++ shards.flatMap shardContents

/-- The path `root` walks to the directory `top`, and nothing of `d` lies below it. -/
structure EmptyDir (d : Disk) (root : String) (top : List String) : Prop where
  walk : ∃ w, d.walk root = .ok ⟨top, some .directory, w⟩
  fresh : ∀ e ∈ d.entries, top <+: e.1 → e.1 = top

theorem lookup_eq_some_of_unique {α β : Type} [BEq α] [LawfulBEq α] {l : List (α × β)} {a : α}
    {b : β} (hmem : (a, b) ∈ l) (huniq : ∀ b', (a, b') ∈ l → b' = b) : l.lookup a = some b := by
  cases h : l.lookup a with
  | none =>
    have hne := List.lookup_eq_none_iff.1 h _ hmem
    simp at hne
  | some b' =>
    obtain ⟨l₁, l₂, heq, -⟩ := List.lookup_eq_some_iff.1 h
    rw [huniq b' (by rw [heq]; simp)]

/-- The paths of one shard are distinct, so each finds its own entry. -/
theorem lookup_shardEntries_of_mem {top : List String} {base i : Nat} {q : List String}
    {n : Node} (h : (q, n) ∈ shardEntries top base i) :
    (shardEntries top base i).lookup q = some n := by
  refine lookup_eq_some_of_unique h fun n' hn' => ?_
  simp only [shardEntries, idsFileName, vectorsFileName, metasFileName, List.mem_cons,
    Prod.mk.injEq, List.not_mem_nil, or_false] at h hn'
  rcases h with ⟨rfl, rfl⟩ | ⟨rfl, rfl⟩ | ⟨rfl, rfl⟩ | ⟨rfl, rfl⟩ <;> simpa using hn'

/-- The entries of one shard name nothing below another shard's name. -/
theorem lookup_shardEntries_of_ne {top : List String} {base i j : Nat}
    (hi : i < Text.wordBound) (hj : j < Text.wordBound) (hne : i ≠ j) (rest : List String) :
    (shardEntries top base j).lookup (top ++ toString i :: rest) = none := by
  have hname : Nat.repr i ≠ Nat.repr j := fun h => hne (toString_inj_of_lt hi hj h)
  simp [shardEntries, hname]

/-- Below the name of shard `i`, only shard `i`'s own entries name anything. -/
theorem lookup_shardEntries_range {top : List String} {base m i : Nat}
    (hm : m ≤ Text.wordBound) (hi : i < Text.wordBound) (rest : List String) :
    ((List.range m).flatMap (shardEntries top base)).lookup (top ++ toString i :: rest) =
      if i < m then (shardEntries top base i).lookup (top ++ toString i :: rest) else none := by
  induction m with
  | zero => simp
  | succ m ih =>
    rw [List.range_succ, List.flatMap_append, List.lookup_append, ih (by omega),
      List.flatMap_singleton]
    -- the last shard added is shard `i` itself, or names nothing there
    rcases Nat.lt_trichotomy i m with hlt | heq | hgt
    · have hlast : (shardEntries top base m).lookup (top ++ toString i :: rest) = none :=
        lookup_shardEntries_of_ne hi (by omega) (by omega) rest
      rw [hlast]
      simp [hlt, Nat.lt_succ_of_lt hlt]
    · subst heq
      simp
    · have hlast : (shardEntries top base m).lookup (top ++ toString i :: rest) = none :=
        lookup_shardEntries_of_ne hi (by omega) (by omega) rest
      rw [hlast]
      simp [show ¬ i < m by omega, show ¬ i < m + 1 by omega]

theorem extends_withShards (d : Disk) (top : List String) (shards : List (List Record)) :
    d.Extends (d.withShards top shards) := by
  intro q n h
  cases q with
  | nil => exact h
  | cons a q =>
    simp only [node?, withShards, List.isEmpty_cons, Bool.false_eq_true, ↓reduceIte] at h ⊢
    rw [List.lookup_append, h]
    rfl

theorem getD_flatMap_shardContents {shards : List (List Record)} {i : Nat}
    (hi : i < shards.length) {k : Nat} (hk : k < 3) :
    (shards.flatMap shardContents).getD (3 * i + k) [] = (shardContents shards[i]).getD k [] := by
  induction shards generalizing i with
  | nil => simp at hi
  | cons recs shards ih =>
    have hlen : (shardContents recs).length = 3 := rfl
    rw [List.flatMap_cons, List.getD_eq_getElem?_getD]
    cases i with
    | zero =>
      rw [List.getElem?_append_left (by omega), ← List.getD_eq_getElem?_getD]
      simp
    | succ i =>
      rw [List.getElem?_append_right (by omega), hlen,
        show 3 * (i + 1) + k - 3 = 3 * i + k by omega, ← List.getD_eq_getElem?_getD,
        ih (by simpa using hi)]
      simp

/-- The files of shard `i` hold the bytes of its records. -/
theorem content_withShards (d : Disk) (top : List String) {shards : List (List Record)}
    {i : Nat} (hi : i < shards.length) {k : Nat} (hk : k < 3) :
    (d.withShards top shards).content (d.inodes.length + 3 * i + k) =
      (shardContents shards[i]).getD k [] := by
  simp only [content, withShards]
  rw [List.getD_eq_getElem?_getD, List.getElem?_append_right (by omega),
    show d.inodes.length + 3 * i + k - d.inodes.length = 3 * i + k by omega,
    ← List.getD_eq_getElem?_getD, getD_flatMap_shardContents hi hk]

/-- A walk that ends at an entry ends there on every disk that keeps the entries. -/
theorem walk_extends_of_some {d d' : Disk} (hext : d.Extends d') {path : String}
    {q : List String} {n : Node} {w : Bool} (h : d.walk path = .ok ⟨q, some n, w⟩) :
    d'.walk path = .ok ⟨q, some n, w⟩ := by
  have hn : d.node? q = some n := by
    simpa using (walk_node h).symm
  rw [walk_extends hext h]
  simp only [hext q n hn]

theorem present_of_walk {d : Disk} {path : String} {q : List String} {n : Node}
    (h : d.walk path = .ok ⟨q, some n, false⟩) : d.present path = true := by
  cases n <;> simp [present, stat, h, bind, Except.bind]

section Layout

variable {d : Disk} {root : String} {top : List String} {shards : List (List Record)}

/-- Below the name of shard `i`, the disk holds shard `i`'s entries, if it has that shard. -/
theorem node?_withShards (hroot : d.EmptyDir root top) (hm : shards.length ≤ Text.wordBound)
    {i : Nat} (hi : i < Text.wordBound) (rest : List String) :
    (d.withShards top shards).node? (top ++ toString i :: rest) =
      if i < shards.length then
        (shardEntries top d.inodes.length i).lookup (top ++ toString i :: rest)
      else none := by
  -- the disk below the root held nothing, so only the shards' entries are found there
  have hnone : d.entries.lookup (top ++ toString i :: rest) = none := by
    refine List.lookup_eq_none_iff.2 fun e he => ?_
    have hne : e.1 ≠ top ++ toString i :: rest := by
      intro heq
      have htop := hroot.fresh e he (heq ▸ List.prefix_append top _)
      rw [heq] at htop
      simp at htop
    exact bne_iff_ne.2 (Ne.symm hne)
  have hpath : (top ++ toString i :: rest).isEmpty = false := by simp
  simp only [node?, withShards, hpath, Bool.false_eq_true, ↓reduceIte]
  rw [List.lookup_append, hnone, lookup_shardEntries_range hm hi, Option.none_or]

theorem walk_root_withShards (hroot : d.EmptyDir root top) :
    ∃ w, (d.withShards top shards).walk root = .ok ⟨top, some .directory, w⟩ := by
  obtain ⟨w, hw⟩ := hroot.walk
  exact ⟨w, walk_extends_of_some (extends_withShards d top shards) hw⟩

/-- The directory of each shard is where its name leads from the root. -/
theorem walk_shardDir (hroot : d.EmptyDir root top) (hm : shards.length ≤ Text.wordBound)
    {i : Nat} (hi : i < shards.length) :
    (d.withShards top shards).walk (shardDir root i) =
      .ok ⟨top ++ [toString i], some .directory, false⟩ := by
  obtain ⟨w, hw⟩ : ∃ w, (d.withShards top shards).walk root = .ok ⟨top, some .directory, w⟩ :=
    walk_root_withShards hroot
  rw [shardDir, walk_join hw (isPlainName_toString i), node?_withShards hroot hm (by omega)]
  simp [hi, shardEntries]

/-- A file of shard `i` is where its name leads from the shard's directory. -/
theorem walk_shardFile (hroot : d.EmptyDir root top) (hm : shards.length ≤ Text.wordBound)
    {i : Nat} (hi : i < shards.length) (name : String) (n : Node)
    (hname : Path.isPlainName name = true)
    (hmem : (top ++ [toString i, name], n) ∈ shardEntries top d.inodes.length i) :
    (d.withShards top shards).walk (Path.join (shardDir root i) name) =
      .ok ⟨top ++ [toString i, name], some n, false⟩ := by
  rw [walk_join (walk_shardDir hroot hm hi) hname, List.append_assoc, List.singleton_append,
    node?_withShards hroot hm (by omega), if_pos hi, lookup_shardEntries_of_mem hmem]

/-- The paths of each shard all exist. -/
theorem existing_withShards (hroot : d.EmptyDir root top) (hm : shards.length ≤ Text.wordBound)
    {i : Nat} (hi : i < shards.length) :
    ShardFiles.existing (d.withShards top shards) root i = .ok (ShardFiles.ofShard root i) := by
  have hdir := present_of_walk (walk_shardDir hroot hm hi)
  have hids := present_of_walk (walk_shardFile hroot hm hi idsFileName
    (.file (d.inodes.length + 3 * i)) rfl (by simp [shardEntries]))
  have hvectors := present_of_walk (walk_shardFile hroot hm hi vectorsFileName
    (.file (d.inodes.length + 3 * i + 1)) rfl (by simp [shardEntries]))
  have hmetas := present_of_walk (walk_shardFile hroot hm hi metasFileName
    (.file (d.inodes.length + 3 * i + 2)) rfl (by simp [shardEntries]))
  have hnone : (ShardFiles.ofShard root i).all.find?
      (fun p => !(d.withShards top shards).present p) = none := by
    rw [List.find?_eq_none]
    intro p hp
    simp only [ShardFiles.all, ShardFiles.ofShard, List.mem_cons, List.not_mem_nil,
      or_false] at hp
    rcases hp with rfl | rfl | rfl | rfl
    · simp only [hdir]; decide
    · simp only [hids]; decide
    · simp only [hvectors]; decide
    · simp only [hmetas]; decide
  unfold ShardFiles.existing
  dsimp only
  rw [hnone]


theorem openRead_of_walk {d : Disk} {path : String} {q : List String} {inode : Nat}
    (h : d.walk path = .ok ⟨q, some (.file inode), false⟩) :
    d.openRead path = .ok (.file inode) := by
  simp [openRead, h, bind, Except.bind]

/-- The three readers of shard `i` open, and give back the ids, the vectors and the metadata
of its records in order, then end. -/
theorem shardReaders_withShards (hroot : d.EmptyDir root top)
    (hm : shards.length ≤ Text.wordBound) {i : Nat} (hi : i < shards.length)
    (hvalid : ∀ r ∈ shards[i], r.validate = .ok ()) :
    ∃ (ids : IdReader) (vectors : VectorReader) (metas : MetaReader),
      IdReader.open? (d.withShards top shards) (ShardFiles.ofShard root i).ids = .ok ids ∧
      VectorReader.open? (d.withShards top shards) (ShardFiles.ofShard root i).vectors =
        .ok vectors ∧
      FrameReader.open? (d.withShards top shards) (ShardFiles.ofShard root i).metas = .ok metas ∧
      Reader.Drains (d.withShards top shards) ids (shards[i].map Record.id) none ∧
      Reader.Drains (d.withShards top shards) vectors (shards[i].map Record.vector) none ∧
      Reader.Drains (d.withShards top shards) metas (shards[i].map Record.metadata) none := by
  have hcheck := fun r hr => (Record.validate_eq_ok_iff r).1 (hvalid r hr)
  -- each file opens at its inode, which holds the bytes of the shard's records
  have hopen : ∀ (name : String) (k : Nat), Path.isPlainName name = true →
      (top ++ [toString i, name], Node.file (d.inodes.length + 3 * i + k)) ∈
        shardEntries top d.inodes.length i →
      (d.withShards top shards).openRead (Path.join (shardDir root i) name) =
        .ok (.file (d.inodes.length + 3 * i + k)) := fun name k hname hmem =>
    openRead_of_walk (walk_shardFile hroot hm hi name _ hname hmem)
  have hids := hopen idsFileName 0 rfl (by simp [shardEntries])
  have hvectors := hopen vectorsFileName 1 rfl (by simp [shardEntries])
  have hmetas := hopen metasFileName 2 rfl (by simp [shardEntries])
  have hcontent := fun k (hk : k < 3) => content_withShards d top hi hk
  refine ⟨⟨(ShardFiles.ofShard root i).ids,
      some (BufferedReader.ofHandle (.file (d.inodes.length + 3 * i + 0)))⟩,
    ⟨⟨(ShardFiles.ofShard root i).vectors,
      some (BufferedReader.ofHandle (.file (d.inodes.length + 3 * i + 1)))⟩⟩,
    ⟨(ShardFiles.ofShard root i).metas,
      some (BufferedReader.ofHandle (.file (d.inodes.length + 3 * i + 2)))⟩,
    ?_, ?_, ?_, ?_, ?_, ?_⟩
  · simp [IdReader.open?, ShardFiles.ofShard, hids]
  · simp [VectorReader.open?, FrameReader.open?, ShardFiles.ofShard, hvectors, Except.map]
  · simp [FrameReader.open?, ShardFiles.ofShard, hmetas]
  · refine IdReader.drains_of_lines ?_ rfl ?_
    · simp only [List.mem_map]
      rintro _ ⟨r, hr, rfl⟩
      exact (hcheck r hr).1
    · rw [BufferedReader.unread_ofHandle_file, hcontent 0 (by decide)]
      simp [shardContents, idsBytes, Function.comp_def]
  · refine VectorReader.drains_of_frames ?_ rfl ?_
    · simp only [List.mem_map]
      rintro _ ⟨r, hr, rfl⟩
      obtain ⟨-, hv, -, hlt, -⟩ := hcheck r hr
      refine ⟨fun hnil => hv (List.eq_nil_of_length_eq_zero ?_), hlt⟩
      have hlen := congrArg List.length hnil
      simp only [length_encodeVector, List.length_nil] at hlen
      omega
    · rw [BufferedReader.unread_ofHandle_file, hcontent 1 (by decide)]
      simp [shardContents, vectorsBytes, Record.vectorBytes, Function.comp_def]
  · refine FrameReader.drains_of_frames ?_ rfl ?_
    · simp only [List.mem_map]
      rintro _ ⟨r, hr, rfl⟩
      obtain ⟨-, -, hmeta, -, hlt⟩ := hcheck r hr
      exact ⟨hmeta, hlt⟩
    · rw [BufferedReader.unread_ofHandle_file, hcontent 2 (by decide)]
      simp [shardContents, metasBytes, Function.comp_def]

/-- Importing shard `i` gives a reader that yields its records and ends. -/
theorem importRecords_withShards (hroot : d.EmptyDir root top)
    (hm : shards.length ≤ Text.wordBound) {i : Nat} (hi : i < shards.length)
    (hvalid : ∀ r ∈ shards[i], r.validate = .ok ()) :
    ∃ rr, importRecords (d.withShards top shards) root i = .ok rr ∧
      Reader.Drains (d.withShards top shards) rr shards[i] none := by
  obtain ⟨ids, vectors, metas, hids, hvectors, hmetas, hdi, hdv, hdm⟩ :=
    shardReaders_withShards hroot hm hi hvalid
  refine ⟨{ shard := i, ids, vectors, metas }, ?_, ?_⟩
  · exact importRecords_eq_ok_iff.2 ⟨⟨_, existing_withShards hroot hm hi⟩,
      ids, vectors, metas, hids, hvectors, hmetas, rfl⟩
  · exact (RecordReader.drains_iff_of_active _ _ rfl _).2 ⟨hdi, hdv, hdm⟩

/-- Importing the vectors of shard `i` gives readers of its ids and of its vectors. -/
theorem importVectors_withShards (hroot : d.EmptyDir root top)
    (hm : shards.length ≤ Text.wordBound) {i : Nat} (hi : i < shards.length)
    (hvalid : ∀ r ∈ shards[i], r.validate = .ok ()) :
    ∃ ids vectors, importVectors (d.withShards top shards) root i = .ok (ids, vectors) ∧
      Reader.Drains (d.withShards top shards) ids (shards[i].map Record.id) none ∧
      Reader.Drains (d.withShards top shards) vectors (shards[i].map Record.vector) none := by
  obtain ⟨ids, vectors, -, hids, hvectors, -, hdi, hdv, -⟩ :=
    shardReaders_withShards hroot hm hi hvalid
  refine ⟨ids, vectors, ?_, hdi, hdv⟩
  simp [importVectors, existing_withShards hroot hm hi, hids, hvectors, bind, Except.bind, pure,
    Except.pure]

/-- Importing the metadata of shard `i` gives readers of its ids and of its metadata. -/
theorem importMetas_withShards (hroot : d.EmptyDir root top)
    (hm : shards.length ≤ Text.wordBound) {i : Nat} (hi : i < shards.length)
    (hvalid : ∀ r ∈ shards[i], r.validate = .ok ()) :
    ∃ ids metas, importMetas (d.withShards top shards) root i = .ok (ids, metas) ∧
      Reader.Drains (d.withShards top shards) ids (shards[i].map Record.id) none ∧
      Reader.Drains (d.withShards top shards) metas (shards[i].map Record.metadata) none := by
  obtain ⟨ids, -, metas, hids, -, hmetas, hdi, -, hdm⟩ :=
    shardReaders_withShards hroot hm hi hvalid
  refine ⟨ids, metas, ?_, hdi, hdm⟩
  simp [importMetas, existing_withShards hroot hm hi, hids, hmetas, bind, Except.bind, pure,
    Except.pure]

/-! ## Listing the shards -/

/-- Directly inside the root are the shard directories, in order. -/
theorem children_withShards (hroot : d.EmptyDir root top) :
    (d.withShards top shards).children top =
      (List.range shards.length).map fun j => (toString j, .directory) := by
  unfold children
  rw [withShards, List.filterMap_append, List.filterMap_flatMap, List.map_eq_flatMap,
    List.filterMap_eq_nil_iff.2 ?_, List.nil_append]
  · simp [shardEntries]
  -- nothing of the disk before lay directly inside the root
  intro e he
  split
  · rename_i name up hrev
    split
    · rename_i hup
      have hpath : e.1 = top ++ [name] := by
        rw [← List.reverse_reverse e.1, hrev, List.reverse_cons, hup]
      have htop := hroot.fresh e he (hpath ▸ List.prefix_append top [name])
      rw [hpath] at htop
      simp at htop
    · rfl
  · rfl

/-- Listing the shards finds them all, in order. -/
theorem listShards_withShards (hroot : d.EmptyDir root top)
    (hm : shards.length ≤ Text.wordBound) :
    listShards (d.withShards top shards) root = .ok (List.range shards.length) := by
  obtain ⟨w, hw⟩ : ∃ w, (d.withShards top shards).walk root = .ok ⟨top, some .directory, w⟩ :=
    walk_root_withShards hroot
  have hlist : (d.withShards top shards).listDirectory root =
      .ok ((List.range shards.length).map fun j => (toString j, .directory)) := by
    simp [listDirectory, hw, bind, Except.bind, children_withShards hroot]
  unfold listShards
  rw [hlist]
  simp only [List.filterMap_map]
  rw [List.filterMap_congr (g := some) ?_, List.filterMap_some]
  · exact congrArg Except.ok (List.mergeSort_of_pairwise (by simpa using List.pairwise_le_range))
  -- each listed name is a directory whose name reads back as its shard number
  intro j hj
  have hj : j < shards.length := List.mem_range.1 hj
  have hdir : (d.withShards top shards).isDirectory (Path.join root (toString j)) = true := by
    rw [show Path.join root (toString j) = shardDir root j from rfl, isDirectory, stat,
      walk_shardDir hroot hm hj]
    rfl
  simp only [Function.comp_apply, hdir, ↓reduceIte,
    Text.parseUnsigned_toString (show j < Text.wordBound by omega)]

end Layout

end Disk

end ShardDump
