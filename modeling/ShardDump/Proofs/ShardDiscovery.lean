import Mathlib.Data.List.Nodup
import ShardDump.Proofs.DumpLayout

/-!
# Discovering the shards of a dump

Listing the shards of a root reads the root's entries and keeps every directory whose name
reads as an unsigned number, with that number. On a disk where each path names one entry,
as on a file system, the list is sorted and holds each number as often as the root has
directories whose names read as it (`listShards_lists_numeric_directories`).

A name reads as a number in more than one spelling: leading zeros and a plus sign are
accepted, so `01` and `+1` read as `1`, like `1` itself. Every shard directory, whose name is
the number's own spelling, is found; but a root holding `1` and `01` lists shard `1` twice,
and a root holding `+2` lists shard `2` although no directory `2` exists
(`listShards_lists_other_spellings`). When every numeric name of a directory in the root is
the number's own spelling, the list is exactly the shard directories, strictly ascending.
-/

namespace ShardDump

/-! ## Names that read as numbers -/

namespace Text

/-- Digits read onto an accumulator that fits a word give a value that fits a word, and
were all digits. -/
theorem digitsValue_ok {acc n : Nat} {cs : List Char} (h : digitsValue acc cs = .ok n)
    (hacc : acc < wordBound) : n < wordBound ∧ ∀ c ∈ cs, c.isDigit = true := by
  induction cs generalizing acc with
  | nil =>
    cases h
    exact ⟨hacc, by simp⟩
  | cons c rest ih =>
    unfold digitsValue at h
    split at h
    · rename_i hdigit
      dsimp only at h
      split at h
      · cases h
      · rename_i hfits
        obtain ⟨hn, hrest⟩ := ih h (by omega)
        exact ⟨hn, List.forall_mem_cons.2 ⟨hdigit, hrest⟩⟩
    · cases h

/-- A text made of digits and plus signs, not empty, is one plain path component. -/
theorem isPlainName_of_digits_or_plus {s : String} (hne : s.toList ≠ [])
    (hchars : ∀ c ∈ s.toList, c.isDigit = true ∨ c = '+') : Path.isPlainName s = true := by
  refine Path.isPlainName_iff.2 ⟨?_, ?_, ?_⟩
  · rintro rfl
    exact hne rfl
  · rintro rfl
    exact absurd (hchars '.' (by decide)) (by decide)
  · intro hsep
    exact absurd (hchars Path.separator hsep) (by decide)

/-- A name that reads as a number spells a value that fits a word, and is one plain path
component. -/
theorem parseUnsigned_ok {s : String} {n : Nat} (h : parseUnsigned s = .ok n) :
    n < wordBound ∧ Path.isPlainName s = true := by
  have hbound : 0 < wordBound := by decide
  unfold parseUnsigned at h
  split at h
  · cases h
  · cases h
  · -- a sign, then digits
    rename_i rest _ hs
    obtain ⟨hn, hdigits⟩ := digitsValue_ok h hbound
    refine ⟨hn, isPlainName_of_digits_or_plus (by simp [hs]) ?_⟩
    rw [hs]
    intro c hc
    rcases List.mem_cons.1 hc with rfl | hc
    · exact .inr rfl
    · exact .inl (hdigits c hc)
  · -- digits alone
    rename_i hnil _ _
    obtain ⟨hn, hdigits⟩ := digitsValue_ok h hbound
    exact ⟨hn, isPlainName_of_digits_or_plus hnil fun c hc => .inl (hdigits c hc)⟩

end Text

/-! ## The entries of a directory -/

namespace Disk

/-- Each path names at most one entry, as on a file system. -/
def UniquePaths (d : Disk) : Prop := (d.entries.map Prod.fst).Nodup

/-- The entries of a directory are those whose path is the directory's and one name more. -/
theorem mem_children_iff {d : Disk} {dir : List String} {name : String} {n : Node} :
    (name, n) ∈ d.children dir ↔ (dir ++ [name], n) ∈ d.entries := by
  unfold children
  rw [List.mem_filterMap]
  constructor
  · rintro ⟨⟨p, m⟩, hmem, hsome⟩
    dsimp only at hsome
    split at hsome
    · rename_i name' up hrev
      split at hsome
      · rename_i hup
        cases hsome
        have hp : p = dir ++ [name] := by
          rw [← List.reverse_reverse p, hrev, List.reverse_cons, hup]
        rwa [hp] at hmem
      · cases hsome
    · cases hsome
  · intro h
    exact ⟨(dir ++ [name], n), h, by simp⟩

/-- On a disk with one entry per path, an entry is what its path names. -/
theorem UniquePaths.node?_eq {d : Disk} (hu : d.UniquePaths) {p : List String} {n : Node}
    (hp : p ≠ []) (h : (p, n) ∈ d.entries) : d.node? p = some n := by
  rw [node?, if_neg (by simpa using hp)]
  refine lookup_eq_some_of_unique h fun n' hn' => ?_
  have hsame := List.inj_on_of_nodup_map hu hn' h rfl
  exact (Prod.mk.inj hsame).2

/-- On a disk with one entry per path, a directory lists each of its entries once. -/
theorem UniquePaths.nodup_children {d : Disk} (hu : d.UniquePaths) (dir : List String) :
    (d.children dir).Nodup := by
  -- an entry that a directory lists is the disk entry at its path; read it off a disk of one
  have hentry : ∀ e c, c ∈ (⟨[e], []⟩ : Disk).children dir → e = (dir ++ [c.1], c.2) := by
    intro e c hc
    simpa [eq_comm] using mem_children_iff.1 hc
  refine List.Nodup.filterMap (fun a a' c ha ha' => ?_) (List.Nodup.of_map Prod.fst hu)
  rw [hentry a c (List.mem_filterMap.2 ⟨a, List.mem_singleton_self a, ha⟩),
    hentry a' c (List.mem_filterMap.2 ⟨a', List.mem_singleton_self a', ha'⟩)]

/-- A plain name in a directory is a directory exactly when the directory's entry by that
name is one. -/
theorem isDirectory_join {d : Disk} {root : String} {dir : List String} {w : Bool}
    (hroot : d.walk root = .ok ⟨dir, some .directory, w⟩) {name : String}
    (hname : Path.isPlainName name = true) :
    d.isDirectory (Path.join root name) = true ↔ d.node? (dir ++ [name]) = some .directory := by
  rw [isDirectory, stat, walk_join hroot hname]
  rcases d.node? (dir ++ [name]) with _ | _ | _ | _ <;> simp [bind, Except.bind]

/-- A directory lists the entries directly below the path it is found at. -/
theorem listDirectory_eq_ok {d : Disk} {path : String} {entries : List (String × Node)}
    (h : d.listDirectory path = .ok entries) :
    ∃ dir w, d.walk path = .ok ⟨dir, some .directory, w⟩ ∧ entries = d.children dir := by
  unfold listDirectory at h
  rcases hw : d.walk path with e | ⟨dir, node, w⟩
  · simp [hw, bind, Except.bind] at h
  · rw [hw] at h
    rcases node with _ | _ | _ | _ <;> simp [bind, Except.bind] at h
    exact ⟨dir, w, rfl, h.symm⟩

/-- An entry of a directory, under a plain name, is a directory exactly when the entry says
so. -/
theorem UniquePaths.isDirectory_join_iff {d : Disk} (hu : d.UniquePaths) {root : String}
    {dir : List String} {w : Bool} (hroot : d.walk root = .ok ⟨dir, some .directory, w⟩)
    {name : String} {n : Node} (hmem : (name, n) ∈ d.children dir)
    (hname : Path.isPlainName name = true) :
    d.isDirectory (Path.join root name) = true ↔ n = .directory := by
  rw [isDirectory_join hroot hname, hu.node?_eq (by simp) (mem_children_iff.1 hmem),
    Option.some.injEq]

/-- A shard directory that exists is an entry of the root. -/
theorem mem_children_of_isDirectory_shardDir {d : Disk} {root : String} {dir : List String}
    {w : Bool} (hroot : d.walk root = .ok ⟨dir, some .directory, w⟩) {i : Nat}
    (h : d.isDirectory (shardDir root i) = true) : (toString i, .directory) ∈ d.children dir := by
  have hnode := (isDirectory_join hroot (isPlainName_toString i)).1 h
  exact mem_children_iff.2 (mem_entries_of_node? (by simp) hnode)

end Disk

theorem Except.toOption_eq_some_iff {ε α : Type} {x : Except ε α} {a : α} :
    x.toOption = some a ↔ x = .ok a := by
  rcases x with e | b <;> simp [Except.toOption]

/-! ## Listing the shards -/

open Disk in
/-- On a disk with one entry per path, the shards listed in a directory are sorted, and each
number is listed as often as the directory has directories whose names read as it. -/
theorem listShards_count {d : Disk} (hu : d.UniquePaths) {root : String}
    {entries : List (String × Node)} (hlist : d.listDirectory root = .ok entries) :
    ∃ l, listShards d root = .ok l ∧ l.Pairwise (· ≤ ·) ∧
      ∀ i, l.count i = (entries.filter fun e =>
        e.2 = .directory ∧ (Text.parseUnsigned e.1).toOption = some i).length := by
  obtain ⟨dir, w, hroot, rfl⟩ := listDirectory_eq_ok hlist
  unfold listShards
  rw [hlist]
  refine ⟨_, rfl, ?_, fun i => ?_⟩
  · simpa using @List.pairwise_mergeSort Nat (fun a b => decide (a ≤ b))
      (fun a b c hab hbc => by simp only [decide_eq_true_eq] at *; omega)
      (fun a b => by simp only [Bool.or_eq_true, decide_eq_true_eq]; omega) _
  -- sorting keeps the count; a listed entry counts when it is a directory with a number
  rw [(List.mergeSort_perm _ _).count_eq, List.count_eq_countP, List.countP_filterMap,
    List.countP_eq_length_filter]
  congr 1
  apply List.filter_congr
  rintro ⟨name, n⟩ hmem
  dsimp only
  rcases hparse : Text.parseUnsigned name with e | m
  · simp [Except.toOption]
  · have hname := (Text.parseUnsigned_ok hparse).2
    by_cases hn : n = .directory
    · have hdir := (hu.isDirectory_join_iff hroot hmem hname).2 hn
      simp [hdir, hn, Except.toOption, beq_eq_decide]
    · have hdir : d.isDirectory (Path.join root name) = false := by
        simpa using mt (hu.isDirectory_join_iff hroot hmem hname).1 hn
      simp [hdir, hn]

/-- What listing the shards of the directory `root`, whose entries are `entries`, returned as
`l`. The list is sorted, and holds each number as often as the root has directories whose
names read as it; every shard directory whose number fits a word is in it. When each such
name is the number's own spelling, the list is strictly ascending and holds exactly the
numbers, within a word, whose shard directories exist. -/
structure ShardListing (d : Disk) (root : String) (entries : List (String × Node))
    (l : List Nat) : Prop where
  sorted : l.Pairwise (· ≤ ·)
  count : ∀ i, l.count i = (entries.filter fun e =>
    e.2 = .directory ∧ (Text.parseUnsigned e.1).toOption = some i).length
  found : ∀ i, i < Text.wordBound → d.isDirectory (shardDir root i) = true → i ∈ l
  canonical : (∀ e ∈ entries, e.2 = .directory → ∀ i, Text.parseUnsigned e.1 = .ok i →
      e.1 = toString i) →
    l.Pairwise (· < ·) ∧ ∀ i, i ∈ l ↔ i < Text.wordBound ∧ d.isDirectory (shardDir root i) = true

open Disk in
/-- Shard discovery on a disk where each path names one entry, as on a file system: listing
the shards of a directory succeeds, with a list as `ShardListing` says. -/
theorem listShards_lists_numeric_directories {d : Disk} (hu : d.UniquePaths) {root : String}
    {entries : List (String × Node)} (hlist : d.listDirectory root = .ok entries) :
    ∃ l, listShards d root = .ok l ∧ ShardListing d root entries l := by
  obtain ⟨l, hl, hsorted, hcount⟩ := listShards_count hu hlist
  obtain ⟨dir, w, hroot, rfl⟩ := listDirectory_eq_ok hlist
  -- a number is listed when a directory of the root has a name that reads as it
  have hmem : ∀ i, i ∈ l ↔
      ∃ name, (name, Node.directory) ∈ d.children dir ∧ Text.parseUnsigned name = .ok i := by
    intro i
    rw [← List.count_pos_iff, hcount, List.length_pos_iff_exists_mem]
    simp [List.mem_filter, Except.toOption_eq_some_iff]
  have hfound : ∀ i, i < Text.wordBound → d.isDirectory (shardDir root i) = true → i ∈ l :=
    fun i hi h => (hmem i).2
      ⟨_, mem_children_of_isDirectory_shardDir hroot h, Text.parseUnsigned_toString hi⟩
  refine ⟨l, hl, hsorted, hcount, hfound, fun hcanon => ?_⟩
  -- spelled its own way, a number is the name of one entry of the root at most
  have hnodup : l.Nodup := by
    rw [List.nodup_iff_count_le_one]
    intro i
    rw [hcount]
    have hsub := List.filter_sublist (l := d.children dir) (p := fun e : String × Node =>
      decide (e.2 = .directory ∧ (Text.parseUnsigned e.1).toOption = some i))
    have hall : ∀ e ∈ (d.children dir).filter fun e =>
        e.2 = .directory ∧ (Text.parseUnsigned e.1).toOption = some i,
        (toString i, Node.directory) = e := by
      rintro ⟨name, n⟩ he
      simp only [List.mem_filter, decide_eq_true_eq, Except.toOption_eq_some_iff] at he
      obtain ⟨hin, rfl, hparse⟩ := he
      have hspell : name = toString i := hcanon _ hin rfl i hparse
      rw [hspell]
    calc _ = List.count (toString i, Node.directory) _ := (List.count_eq_length.2 hall).symm
      _ ≤ 1 := List.nodup_iff_count_le_one.1 ((hu.nodup_children dir).sublist hsub) _
  refine ⟨(hsorted.and hnodup).imp fun h => Nat.lt_of_le_of_ne h.1 h.2,
    fun i => ⟨fun hi => ?_, fun h => hfound i h.1 h.2⟩⟩
  obtain ⟨name, hname, hparse⟩ := (hmem i).1 hi
  obtain ⟨hbound, hplain⟩ := Text.parseUnsigned_ok hparse
  have hspell : name = toString i := hcanon _ hname rfl i hparse
  subst hspell
  exact ⟨hbound, (hu.isDirectory_join_iff hroot hname hplain).2 rfl⟩

/-- A root holding the directories `1`, `01` and `+2`, the last two spelled otherwise than
shard numbers are: the listing law applies to it. -/
theorem listShards_lists_numeric_directories_spellings :
    let d : Disk := ⟨[(["dump"], .directory), (["dump", "1"], .directory),
      (["dump", "01"], .directory), (["dump", "+2"], .directory)], []⟩
    d.UniquePaths ∧
      d.listDirectory "dump" = .ok [("1", .directory), ("01", .directory), ("+2", .directory)] ∧
      ∃ l, listShards d "dump" = .ok l ∧
        ShardListing d "dump" [("1", .directory), ("01", .directory), ("+2", .directory)] l :=
  ⟨by unfold Disk.UniquePaths; decide, rfl,
    listShards_lists_numeric_directories (by unfold Disk.UniquePaths; decide) rfl⟩

/-- Shard discovery does not list exactly the shard directories, strictly ascending: in a
root holding the directories `1`, `01` and `+2`, shard `1` is listed twice, and shard `2` is
listed although the root holds no directory `2`. -/
theorem listShards_lists_other_spellings :
    let d : Disk := ⟨[(["dump"], .directory), (["dump", "1"], .directory),
      (["dump", "01"], .directory), (["dump", "+2"], .directory)], []⟩
    ∃ l, listShards d "dump" = .ok l ∧ l.count 1 = 2 ∧ 2 ∈ l ∧
      d.isDirectory (shardDir "dump" 2) = false := by
  intro d
  have hlist : d.listDirectory "dump" =
      .ok [("1", .directory), ("01", .directory), ("+2", .directory)] := rfl
  obtain ⟨l, hl, -, hcount⟩ := listShards_count (by unfold Disk.UniquePaths; decide) hlist
  refine ⟨l, hl, ?_, ?_, by decide +kernel⟩
  · rw [hcount]
    decide +kernel
  · rw [← List.count_pos_iff, hcount]
    decide +kernel

end ShardDump
