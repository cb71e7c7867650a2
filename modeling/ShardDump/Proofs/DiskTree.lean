import ShardDump.Disk.Basic

/-!
# Paths through a disk

A walk follows a path from the top through directories. What it finds depends on the
disk only through `Disk.node?`, so a disk that keeps every entry of another
(`Disk.Extends`) walks the same paths to the same places, and finds what it holds there
(`walkFrom_extends`). A walk that ends in a directory goes on by one plain name to the
entry below it (`walk_join`).

A disk is closed when every entry sits in a directory. Below a path that names nothing, a
closed disk holds nothing (`not_prefix_of_node?_eq_none`).
-/

namespace ShardDump

namespace Path

/-- A name of one component: not empty, not a single dot, and without a separator. -/
def isPlainName (name : String) : Bool :=
  !name.isEmpty && name != "." && !name.toList.contains separator

theorem isPlainName_iff {name : String} :
    isPlainName name = true ↔ name ≠ "" ∧ name ≠ "." ∧ separator ∉ name.toList := by
  simp [isPlainName, List.contains_eq_mem, and_assoc]

/-- The pieces of a path split at one separator are the pieces of each side. -/
theorem parts_append_separator (x y : String) :
    parts (x ++ "/" ++ y) = parts x ++ parts y := by
  have hsep : (x ++ "/" ++ y).toList = x.toList ++ separator :: y.toList := by
    simp [separator, String.toList_append]
  simp only [parts, hsep, List.splitOn_append_cons_self, List.map_append]

theorem parts_of_isPlainName {name : String} (h : isPlainName name = true) :
    parts name = [name] := by
  obtain ⟨-, -, hsep⟩ := isPlainName_iff.1 h
  simp [parts, List.splitOn_eq_singleton hsep, String.ofList_toList]

theorem isAbsolute_eq_false_of_isPlainName {name : String} (h : isPlainName name = true) :
    isAbsolute name = false := by
  obtain ⟨-, -, hsep⟩ := isPlainName_iff.1 h
  cases hn : name.toList with
  | nil => simp [isAbsolute, hn]
  | cons c rest =>
    have hc : c ≠ separator := fun hc => hsep (by rw [hn, hc]; exact List.mem_cons_self)
    simp [isAbsolute, hn, hc]

theorem hasTrailingSeparator_eq_false_of_isPlainName {name : String}
    (h : isPlainName name = true) : hasTrailingSeparator name = false := by
  obtain ⟨-, -, hsep⟩ := isPlainName_iff.1 h
  cases hl : name.toList.getLast? with
  | none => simp [hasTrailingSeparator, hl]
  | some c =>
    have hc : c ≠ separator := fun hc => hsep (List.mem_of_getLast? (hc ▸ hl))
    simp [hasTrailingSeparator, hl, hc]

/-- Joining a plain name to a non-empty path adds it as one more component. -/
theorem parts_join {path name : String} (hpath : path ≠ "") (h : isPlainName name = true) :
    (parts (join path name)).filter (· ≠ "") = (parts path).filter (· ≠ "") ++ [name] := by
  have hname : name ≠ "" := (isPlainName_iff.1 h).1
  have hempty : path.isEmpty = false := by
    cases he : path.isEmpty
    · rfl
    · exact absurd (String.isEmpty_iff.1 he) hpath
  simp only [join, isAbsolute_eq_false_of_isPlainName h, hempty, Bool.false_eq_true,
    ↓reduceIte, Bool.false_or]
  split
  · -- the path ends with a separator: its last piece is empty, and the name takes its place
    rename_i htrail
    obtain ⟨front, hfront⟩ : ∃ front, path.toList = front ++ [separator] := by
      simpa [hasTrailingSeparator, List.getLast?_eq_some_iff] using htrail
    have hjoin : (path ++ name).toList = front ++ separator :: name.toList := by
      simp [String.toList_append, hfront]
    have hpath' : parts path = (front.splitOn separator).map String.ofList ++ [""] := by
      simp [parts, hfront, List.splitOn_append_cons_self]
    have hname' : parts (path ++ name) = (front.splitOn separator).map String.ofList ++ [name] := by
      rw [parts, hjoin, List.splitOn_append_cons_self, List.map_append, ← parts, parts_of_isPlainName h]
    rw [hpath', hname']
    simp [hname]
  · rw [parts_append_separator, parts_of_isPlainName h]
    simp [hname]

/-- A path joined with a plain name ends with the name. -/
theorem toList_join (path : String) {name : String} (h : isPlainName name = true) :
    ∃ front, (join path name).toList = front ++ name.toList := by
  simp only [join, isAbsolute_eq_false_of_isPlainName h, Bool.false_eq_true, ↓reduceIte]
  split
  · exact ⟨path.toList, String.toList_append⟩
  · exact ⟨(path ++ "/").toList, String.toList_append⟩

theorem join_ne_empty {path name : String} (h : isPlainName name = true) : join path name ≠ "" := by
  obtain ⟨front, hfront⟩ := toList_join path h
  have hname : name.toList ≠ [] := by
    rw [Ne, String.toList_eq_nil_iff]
    exact (isPlainName_iff.1 h).1
  intro he
  rw [he] at hfront
  simp only [String.toList_empty] at hfront
  exact hname (List.append_eq_nil_iff.1 hfront.symm).2

theorem hasTrailingSeparator_join {path name : String} (h : isPlainName name = true) :
    hasTrailingSeparator (join path name) = false := by
  obtain ⟨front, hfront⟩ := toList_join path h
  have hname : name.toList ≠ [] := by
    rw [Ne, String.toList_eq_nil_iff]
    exact (isPlainName_iff.1 h).1
  have hlast : (join path name).toList.getLast? = name.toList.getLast? := by
    rw [hfront, List.getLast?_append]
    cases hl : name.toList.getLast? with
    | none => exact absurd (List.getLast?_eq_none_iff.1 hl) hname
    | some c => rfl
  have := hasTrailingSeparator_eq_false_of_isPlainName h
  simp only [hasTrailingSeparator] at this ⊢
  rw [hlast]
  exact this

end Path

namespace Disk

/-! ## Looking up entries -/

@[simp] theorem node?_nil (d : Disk) : d.node? [] = some .directory := rfl

theorem node?_addEntry (d : Disk) (p : List String) (n : Node) (q : List String) :
    (d.addEntry p n).node? q = (d.node? q).or (if q = p then some n else none) := by
  cases q with
  | nil => rfl
  | cons a q =>
    by_cases hq : a :: q = p
    · subst hq
      simp [node?, addEntry, List.lookup_append]
    · have hne : (a :: q == p) = false := by simpa using hq
      simp [node?, addEntry, List.lookup_append, List.lookup_cons, hne, hq]

@[simp] theorem node?_setContent (d : Disk) (i : Nat) (b : Bytes) (q : List String) :
    (d.setContent i b).node? q = d.node? q := rfl

@[simp] theorem node?_append (d : Disk) (i : Nat) (b : Bytes) (q : List String) :
    (d.append i b).node? q = d.node? q := rfl

@[simp] theorem node?_newInode (d : Disk) (b : Bytes) (q : List String) :
    (d.newInode b).2.node? q = d.node? q := rfl

/-- A path that names something names it in the disk's entries. -/
theorem mem_entries_of_node? {d : Disk} {p : List String} {n : Node} (hp : p ≠ [])
    (h : d.node? p = some n) : (p, n) ∈ d.entries := by
  have hlookup : d.entries.lookup p = some n := by
    simpa [node?, hp] using h
  obtain ⟨l₁, l₂, heq, -⟩ := List.lookup_eq_some_iff.1 hlookup
  rw [heq]
  simp

/-- An entry makes its path name something. -/
theorem node?_ne_none_of_mem {d : Disk} {p : List String} {n : Node} (h : (p, n) ∈ d.entries) :
    d.node? p ≠ none := by
  cases p with
  | nil => simp
  | cons a p =>
    intro hnone
    have hlookup : d.entries.lookup (a :: p) = none := by simpa [node?] using hnone
    have hne := List.lookup_eq_none_iff.1 hlookup (a :: p, n) h
    simp at hne

/-! ## Disks that keep every entry -/

/-- Every path that names something in `d` names the same in `d'`. -/
def Extends (d d' : Disk) : Prop :=
  ∀ (p : List String) (n : Node), d.node? p = some n → d'.node? p = some n

theorem Extends.refl (d : Disk) : d.Extends d := fun _ _ h => h

theorem Extends.trans {d₁ d₂ d₃ : Disk} (h₁ : d₁.Extends d₂) (h₂ : d₂.Extends d₃) :
    d₁.Extends d₃ := fun p n h => h₂ p n (h₁ p n h)

theorem extends_addEntry (d : Disk) (p : List String) (n : Node) : d.Extends (d.addEntry p n) := by
  intro q m h
  rw [node?_addEntry, h]
  rfl

theorem extends_newInode (d : Disk) (b : Bytes) : d.Extends (d.newInode b).2 :=
  fun _ _ h => h

/-! ## Walks -/

/-- A walk from a directory finds at its end what the disk holds there. -/
theorem walkFrom_node {d : Disk} {w : Bool} {cur ps : List String} {r : Resolved}
    (hcur : d.node? cur = some .directory) (h : d.walkFrom w cur ps = .ok r) :
    r.node = d.node? r.path := by
  revert hcur h
  fun_induction d.walkFrom w cur ps with
  | case1 cur =>
    intro hcur h
    cases h
    exact hcur.symm
  | case2 cur =>
    intro hcur h
    cases h
    exact hcur.symm
  | case3 cur part hpart =>
    intro _ h
    cases h
    rfl
  | case4 cur next rest ih => exact ih
  | case5 cur part next rest hpart hnone =>
    intro _ h
    cases h
  | case6 cur part next rest hpart hdir ih =>
    intro _ h
    exact ih hdir h
  | case7 cur part next rest hpart n hn hsome =>
    intro _ h
    cases h

/-- A disk that keeps every entry walks a path the same way, to what it holds at the end. -/
theorem walkFrom_extends {d d' : Disk} (hext : d.Extends d') {w : Bool} {cur ps : List String}
    {r : Resolved} (hcur : d.node? cur = some .directory) (h : d.walkFrom w cur ps = .ok r) :
    d'.walkFrom w cur ps = .ok ⟨r.path, d'.node? r.path, r.wantsDirectory⟩ := by
  revert hcur h
  fun_induction d.walkFrom w cur ps with
  | case1 cur =>
    intro hcur h
    cases h
    simp [walkFrom, hext _ _ hcur]
  | case2 cur =>
    intro hcur h
    cases h
    simp [walkFrom, hext _ _ hcur]
  | case3 cur part hpart =>
    intro _ h
    cases h
    simp [walkFrom, hpart]
  | case4 cur next rest ih =>
    intro hcur h
    simpa [walkFrom] using ih hcur h
  | case5 cur part next rest hpart hnone =>
    intro _ h
    cases h
  | case6 cur part next rest hpart hdir ih =>
    intro _ h
    simpa [walkFrom, hpart, hext _ _ hdir] using ih hdir h
  | case7 cur part next rest hpart n hn hsome =>
    intro _ h
    cases h

/-- A walk that ends in a directory goes on by one more name to the entry below it. -/
theorem walkFrom_append_name {d : Disk} {w v : Bool} {cur ps : List String} {path : List String}
    {w' : Bool} (h : d.walkFrom w cur ps = .ok ⟨path, some .directory, w'⟩) {name : String}
    (hname : name ≠ ".") :
    d.walkFrom v cur (ps ++ [name]) = .ok ⟨path ++ [name], d.node? (path ++ [name]), v⟩ := by
  revert h
  fun_induction d.walkFrom w cur ps with
  | case1 cur =>
    intro h
    cases h
    simp [walkFrom, hname]
  | case2 cur =>
    intro h
    cases h
    simp [walkFrom, hname]
  | case3 cur part hpart =>
    intro h
    simp only [Except.ok.injEq, Resolved.mk.injEq] at h
    obtain ⟨rfl, hdir, rfl⟩ := h
    simp [walkFrom, hpart, hname, hdir]
  | case4 cur next rest ih =>
    intro h
    simpa [walkFrom] using ih h
  | case5 cur part next rest hpart hnone =>
    intro h
    cases h
  | case6 cur part next rest hpart hdir ih =>
    intro h
    simpa [walkFrom, hpart, hdir] using ih h
  | case7 cur part next rest hpart n hn hsome =>
    intro h
    cases h

/-- A walk from a directory that finds nothing at its end stops inside a directory. -/
theorem walkFrom_parent {d : Disk} {w : Bool} {cur ps : List String} {r : Resolved}
    (hcur : d.node? cur = some .directory) (h : d.walkFrom w cur ps = .ok r)
    (hr : r.node = none) : d.node? r.path.dropLast = some .directory := by
  revert hcur h
  fun_induction d.walkFrom w cur ps with
  | case1 cur =>
    intro _ h
    cases h
    cases hr
  | case2 cur =>
    intro _ h
    cases h
    cases hr
  | case3 cur part hpart =>
    intro hcur h
    cases h
    simpa using hcur
  | case4 cur next rest ih => exact ih
  | case5 cur part next rest hpart hnone =>
    intro _ h
    cases h
  | case6 cur part next rest hpart hdir ih =>
    intro _ h
    exact ih hdir h
  | case7 cur part next rest hpart n hn hsome =>
    intro _ h
    cases h

theorem walk_eq {d : Disk} {path : String} (hpath : path ≠ "") :
    d.walk path = d.walkFrom (Path.hasTrailingSeparator path) [] ((Path.parts path).filter (· ≠ "")) := by
  have hempty : path.isEmpty = false := by
    cases he : path.isEmpty
    · rfl
    · exact absurd (String.isEmpty_iff.1 he) hpath
  simp [walk, hempty]

theorem ne_empty_of_walk {d : Disk} {path : String} {r : Resolved} (h : d.walk path = .ok r) :
    path ≠ "" := by
  rintro rfl
  simp [walk] at h

/-- A walk finds at its end what the disk holds there. -/
theorem walk_node {d : Disk} {path : String} {r : Resolved} (h : d.walk path = .ok r) :
    r.node = d.node? r.path := by
  rw [walk_eq (ne_empty_of_walk h)] at h
  exact walkFrom_node rfl h

/-- A disk that keeps every entry walks a path to the same place. -/
theorem walk_extends {d d' : Disk} (hext : d.Extends d') {path : String} {r : Resolved}
    (h : d.walk path = .ok r) : d'.walk path = .ok ⟨r.path, d'.node? r.path, r.wantsDirectory⟩ := by
  have hpath := ne_empty_of_walk h
  rw [walk_eq hpath] at h ⊢
  exact walkFrom_extends hext rfl h

/-- A walk that finds nothing at its end stops inside a directory. -/
theorem walk_parent {d : Disk} {path : String} {r : Resolved} (h : d.walk path = .ok r)
    (hr : r.node = none) : d.node? r.path.dropLast = some .directory := by
  rw [walk_eq (ne_empty_of_walk h)] at h
  exact walkFrom_parent rfl h hr

/-- From a directory, a plain name leads to the entry below it. -/
theorem walk_join {d : Disk} {path : String} {dir : List String} {w : Bool}
    (h : d.walk path = .ok ⟨dir, some .directory, w⟩) {name : String}
    (hname : Path.isPlainName name = true) :
    d.walk (Path.join path name) = .ok ⟨dir ++ [name], d.node? (dir ++ [name]), false⟩ := by
  have hpath := ne_empty_of_walk h
  rw [walk_eq hpath] at h
  rw [walk_eq (Path.join_ne_empty hname), Path.hasTrailingSeparator_join hname,
    Path.parts_join hpath hname]
  exact walkFrom_append_name h (Path.isPlainName_iff.1 hname).2.1

/-! ## Closed disks -/

/-- Every entry of the disk sits in a directory. -/
def Closed (d : Disk) : Prop :=
  ∀ e ∈ d.entries, d.node? e.1.dropLast = some .directory

/-- Below a path that names nothing, a closed disk holds nothing. -/
theorem not_prefix_of_node?_eq_none {d : Disk} (hc : d.Closed) {dir : List String}
    (hdir : d.node? dir = none) : ∀ e ∈ d.entries, ¬ dir <+: e.1 := by
  -- climb from the entry to `dir` through the directories that hold it
  suffices H : ∀ k (p : List String) (n : Node), (p, n) ∈ d.entries → p.length ≤ k →
      ¬ dir <+: p by
    intro e he
    exact H e.1.length e.1 e.2 he (Nat.le_refl _)
  intro k
  induction k with
  | zero =>
    intro p n hp hlen hpre
    have hnil : p = [] := List.eq_nil_of_length_eq_zero (Nat.le_zero.1 hlen)
    subst hnil
    rw [List.prefix_nil.1 hpre, node?_nil] at hdir
    cases hdir
  | succ k ih =>
    intro p n hp hlen hpre
    by_cases hsame : p = dir
    · subst hsame
      exact node?_ne_none_of_mem hp hdir
    · obtain ⟨t, rfl⟩ := hpre
      have ht : t ≠ [] := by
        rintro rfl
        exact hsame (List.append_nil dir)
      have hup := hc _ hp
      rw [List.dropLast_append_of_ne_nil ht] at hup
      by_cases hup_nil : dir ++ t.dropLast = []
      · rw [List.append_eq_nil_iff.1 hup_nil |>.1, node?_nil] at hdir
        cases hdir
      · have hmem := mem_entries_of_node? hup_nil hup
        have hshorter : (dir ++ t.dropLast).length ≤ k := by
          simp only [List.length_append, List.length_dropLast] at hlen ⊢
          have : 0 < t.length := List.length_pos_iff.2 ht
          omega
        exact ih _ _ hmem hshorter (List.prefix_append dir t.dropLast)

theorem Closed.addEntry {d : Disk} (hc : d.Closed) {p : List String}
    (hp : d.node? p.dropLast = some .directory) (n : Node) : (d.addEntry p n).Closed := by
  intro e he
  simp only [Disk.addEntry, List.mem_append, List.mem_singleton] at he
  rcases he with he | rfl
  · exact extends_addEntry d p n _ _ (hc e he)
  · exact extends_addEntry d p n _ _ hp

theorem Closed.setContent {d : Disk} (hc : d.Closed) (i : Nat) (b : Bytes) :
    (d.setContent i b).Closed := hc

theorem Closed.append {d : Disk} (hc : d.Closed) (i : Nat) (b : Bytes) : (d.append i b).Closed :=
  hc

theorem Closed.newInode {d : Disk} (hc : d.Closed) (b : Bytes) : (d.newInode b).2.Closed := hc

theorem Closed.makeDirectory {d d' : Disk} (hc : d.Closed) {path : String}
    (h : d.makeDirectory path = .ok d') : d'.Closed := by
  unfold Disk.makeDirectory at h
  match hw : d.walk path with
  | .error e =>
    rw [hw] at h
    cases h
  | .ok r =>
    rw [hw] at h
    simp only [bind, Except.bind] at h
    split at h
    · cases h
    · rename_i hnone
      cases h
      exact hc.addEntry (walk_parent hw hnone) _

theorem Closed.makeDirectoriesUpTo {d : Disk} (hc : d.Closed) {fuel : Nat} {path : String}
    {d' : Disk} (h : d.makeDirectoriesUpTo fuel path = .ok d') : d'.Closed := by
  induction fuel generalizing path d' with
  | zero => cases h
  | succ fuel ih =>
    -- every disk it returns is `d`, or one made from a closed disk by `makeDirectory`
    unfold Disk.makeDirectoriesUpTo at h
    split at h
    · cases h
      exact hc
    split at h
    · rename_i d₁ hmake
      cases h
      exact hc.makeDirectory hmake
    split at h
    · split at h
      · cases h
        exact hc
      · cases h
    split at h
    · cases h
    rename_i up _
    simp only [bind, Except.bind] at h
    split at h
    · cases h
    rename_i d₁ hup
    have hc₁ := ih hup
    split at h
    · rename_i d₂ hmake
      cases h
      exact hc₁.makeDirectory hmake
    · split at h
      · cases h
        exact hc₁
      · cases h

theorem Closed.makeDirectories {d : Disk} (hc : d.Closed) {path : String} {d' : Disk}
    (h : d.makeDirectories path = .ok d') : d'.Closed :=
  hc.makeDirectoriesUpTo h

/-- Making a directory where a walk finds nothing adds it there. -/
theorem makeDirectory_eq {d : Disk} {path : String} {r : Resolved} (hw : d.walk path = .ok r)
    (hr : r.node = none) : d.makeDirectory path = .ok (d.addEntry r.path .directory) := by
  simp [Disk.makeDirectory, hw, bind, Except.bind, hr]

/-- Opening for writing where a walk finds nothing, not asking for a directory, adds an
empty file there. -/
theorem openWrite_eq_new {d : Disk} {path : String} {r : Resolved} (hw : d.walk path = .ok r)
    (hr : r.node = none) (hwd : r.wantsDirectory = false) (truncate : Bool) :
    d.openWrite path truncate =
      .ok (d.inodes.length, (d.newInode []).2.addEntry r.path (.file d.inodes.length)) := by
  simp [Disk.openWrite, hw, bind, Except.bind, hr, hwd, Disk.newInode]

end Disk

end ShardDump
