import ShardDump.Bytes
import ShardDump.IoError
import ShardDump.Disk.Path

/-!
# Disks

A disk is a tree of directories, files and sockets below one top directory, kept flat:
each entry is listed under its path from the top, as a list of names. A file entry
points to an inode that holds the file's bytes, so that a file opened before its path
is removed can still be read to its end.

Paths are followed as the operating system follows them: components are separated by
slashes, empty components and single dots stay in place, every component on the way must
be a directory, and a path that ends in a slash or a dot must name a directory.
Operations fail with the error numbers the system gives for each case.
-/

namespace ShardDump

/-- What a path of the disk names. -/
inductive Node where
  | directory
  | file (inode : Nat)
  | socket
  deriving DecidableEq, Repr

/-- A disk below its top directory. -/
structure Disk where
  /-- Every entry below the top, by its path of names. -/
  entries : List (List String × Node) := []
  /-- The bytes of each file, by inode number. -/
  inodes : List Bytes := []

/-- An open file: its inode, or a directory, which cannot be read. -/
inductive Handle where
  | file (inode : Nat)
  | directory
  deriving DecidableEq, Repr

/-- Where a path leads: the names of its entry, the entry if present (its directory
is), and whether the text asks for a directory. -/
structure Resolved where
  path : List String
  node : Option Node
  wantsDirectory : Bool

namespace Disk

/-- The entry at a path of names; the empty path is the top directory. -/
def node? (d : Disk) (path : List String) : Option Node :=
  if path.isEmpty then some .directory else (d.entries.lookup path)

/-- The bytes of an inode. -/
def content (d : Disk) (inode : Nat) : Bytes := d.inodes.getD inode []

/-- Follows the components of a path from `cur`. -/
def walkFrom (d : Disk) (wantsDirectory : Bool) (cur : List String) :
    List String → Except Errno Resolved
  | [] => .ok ⟨cur, some .directory, wantsDirectory⟩
  | part :: rest =>
    match rest with
    | [] =>
      if part = "." then .ok ⟨cur, some .directory, true⟩
      else .ok ⟨cur ++ [part], d.node? (cur ++ [part]), wantsDirectory⟩
    | _ :: _ =>
      if part = "." then walkFrom d wantsDirectory cur rest
      else
        match d.node? (cur ++ [part]) with
        | none => .error .noEntry
        | some .directory => walkFrom d wantsDirectory (cur ++ [part]) rest
        | some _ => .error .notADirectory

/-- Follows a path from the top directory. The empty path names nothing. -/
def walk (d : Disk) (path : String) : Except Errno Resolved :=
  if path.isEmpty then .error .noEntry
  else walkFrom d (Path.hasTrailingSeparator path) [] ((Path.parts path).filter (· ≠ ""))

/-- The entry a path names. -/
def stat (d : Disk) (path : String) : Except Errno Node := do
  let r ← d.walk path
  match r.node with
  | none => .error .noEntry
  | some .directory => .ok .directory
  | some n => if r.wantsDirectory then .error .notADirectory else .ok n

/-- Whether a path names an entry. -/
def present (d : Disk) (path : String) : Bool :=
  match d.stat path with
  | .ok _ => true
  | .error _ => false

/-- Whether a path names a directory. -/
def isDirectory (d : Disk) (path : String) : Bool :=
  match d.stat path with
  | .ok .directory => true
  | _ => false

/-- Adds an entry. -/
def addEntry (d : Disk) (path : List String) (n : Node) : Disk :=
  { d with entries := d.entries ++ [(path, n)] }

/-- Removes the entry at a path, and everything below it. -/
def removeEntries (d : Disk) (path : List String) : Disk :=
  { d with entries := d.entries.filter fun e => !(path.isPrefixOf e.1) }

/-- Creates a directory. -/
def makeDirectory (d : Disk) (path : String) : Except Errno Disk := do
  let r ← d.walk path
  match r.node with
  | some _ => .error .fileExists
  | none => .ok (d.addEntry r.path .directory)

/-- Creates a directory and its missing parents, trying the path itself first; a path
that turns out to be a directory already is fine. At most `fuel` levels are climbed. -/
def makeDirectoriesUpTo (d : Disk) : Nat → String → Except IoError Disk
  | 0, _ => .error (.custom .uncategorized "failed to create whole tree")
  | fuel + 1, path =>
    if path.isEmpty then .ok d
    else
      match d.makeDirectory path with
      | .ok d' => .ok d'
      | .error e =>
        if e ≠ .noEntry then
          if d.isDirectory path then .ok d else .error (.os e)
        else
          match Path.parent path with
          | none => .error (.custom .uncategorized "failed to create whole tree")
          | some up => do
            let d' ← d.makeDirectoriesUpTo fuel up
            match d'.makeDirectory path with
            | .ok d'' => .ok d''
            | .error e' => if d'.isDirectory path then .ok d' else .error (.os e')

/-- Creates a directory and its missing parents. -/
def makeDirectories (d : Disk) (path : String) : Except IoError Disk :=
  d.makeDirectoriesUpTo (path.length + 1) path

/-- A new inode holding `bytes`, and its number. -/
def newInode (d : Disk) (bytes : Bytes) : Nat × Disk :=
  (d.inodes.length, { d with inodes := d.inodes ++ [bytes] })

/-- Replaces the bytes of an inode. -/
def setContent (d : Disk) (inode : Nat) (bytes : Bytes) : Disk :=
  { d with inodes := d.inodes.set inode bytes }

/-- Appends bytes to a file. -/
def append (d : Disk) (inode : Nat) (bytes : Bytes) : Disk :=
  d.setContent inode (d.content inode ++ bytes)

/-- Opens a path for writing, creating a missing file; an existing file is emptied
when `truncate` is set. -/
def openWrite (d : Disk) (path : String) (truncate : Bool) : Except Errno (Nat × Disk) := do
  let r ← d.walk path
  match r.node with
  | some .directory => .error .isADirectory
  | some .socket => if r.wantsDirectory then .error .notADirectory else .error .noDeviceOrAddress
  | some (.file i) =>
    if r.wantsDirectory then .error .notADirectory
    else .ok (i, if truncate then d.setContent i [] else d)
  | none =>
    if r.wantsDirectory then .error .isADirectory
    else
      let (i, d') := d.newInode []
      .ok (i, d'.addEntry r.path (.file i))

/-- Opens an existing path for writing without creating or emptying it. -/
def openExisting (d : Disk) (path : String) : Except Errno Nat := do
  let r ← d.walk path
  match r.node with
  | none => .error .noEntry
  | some .directory => .error .isADirectory
  | some .socket => if r.wantsDirectory then .error .notADirectory else .error .noDeviceOrAddress
  | some (.file i) => if r.wantsDirectory then .error .notADirectory else .ok i

/-- Opens a path for reading. A directory opens, but cannot be read; a socket does
not open. -/
def openRead (d : Disk) (path : String) : Except Errno Handle := do
  let r ← d.walk path
  match r.node with
  | none => .error .noEntry
  | some .directory => .ok .directory
  | some .socket => if r.wantsDirectory then .error .notADirectory else .error .noDeviceOrAddress
  | some (.file i) => if r.wantsDirectory then .error .notADirectory else .ok (.file i)

/-- One read at `offset` of an open file, of at most `want` bytes. -/
def readAt (d : Disk) (h : Handle) (offset want : Nat) : Except Errno Bytes :=
  match h with
  | .directory => .error .isADirectory
  | .file i => .ok (((d.content i).drop offset).take want)

/-- The whole of an open file. -/
def readAll (d : Disk) (h : Handle) : Except Errno Bytes :=
  match h with
  | .directory => .error .isADirectory
  | .file i => .ok (d.content i)

/-- The names and entries directly inside a directory. -/
def children (d : Disk) (dir : List String) : List (String × Node) :=
  d.entries.filterMap fun e =>
    match e.1.reverse with
    | name :: up => if up.reverse = dir then some (name, e.2) else none
    | [] => none

/-- The entries of a directory, as paths joined to the directory's text. -/
def listDirectory (d : Disk) (path : String) : Except Errno (List (String × Node)) := do
  let r ← d.walk path
  match r.node with
  | none => .error .noEntry
  | some .directory => .ok (d.children r.path)
  | some _ => .error .notADirectory

/-- Removes a file or socket. -/
def removeFile (d : Disk) (path : String) : Except Errno Disk := do
  let r ← d.walk path
  match r.node with
  | none => .error .noEntry
  | some .directory => .error .isADirectory
  | some _ => if r.wantsDirectory then .error .notADirectory else .ok (d.removeEntries r.path)

/-- Removes a directory with everything below it. -/
def removeTree (d : Disk) (path : String) : Except Errno Disk := do
  let r ← d.walk path
  match r.node with
  | none => .error .noEntry
  | some .directory => .ok (d.removeEntries r.path)
  | some _ => .error .notADirectory

/-- Leaves a socket at a missing path. -/
def bindSocket (d : Disk) (path : String) : Except Errno Disk := do
  let r ← d.walk path
  match r.node with
  | some _ => .error .addressInUse
  | none => .ok (d.addEntry r.path .socket)

/-- Every entry below a directory, by its path relative to it. -/
def below (d : Disk) (dir : List String) : List (List String × Node) :=
  d.entries.filterMap fun e =>
    if dir.isPrefixOf e.1 ∧ e.1.length > dir.length then some (e.1.drop dir.length, e.2)
    else none

end Disk

end ShardDump
