import ShardDump.Cli.Commands

/-!
# The `vd` program

The command line runs `runLine` on an image of the files it needs, then writes back what
an export created. The image is taken by reading: each path the command names is read
as a file, and the error of reading tells a directory (`EISDIR`) and a socket (`ENXIO`)
from a missing path. The shards that `inspect` lists are the directories `root/0`,
`root/1`, … up to the first number that names nothing.
-/

namespace ShardDump

namespace Program

/-- What a path names. -/
inductive Found where
  | file (bytes : Bytes)
  | directory
  | socket
  | absent

/-- The system error number of a failed read, when it has one. -/
def errorNumber : IO.Error → Option UInt32
  | .inappropriateType _ code _ => some code
  | .noSuchThing _ code _ => some code
  | .noFileOrDirectory _ code _ => some code
  | .otherError code _ => some code
  | .permissionDenied _ code _ => some code
  | _ => none

/-- Finds what a path names by reading it. -/
def probe (path : String) : IO Found := do
  try
    let bytes ← IO.FS.readBinFile path
    pure (.file bytes.toList)
  catch e =>
    match errorNumber e with
    | some 21 => pure .directory
    | some 6 => pure .socket
    | _ => pure .absent

/-- Adds what a path names to the image. -/
def place (d : Disk) (path : String) : Found → Disk
  | .absent => d
  | .directory => (d.makeDirectories path).toOption.getD d
  | .file bytes =>
    let d := ((Path.parent path).bind fun up => (d.makeDirectories up).toOption).getD d
    (d.writeFile path bytes).toOption.getD d
  | .socket =>
    let d := ((Path.parent path).bind fun up => (d.makeDirectories up).toOption).getD d
    (d.bindSocket path).toOption.getD d

/-- The three files of a shard directory. -/
def shardPaths (root : String) (shard : Nat) : List String :=
  let f := ShardFiles.ofShard root shard
  [f.ids, f.vectors, f.metas]

/-- Adds the paths to the image. -/
def load (d : Disk) (paths : List String) : IO Disk :=
  paths.foldlM (fun d p => do pure (place d p (← probe p))) d

/-- Adds the shard directories `root/shard` onwards, up to the first number that names
nothing. -/
partial def loadShards (d : Disk) (root : String) (shard : Nat) : IO Disk := do
  let dir := shardDir root shard
  match ← probe dir with
  | .absent => pure d
  | found =>
    let d ← load (place d dir found) (shardPaths root shard)
    loadShards d root (shard + 1)

/-- The image of the files a command line needs. -/
def image (words : List String) : IO Disk := do
  match Invocation.parse words with
  | .error _ => pure {}
  | .ok inv =>
    let d ← load {} (match inv.config with
      | some path => [path]
      | none => Settings.searchPaths)
    match inv.command with
    | .exportDump input root _ => load d [input, root]
    | .importShard root shard _ => load d ([root, shardDir root shard] ++ shardPaths root shard)
    | .inspectDump root _ => do loadShards (← load d [root]) root 0

/-- Writes the directories and files that an export created below its root. -/
def writeBack (before after : Disk) (root : String) : IO Unit := do
  let top := Path.components root
  for (names, node) in after.entries do
    if top.isPrefixOf names && (before.entries.lookup names).isNone then
      let path := Path.join root ("/".intercalate (names.drop top.length))
      match node with
      | .directory => IO.FS.createDirAll path
      | .file i => IO.FS.writeBinFile path ⟨(after.content i).toArray⟩
      | .socket => pure ()

end Program

end ShardDump

/-- Runs `vd` with the program's arguments in the working directory. -/
def main (args : List String) : IO UInt32 := do
  let before ← ShardDump.Program.image args
  let outcome := ShardDump.runLine before args
  IO.print outcome.stdout
  IO.eprint outcome.stderr
  if let .ok inv := ShardDump.Invocation.parse args then
    if let .exportDump _ root _ := inv.command then
      ShardDump.Program.writeBack before outcome.disk root
  pure outcome.status.toUInt32
