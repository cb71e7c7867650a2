import ShardDump.Disk.BufferedReader
import ShardDump.DumpError

/-!
# Readers of a shard

A reader yields the items of one file, or of the three files of a shard, one pull at a
time: an item, an error, or `none` at the end. Readers are fused: after the end, and
after an error, every pull gives `none`. The disk is passed to each pull, so a reader
sees the disk as it is when it pulls, through the buffer it holds.

`Reader.bound` is more than the number of pulls that can still give something, which
makes loops over a reader's items total.
-/

namespace ShardDump

/-- What one pull gives: an item, an error, or `none` at the end. -/
abbrev Pull (α : Type) := Option (Except DumpError α)

/-- A fused reader of items of type `α`. -/
class Reader (ρ : Type) (α : outParam Type) where
  /-- Pulls the next item. -/
  next : Disk → ρ → Pull α × ρ
  /-- More than the number of pulls that can still give something. -/
  bound : Disk → ρ → Nat

namespace Reader

variable {ρ α : Type} [Reader ρ α]

/-- Pulls for at most `fuel` items: the items before the end or the first error, and
that error. -/
def collectUpTo (d : Disk) : Nat → ρ → List α × Option DumpError × ρ
  | 0, r => ([], none, r)
  | fuel + 1, r =>
    match next d r with
    | (none, r') => ([], none, r')
    | (some (.error e), r') => ([], some e, r')
    | (some (.ok x), r') =>
      let (xs, e, r'') := collectUpTo d fuel r'
      (x :: xs, e, r'')

/-- The items of a reader before its end or its first error, and that error. -/
def collect (d : Disk) (r : ρ) : List α × Option DumpError × ρ :=
  collectUpTo d (bound d r) r

end Reader

end ShardDump
