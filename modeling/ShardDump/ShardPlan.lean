/-!
# Shard plans

A plan splits `total` records over `count` shards: every shard takes `total / count`
records and the last one also takes the remainder `total % count`. Shards past the last
take none. A plan needs at least one shard.
-/

namespace ShardDump

/-- How many records each shard of a dump receives. -/
structure ShardPlan where
  /-- The number of records to split. -/
  total : Nat
  /-- The number of shards, at least one. -/
  count : Nat
  count_pos : 0 < count

namespace ShardPlan

/-- The plan for `total` records over `count` shards; `none` when `count` is zero. -/
def make? (total count : Nat) : Option ShardPlan :=
  if h : 0 < count then some ⟨total, count, h⟩ else none

/-- The records every shard takes. -/
def perShard (p : ShardPlan) : Nat := p.total / p.count

/-- The records left over, which the last shard takes as well. -/
def extra (p : ShardPlan) : Nat := p.total % p.count

/-- The number of records of shard `i`. -/
def sizeOf (p : ShardPlan) (i : Nat) : Nat :=
  if p.count ≤ i then 0
  else if i = p.count - 1 then p.perShard + p.extra
  else p.perShard

/-- The sizes of shards `0` to `count - 1`, in order. -/
def sizes (p : ShardPlan) : List Nat :=
  (List.range p.count).map p.sizeOf

@[simp] theorem length_sizes (p : ShardPlan) : p.sizes.length = p.count := by
  simp [sizes]

end ShardPlan

end ShardDump
