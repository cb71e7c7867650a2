import ShardDump.Proofs.ExportRun

/-!
# What an export settles before it writes

Before it touches the disk or the source, an export checks that its root does not exist and
plans how many records each shard takes.

A plan exists exactly when there is a shard. It gives every shard but the last
`total / count` records and the last one the remainder as well, so the shards before shard
`j` take `j * (total / count)` records and all of them take the total (`ShardPlan.SizeLaw`,
`make?_sizes_law`). No size and no partial sum exceeds the total, so none overflows a machine
word that holds the total, however close to the word's limit it is and however many shards
there are.

A root that exists, whatever it is, and a plan without shards are refused first: the refused
export pulls nothing from the source and leaves the disk as it was, down to the missing
parents of the root (`rejected_export_changes_nothing`).
-/

namespace ShardDump

/-! ## Shard sizes -/

namespace ShardPlan

variable (p : ShardPlan)

theorem make?_zero (t : Nat) : make? t 0 = none := rfl

/-- Shards before the last take the share of every shard. -/
theorem sizeOf_of_lt_last {s : Nat} (hs : s + 1 < p.count) : p.sizeOf s = p.perShard := by
  rw [sizeOf, if_neg (by omega), if_neg (by omega)]

/-- The last shard takes the share and the remainder. -/
theorem sizeOf_last : p.sizeOf (p.count - 1) = p.perShard + p.extra := by
  have := p.count_pos
  rw [sizeOf, if_neg (by omega), if_pos rfl]

/-- Shards past the last take nothing. -/
theorem sizeOf_of_count_le {s : Nat} (hs : p.count ≤ s) : p.sizeOf s = 0 := by
  rw [sizeOf, if_pos hs]

/-- The last shard takes no more than the total: the shares of all shards and the remainder
make up the total, and there is at least one share. -/
theorem perShard_add_extra_le : p.perShard + p.extra ≤ p.total := by
  have hsplit : p.count * p.perShard + p.extra = p.total := Nat.div_add_mod p.total p.count
  have hshare : p.perShard ≤ p.count * p.perShard := Nat.le_mul_of_pos_left _ p.count_pos
  omega

/-- At most `count` shares add up to no more than the total. -/
theorem mul_perShard_le {j : Nat} (hj : j ≤ p.count) : j * p.perShard ≤ p.total :=
  calc j * p.perShard
      ≤ p.count * p.perShard := Nat.mul_le_mul_right _ hj
    _ ≤ p.total := Nat.mul_div_le p.total p.count

/-- How a plan sizes its shards: the list of sizes has one entry per shard, every shard but
the last takes the share `total / count`, the last one the remainder as well and no more than
the total, shards past the last take nothing, the shards before shard `j` take `j` shares,
and all shards take the total. -/
structure SizeLaw (p : ShardPlan) : Prop where
  sizes : p.sizes.length = p.count ∧ ∀ i (h : i < p.sizes.length), p.sizes[i] = p.sizeOf i
  share : ∀ s, s + 1 < p.count → p.sizeOf s = p.total / p.count
  last : p.sizeOf (p.count - 1) = p.total / p.count + p.total % p.count
  last_le : p.total / p.count + p.total % p.count ≤ p.total
  past : ∀ s, p.count ≤ s → p.sizeOf s = 0
  before : ∀ j, j + 1 ≤ p.count →
    ((List.range j).map p.sizeOf).foldr (· + ·) 0 = j * (p.total / p.count) ∧
      j * (p.total / p.count) ≤ p.total
  total : p.sizes.foldr (· + ·) 0 = p.total

theorem sizeLaw : p.SizeLaw where
  sizes := ⟨p.length_sizes, fun i h => by simp [sizes]⟩
  share _ hs := p.sizeOf_of_lt_last hs
  last := p.sizeOf_last
  last_le := p.perShard_add_extra_le
  past _ hs := p.sizeOf_of_count_le hs
  before j hj := by
    -- the shards before `j` all come before the last one
    rw [foldr_add_map_range, p.offset_sizeOf (by omega), if_pos (by omega)]
    exact ⟨rfl, p.mul_perShard_le (by omega)⟩
  total := by rw [sizes, foldr_add_map_range, p.offset_sizeOf_count]

end ShardPlan

/-- Planning `t` records over `n` shards: there is no plan without a shard, and with one or
more shards the plan of `t` over `n` sizes its shards by the law. -/
theorem make?_sizes_law (t : Nat) :
    ShardPlan.make? t 0 = none ∧
      ∀ n, 0 < n → ∃ p : ShardPlan, ShardPlan.make? t n = some p ∧ p.total = t ∧
        p.count = n ∧ p.SizeLaw :=
  ⟨ShardPlan.make?_zero t, fun _ hn => ⟨_, ShardPlan.make?_of_pos hn, rfl, rfl, ShardPlan.sizeLaw _⟩⟩

/-- Two records over four shards: the first three shards are empty and the last takes both. -/
theorem make?_sizes_law_two_over_four :
    0 < 4 ∧ ∃ p : ShardPlan, ShardPlan.make? 2 4 = some p ∧ p.total = 2 ∧ p.count = 4 ∧
      p.SizeLaw :=
  ⟨by decide, (make?_sizes_law 2).2 4 (by decide)⟩

example : (ShardPlan.make? 2 4).map ShardPlan.sizes = some [0, 0, 0, 2] := by decide

/-! ## Refused exports -/

open ExportM

/-- An export into a root that exists fails at once: it pulls nothing and leaves the disk
as it was. -/
theorem runExport_of_present {d : Disk} {root : String} (hpresent : d.present root = true)
    (n t : Nat) (S : List SourceItem) :
    runExport d root n t S = ⟨.error (.pathExists root), d, 0⟩ := by
  unfold runExport exportDump
  simp only [run_bind, run_get, hpresent, ↓reduceIte, run_throw]

/-- An export without shards into a root that does not exist fails before it makes the root
or any of its parents: it pulls nothing and leaves the disk as it was. -/
theorem runExport_of_zero_shards {d : Disk} {root : String} (hpresent : d.present root = false)
    (t : Nat) (S : List SourceItem) :
    runExport d root 0 t S = ⟨.error .invalidShardCount, d, 0⟩ := by
  unfold runExport exportDump
  simp only [run_bind, run_get, hpresent, Bool.false_eq_true, ↓reduceIte,
    ShardPlan.make?_zero, run_throw]

/-- A refused export changes nothing. Into a root that exists (a file, a socket, or a
directory with anything in it), any export fails with the root's path, whatever the shard
count, the size and the source; with no shards, an export into a root that does not exist
fails for the shard count. Either way it pulls no item and leaves the disk as it was. A
request to dump a collection runs the same export over the collection's records. -/
theorem rejected_export_changes_nothing (d : Disk) (root : String) (n t : Nat)
    (S : List SourceItem) :
    (d.present root = true → runExport d root n t S = ⟨.error (.pathExists root), d, 0⟩) ∧
      (d.present root = false → n = 0 →
        runExport d root n t S = ⟨.error .invalidShardCount, d, 0⟩) ∧
      ∀ (q : DumpRequest) (size : Nat) (rs : List Record),
        q.execute d size rs = runExport d q.path q.shards size (rs.map .ok) := by
  refine ⟨fun h => runExport_of_present h n t S, ?_, fun _ _ _ => rfl⟩
  rintro h rfl
  exact runExport_of_zero_shards h t S

/-- A file in the root's place, and a missing root under a missing parent with no shards:
both exports are refused and change nothing. -/
theorem rejected_export_changes_nothing_file_and_no_shards :
    let d : Disk := ⟨[(["dump"], .file 0)], [[120]]⟩
    d.present "dump" = true ∧
      runExport d "dump" 2 3 [.error "unread"] = ⟨.error (.pathExists "dump"), d, 0⟩ ∧
      ({} : Disk).present "a/dump" = false ∧
      runExport {} "a/dump" 0 3 [.error "unread"] = ⟨.error .invalidShardCount, {}, 0⟩ :=
  ⟨by decide +kernel,
    (rejected_export_changes_nothing ⟨[(["dump"], .file 0)], [[120]]⟩ "dump" 2 3 _).1
      (by decide +kernel),
    by decide +kernel,
    (rejected_export_changes_nothing {} "a/dump" 0 3 _).2.1 (by decide +kernel) rfl⟩

end ShardDump
