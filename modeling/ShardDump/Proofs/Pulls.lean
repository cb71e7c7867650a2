import ShardDump.Reader.Basic

/-!
# What a reader yields

`Reader.pullAt d r k` is what the `k + 1`-th pull of a reader gives, and `Reader.advance d r k`
is the reader after `k` pulls. `Reader.Drains d r xs e` says that the reader gives the items
`xs` and then ends: cleanly when `e` is `none`, with the error `e` otherwise. A run is
determined by the reader (`Drains.unique`).

A reader is `Reader.Lawful` when its `bound` is positive and drops with every item it gives.
For such a reader `collect` drains it: it returns exactly the items before the end or the
first error, and that error (`collect_drains`).
-/

namespace ShardDump

/-- Whether a pull gave an item. -/
def Pull.isItem {α : Type} : Pull α → Bool
  | some (.ok _) => true
  | _ => false

/-- The pull that shows how a run ended: the end itself, or the error. -/
def Pull.ofEnding {α : Type} : Option DumpError → Pull α
  | none => none
  | some e => some (.error e)

@[simp] theorem Pull.isItem_ok {α : Type} (x : α) : Pull.isItem (some (.ok x)) = true := rfl

@[simp] theorem Pull.ofEnding_none {α : Type} : (Pull.ofEnding none : Pull α) = none := rfl

@[simp] theorem Pull.ofEnding_some {α : Type} (e : DumpError) :
    (Pull.ofEnding (some e) : Pull α) = some (.error e) := rfl

@[simp] theorem Pull.isItem_ofEnding {α : Type} (e : Option DumpError) :
    (Pull.ofEnding e : Pull α).isItem = false := by
  cases e <;> rfl

namespace Reader

variable {ρ α : Type} [Reader ρ α]

/-! ## Pulls one at a time -/

/-- What the `k + 1`-th pull of the reader gives. -/
def pullAt (d : Disk) (r : ρ) : Nat → Pull α
  | 0 => (next d r).1
  | k + 1 => pullAt d (next d r).2 k

/-- The reader after `k` pulls. -/
def advance (d : Disk) (r : ρ) : Nat → ρ
  | 0 => r
  | k + 1 => advance d (next d r).2 k

@[simp] theorem pullAt_zero (d : Disk) (r : ρ) : pullAt d r 0 = (next d r).1 := rfl

@[simp] theorem pullAt_succ (d : Disk) (r : ρ) (k : Nat) :
    pullAt d r (k + 1) = pullAt d (next d r).2 k := rfl

@[simp] theorem advance_zero (d : Disk) (r : ρ) : advance d r 0 = r := rfl

@[simp] theorem advance_succ (d : Disk) (r : ρ) (k : Nat) :
    advance d r (k + 1) = advance d (next d r).2 k := rfl

/-! ## Whole runs -/

/-- The reader gives the items `xs` and then ends: cleanly when `e` is `none`, with the
error `e` otherwise. -/
inductive Drains (d : Disk) : ρ → List α → Option DumpError → Prop
  | done {r r' : ρ} : next d r = (none, r') → Drains d r [] none
  | fail {r r' : ρ} {e : DumpError} : next d r = (some (.error e), r') → Drains d r [] (some e)
  | item {r r' : ρ} {x : α} {xs : List α} {e : Option DumpError} :
      next d r = (some (.ok x), r') → Drains d r' xs e → Drains d r (x :: xs) e

/-- A reader that gives nothing more first ends as its first pull says. -/
theorem drains_nil_iff {d : Disk} {r : ρ} {e : Option DumpError} :
    Drains d r [] e ↔ (next d r).1 = Pull.ofEnding e := by
  match hn : next d r with
  | (p, r') =>
    constructor
    · rintro (⟨h⟩ | ⟨h⟩)
      · rw [hn] at h
        cases h
        rfl
      · rw [hn] at h
        cases h
        rfl
    · intro h
      subst h
      cases e with
      | none => exact .done hn
      | some e => exact .fail hn

/-- A run that starts with an item starts with a pull that gives it. -/
theorem drains_cons_iff {d : Disk} {r : ρ} {x : α} {xs : List α} {e : Option DumpError} :
    Drains d r (x :: xs) e ↔ (next d r).1 = some (.ok x) ∧ Drains d (next d r).2 xs e := by
  constructor
  · intro h
    cases h with
    | item hn hs =>
      rw [hn]
      exact ⟨rfl, hs⟩
  · rintro ⟨h, hs⟩
    exact .item (by rw [← h]) hs

/-- A reader has one run: its items and its end are determined. -/
theorem Drains.unique {d : Disk} {r : ρ} {xs ys : List α} {e e' : Option DumpError}
    (h : Drains d r xs e) (h' : Drains d r ys e') : xs = ys ∧ e = e' := by
  induction h generalizing ys with
  | done hn =>
    cases h' with
    | done _ => exact ⟨rfl, rfl⟩
    | fail hn' => simp [hn] at hn'
    | item hn' _ => simp [hn] at hn'
  | fail hn =>
    cases h' with
    | done hn' => simp [hn] at hn'
    | fail hn' =>
      rw [hn] at hn'
      cases hn'
      exact ⟨rfl, rfl⟩
    | item hn' _ => simp [hn] at hn'
  | item hn _ ih =>
    cases h' with
    | done hn' => simp [hn] at hn'
    | fail hn' => simp [hn] at hn'
    | item hn' hs' =>
      rw [hn] at hn'
      cases hn'
      obtain ⟨rfl, rfl⟩ := ih hs'
      exact ⟨rfl, rfl⟩

/-! ## Readers whose runs end -/

/-- A reader whose `bound` is positive and drops with every item it gives. -/
class Lawful (ρ : Type) (α : outParam Type) [Reader ρ α] : Prop where
  bound_pos : ∀ (d : Disk) (r : ρ), 0 < bound d r
  bound_lt_of_item : ∀ {d : Disk} {r r' : ρ} {x : α},
    next d r = (some (.ok x), r') → bound d r' < bound d r

/-- With fuel above the bound, `collectUpTo` drains the reader. -/
theorem collectUpTo_drains [Lawful ρ α] {d : Disk} {r : ρ} {fuel : Nat}
    (h : bound d r ≤ fuel) :
    Drains d r (collectUpTo d fuel r).1 (collectUpTo d fuel r).2.1 := by
  induction fuel generalizing r with
  | zero => exact absurd h (Nat.not_le.2 (Lawful.bound_pos d r))
  | succ fuel ih =>
    -- one pull, split on what it gave; an item leaves a bound below the fuel that is left
    unfold collectUpTo
    match hn : next d r with
    | (none, r') => exact .done hn
    | (some (.error e), r') => exact .fail hn
    | (some (.ok x), r') =>
      have hlt := Lawful.bound_lt_of_item hn
      exact .item hn (ih (by omega))

/-- `collect` drains a lawful reader. -/
theorem collect_drains [Lawful ρ α] (d : Disk) (r : ρ) :
    Drains d r (collect d r).1 (collect d r).2.1 :=
  collectUpTo_drains (Nat.le_refl _)

/-- The run of a lawful reader is the one `collect` finds. -/
theorem collect_eq_of_drains [Lawful ρ α] {d : Disk} {r : ρ} {xs : List α}
    {e : Option DumpError} (h : Drains d r xs e) :
    (collect d r).1 = xs ∧ (collect d r).2.1 = e :=
  (collect_drains d r).unique h

end Reader

end ShardDump
