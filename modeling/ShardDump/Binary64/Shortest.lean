import ShardDump.Binary64.Basic

/-!
# Shortest decimals

The reals that round to a finite binary64 value form an interval around it: from halfway
to the next value below to halfway to the next value above, the ends included exactly
when `m` is even. `Binary64.shortest` returns the decimal with the fewest significant
digits in that interval, and of two such the one nearer the value; an exact tie is settled
by a `TieBreak`, to the even last digit or away from zero, as the format asks. It tries
grids of 1, 2, … 17 significant digits, testing on each the two grid points next to the
value, compared by exact arithmetic on naturals.
-/

namespace ShardDump

namespace Binary64

/-- How an exact tie between the two nearest shortest decimals is settled. -/
inductive TieBreak where
  /-- The one whose last digit is even. -/
  | toEven
  /-- The one of larger magnitude. -/
  | toAway
  deriving DecidableEq, Repr

/-- The decimal `digits * 10 ^ exp`. -/
structure Decimal where
  digits : Nat
  exp : Int
  deriving DecidableEq, Repr

/-- Compares `a * 10 ^ i` with `n * 2 ^ j`, exactly. -/
def cmpScaled (a : Nat) (i : Int) (n : Nat) (j : Int) : Ordering :=
  compare (a * Nat.pow 10 i.toNat * Nat.pow 2 (-j).toNat) (n * Nat.pow 2 j.toNat * Nat.pow 10 (-i).toNat)

/-- Whether the decimal rounds to the value of magnitude `x`. -/
def Magnitude.readsBack (x : Magnitude) (d : Decimal) : Bool :=
  let lo := if x.narrowBelow then 4 * x.m - 1 else 4 * x.m - 2
  let hi := 4 * x.m + 2
  let incl := x.m % 2 == 0
  let cl := cmpScaled d.digits d.exp lo (x.q - 2)
  let ch := cmpScaled d.digits d.exp hi (x.q - 2)
  (cl == .gt || (incl && cl == .eq)) && (ch == .lt || (incl && ch == .eq))

/-- Whether `m * 2 ^ q < 10 ^ k`. -/
def belowPowerOfTen (x : Magnitude) (k : Int) : Bool :=
  cmpScaled 1 k x.m x.q == .gt

/-- Raises `k` until `m * 2 ^ q < 10 ^ k`, for at most `fuel` steps. -/
def scaleUp (x : Magnitude) : Nat → Int → Int
  | 0, k => k
  | fuel + 1, k => if belowPowerOfTen x k then k else scaleUp x fuel (k + 1)

/-- Lowers `k` while `m * 2 ^ q < 10 ^ (k - 1)`, for at most `fuel` steps. -/
def scaleDown (x : Magnitude) : Nat → Int → Int
  | 0, k => k
  | fuel + 1, k => if belowPowerOfTen x (k - 1) then scaleDown x fuel (k - 1) else k

/-- The least `k` with `m * 2 ^ q < 10 ^ k`, for a non-zero magnitude: estimated from
the binary logarithm, then corrected by exact comparisons. -/
def Magnitude.scale (x : Magnitude) : Int :=
  let bits : Int := x.q + (Nat.log2 x.m : Int) + 1
  let estimate := bits * 30103 / 100000
  scaleDown x 8 (scaleUp x 8 estimate)

/-- `⌊m * 2 ^ q / 10 ^ g⌋`. -/
def Magnitude.floorAt (x : Magnitude) (g : Int) : Nat :=
  (x.m * Nat.pow 2 x.q.toNat * Nat.pow 10 (-g).toNat) / (Nat.pow 2 (-x.q).toNat * Nat.pow 10 g.toNat)

/-- The decimal on the grid `10 ^ g` that reads back, if one of the value's two
neighbours on it does; of two, the nearer, and on a tie the one `tie` names. -/
def Magnitude.onGrid (tie : TieBreak) (x : Magnitude) (g : Int) : Option Decimal :=
  let t := x.floorAt g
  let lower : Decimal := ⟨t, g⟩
  let upper : Decimal := ⟨t + 1, g⟩
  match x.readsBack lower, x.readsBack upper with
  | false, false => none
  | true, false => some lower
  | false, true => some upper
  | true, true =>
    -- compare twice the value with the sum of the two neighbours
    match cmpScaled (2 * t + 1) g (2 * x.m) x.q with
    | .gt => some lower
    | .lt => some upper
    | .eq =>
      match tie with
      | .toEven => if t % 2 = 0 then some lower else some upper
      | .toAway => some upper

/-- Moves trailing zeros of the digits into the exponent, for at most `fuel` zeros. -/
def Decimal.strip : Nat → Decimal → Decimal
  | 0, d => d
  | fuel + 1, d =>
    if d.digits ≠ 0 ∧ d.digits % 10 = 0 then Decimal.strip fuel ⟨d.digits / 10, d.exp + 1⟩ else d

/-- The exact decimal value of `m * 2 ^ q`. -/
def Magnitude.exact (x : Magnitude) : Decimal :=
  if 0 ≤ x.q then ⟨x.m * Nat.pow 2 x.q.toNat, 0⟩ else ⟨x.m * Nat.pow 5 (-x.q).toNat, x.q⟩

/-- The most significant digits a binary64 value needs. -/
def maxDigits : Nat := 17

/-- The shortest decimal that reads back as the non-zero magnitude `x`, without
trailing zeros, with ties settled by `tie`. -/
def Magnitude.shortest (tie : TieBreak) (x : Magnitude) : Decimal :=
  let k := x.scale
  let found := (List.range maxDigits).findSome? fun i => x.onGrid tie (k - (i + 1 : Nat))
  let d := found.getD x.exact
  Decimal.strip (toString d.digits).length d

end Binary64

end ShardDump
