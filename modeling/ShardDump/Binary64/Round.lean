import ShardDump.Binary64.Basic

/-!
# Rounding to binary64

`Binary64.ofRatio num den` is the binary64 value nearest to the positive rational
`num / den`, a tie going to the value whose last fraction bit is zero; a rational that
rounds past the largest finite value gives infinity. Multiplying and dividing finite
values round their exact product, quotient or sum the same way, which is what one
machine operation does.
-/

namespace ShardDump

namespace Binary64

/-- The integer nearest to `num / den`, a tie going to the even one. -/
def roundDivEven (num den : Nat) : Nat :=
  let q := num / den
  let r := num % den
  if 2 * r < den then q
  else if den < 2 * r then q + 1
  else if q % 2 = 0 then q else q + 1

/-- `⌊num / (den * 2 ^ e)⌋` for an exponent of either sign. -/
def quotientAt (num den : Nat) (e : Int) : Nat :=
  (num * Nat.pow 2 (-e).toNat) / (den * Nat.pow 2 e.toNat)

/-- The number of fraction bits. -/
def fractionBits : Nat := 52

/-- The least exponent of the last bit, that of the subnormal values. -/
def leastExponent : Int := -1074

/-- The greatest exponent of the last bit of a finite value. -/
def greatestExponent : Int := 971

/-- The value with magnitude `m * 2 ^ q`, for `m < 2 ^ 53` and `q` in range: subnormal
below `2 ^ 52`, normal from there. -/
def ofParts (m : Nat) (q : Int) : Binary64 :=
  if m < Nat.pow 2 fractionBits then ⟨UInt64.ofNat m⟩
  else ⟨UInt64.ofNat ((q + 1075).toNat * Nat.pow 2 fractionBits + (m - Nat.pow 2 fractionBits))⟩

/-- The binary64 value nearest to `num / den`, for `den > 0`. -/
def ofRatio (num den : Nat) : Binary64 :=
  if num = 0 then zero
  else
    -- the exponent that puts the quotient in [2^52, 2^53), or the least one
    let e0 : Int := (Nat.log2 num : Int) - (Nat.log2 den : Int) - (fractionBits : Int)
    let e := if quotientAt num den e0 < Nat.pow 2 fractionBits then e0 - 1 else e0
    let q := max e leastExponent
    let m := roundDivEven (num * Nat.pow 2 (-q).toNat) (den * Nat.pow 2 q.toNat)
    let (m, q) := if m = Nat.pow 2 (fractionBits + 1) then (Nat.pow 2 fractionBits, q + 1) else (m, q)
    if greatestExponent < q then infinity else ofParts m q

/-- The binary64 value nearest to a natural number. -/
def ofNat (n : Nat) : Binary64 := ofRatio n 1

/-- `m * 2 ^ q` as a fraction of naturals. -/
def ratioOf (m : Nat) (q : Int) : Nat × Nat := (m * Nat.pow 2 q.toNat, Nat.pow 2 (-q).toNat)

/-- The rounded product of two finite values. -/
def mul (x y : Binary64) : Binary64 :=
  let a := x.magnitude
  let b := y.magnitude
  let (num, den) := ratioOf (a.m * b.m) (a.q + b.q)
  let r := ofRatio num den
  if x.sign != y.sign then r.negate else r

/-- The rounded quotient of two finite values, the divisor not zero. -/
def div (x y : Binary64) : Binary64 :=
  let a := x.magnitude
  let b := y.magnitude
  let (num, den) := ratioOf a.m (a.q - b.q)
  let r := ofRatio num (den * b.m)
  if x.sign != y.sign then r.negate else r

/-- A finite value as a signed integer times `2 ^ e`, for `e` at most its own exponent. -/
def scaledTo (x : Binary64) (e : Int) : Int :=
  let a := x.magnitude
  let n : Int := a.m * Nat.pow 2 (a.q - e).toNat
  if x.sign then -n else n

/-- The rounded sum of two finite values. An exact zero sum is `+0`, unless both values
are `-0`. -/
def add (x y : Binary64) : Binary64 :=
  let e := min x.magnitude.q y.magnitude.q
  let s := scaledTo x e + scaledTo y e
  if s = 0 then (if x.sign && y.sign then zero.negate else zero)
  else
    let (num, den) := ratioOf s.natAbs e
    let r := ofRatio num den
    if s < 0 then r.negate else r

/-- Whether the finite value `x` is below the finite value `y`; the two zeros are
equal. -/
def lt (x y : Binary64) : Bool :=
  let e := min x.magnitude.q y.magnitude.q
  scaledTo x e < scaledTo y e

end Binary64

end ShardDump
