/-!
# Binary64 values

A binary64 value is kept as its 64-bit pattern: one sign bit, eleven exponent bits and
52 fraction bits. A finite value's magnitude is `m * 2 ^ q`: for a biased exponent `e`
above zero, `m = 2 ^ 52 + fraction` and `q = e - 1075`; for `e = 0`, `m = fraction` and
`q = -1074`. The all-ones exponent holds the infinities (fraction zero) and NaN.
-/

namespace ShardDump

/-- A binary64 floating-point value, given by its bit pattern. -/
structure Binary64 where
  /-- The sign, exponent and fraction bits. -/
  bits : UInt64
  deriving DecidableEq, Repr

namespace Binary64

/-- Whether the sign bit is set. -/
def sign (x : Binary64) : Bool := x.bits >>> 63 == 1

/-- The biased exponent. -/
def exponentField (x : Binary64) : Nat := ((x.bits >>> 52) &&& 0x7FF).toNat

/-- The 52 fraction bits. -/
def fraction (x : Binary64) : Nat := (x.bits &&& 0xFFFFFFFFFFFFF).toNat

/-- Whether the value is finite: neither infinite nor NaN. -/
def isFinite (x : Binary64) : Bool := x.exponentField != 0x7FF

/-- Positive zero. -/
def zero : Binary64 := ⟨0⟩

/-- Positive infinity. -/
def infinity : Binary64 := ⟨0x7FF0000000000000⟩

/-- The value with the other sign. -/
def negate (x : Binary64) : Binary64 := ⟨x.bits ^^^ 0x8000000000000000⟩

/-- The magnitude of a finite value, `m * 2 ^ q`, and whether the next value below is
nearer than the next value above, which happens at the powers of two past the least
normal value. -/
structure Magnitude where
  m : Nat
  q : Int
  narrowBelow : Bool

/-- The magnitude of a finite value. -/
def magnitude (x : Binary64) : Magnitude :=
  let e := x.exponentField
  let f := x.fraction
  if e = 0 then ⟨f, -1074, false⟩ else ⟨Nat.pow 2 52 + f, (e : Int) - 1075, f == 0 && e > 1⟩

end Binary64

end ShardDump
