/-!
# Byte strings and little-endian words

A byte string is a `List UInt8`. Words are written least significant byte first;
`leBytes k n` writes the low `k` bytes of `n` and `leValue` reads them back, so that
`leValue (leBytes k n) = n % 256 ^ k`.
-/

namespace ShardDump

/-- A byte string. -/
abbrev Bytes := List UInt8

/-- The low `width` bytes of `n`, least significant first. -/
def leBytes : Nat → Nat → Bytes
  | 0, _ => []
  | width + 1, n => UInt8.ofNat (n % 256) :: leBytes width (n / 256)

/-- The number whose little-endian bytes are `bs`. -/
def leValue : Bytes → Nat
  | [] => 0
  | b :: rest => b.toNat + 256 * leValue rest

@[simp] theorem length_leBytes (width n : Nat) : (leBytes width n).length = width := by
  induction width generalizing n with
  | zero => rfl
  | succ k ih => simp [leBytes, ih]

/-- Reading back `width` written bytes gives the value modulo `256 ^ width`. -/
theorem leValue_leBytes (width n : Nat) : leValue (leBytes width n) = n % Nat.pow 256 width := by
  induction width generalizing n with
  | zero => simp [leBytes, leValue, Nat.mod_one]
  | succ k ih =>
    have byte : (UInt8.ofNat (n % 256)).toNat = n % 256 := by simp
    simp only [leBytes, leValue, ih, byte, Nat.pow_eq]
    rw [Nat.pow_succ', Nat.mod_mul]

/-- A value below `256 ^ width` is `leValue` of its `width` bytes. -/
theorem leValue_leBytes_of_lt {width n : Nat} (h : n < Nat.pow 256 width) :
    leValue (leBytes width n) = n := by
  rw [leValue_leBytes, Nat.mod_eq_of_lt h]

/-- Every byte string of length `k` is read below `256 ^ k`. -/
theorem leValue_lt (bs : Bytes) : leValue bs < Nat.pow 256 bs.length := by
  induction bs with
  | nil => simp [leValue]
  | cons b rest ih =>
    simp only [leValue, List.length_cons]
    show b.toNat + 256 * leValue rest < Nat.pow 256 rest.length * 256
    have hb := b.toNat_lt
    have : 256 * leValue rest + 256 ≤ 256 * Nat.pow 256 rest.length := by
      rw [← Nat.mul_succ]; exact Nat.mul_le_mul_left _ ih
    omega

/-- Writing back the value of a byte string gives the same bytes. -/
theorem leBytes_leValue (bs : Bytes) : leBytes bs.length (leValue bs) = bs := by
  induction bs with
  | nil => rfl
  | cons b rest ih =>
    simp only [List.length_cons, leBytes, leValue]
    have hb := b.toNat_lt
    have hmod : (b.toNat + 256 * leValue rest) % 256 = b.toNat := by omega
    have hdiv : (b.toNat + 256 * leValue rest) / 256 = leValue rest := by omega
    rw [hmod, hdiv, ih]
    simp [UInt8.ofNat_toNat]

end ShardDump
