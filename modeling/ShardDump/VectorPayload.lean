import ShardDump.Bytes
import ShardDump.IoError
import ShardDump.Binary64.Basic

/-!
# Vector payloads

A vector is a list of binary64 values, kept as their bit patterns: values are stored and
moved, never computed with, so a NaN keeps its payload and `-0.0` stays apart from
`0.0`. Its payload is the eight little-endian bytes of each value in turn, and a byte
string is a vector payload exactly when its length is a multiple of eight.
-/

namespace ShardDump

namespace Binary64

/-- The number of bytes of one value. -/
def size : Nat := 8

/-- The eight little-endian bytes of the value. -/
def toBytes (x : Binary64) : Bytes := leBytes size x.bits.toNat

/-- The value whose little-endian bytes are `bs`. -/
def ofBytes (bs : Bytes) : Binary64 := ⟨UInt64.ofNat (leValue bs)⟩

end Binary64

/-- The payload of a vector: the bytes of its values in order. -/
def encodeVector (v : List Binary64) : Bytes :=
  v.flatMap Binary64.toBytes

/-- Splits a payload into values, eight bytes each; a short tail is dropped. -/
def decodeValues : Bytes → List Binary64
  | b0 :: b1 :: b2 :: b3 :: b4 :: b5 :: b6 :: b7 :: rest =>
    Binary64.ofBytes [b0, b1, b2, b3, b4, b5, b6, b7] :: decodeValues rest
  | _ => []

/-- The error for a payload whose length is not a multiple of eight. -/
def vectorLengthError (length : Nat) : IoError :=
  .custom .invalidData s!"vector payload of {length} bytes is not a multiple of {Binary64.size}"

/-- The vector of a payload, or an error when its length is not a multiple of eight. -/
def decodeVector (payload : Bytes) : Except IoError (List Binary64) :=
  if payload.length % Binary64.size = 0 then .ok (decodeValues payload)
  else .error (vectorLengthError payload.length)

@[simp] theorem length_toBytes (x : Binary64) : x.toBytes.length = 8 := by
  simp [Binary64.toBytes, Binary64.size]

@[simp] theorem length_encodeVector (v : List Binary64) :
    (encodeVector v).length = 8 * v.length := by
  induction v with
  | nil => rfl
  | cons x rest ih =>
    simp only [encodeVector, List.flatMap_cons, List.length_append, length_toBytes,
      List.length_cons] at *
    rw [ih]
    omega

end ShardDump
