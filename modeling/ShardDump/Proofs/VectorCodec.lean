import ShardDump.Proofs.WrittenFiles

/-!
# Vector payloads as a code

A vector's payload is the eight bytes of each value in turn, and every byte string whose
length is a multiple of eight is the payload of exactly one vector: decoding reads the
string eight bytes at a time, element `j` from bytes `8 j` to `8 j + 8`, and writing the
decoded values back gives the string again. A string of any other length is refused as
invalid data. Values travel as bit patterns, so NaN payloads and the sign of zero come back
as they were (`vector_payload_codec_bijective`).

Decoding stops where fewer than eight bytes are left; the laws below are each one induction
along that recursion, the short tail being empty exactly when the length is a multiple of
eight.
-/

namespace ShardDump

/-! ## One value -/

/-- Eight bytes read as a value are written back as the same eight bytes. -/
theorem toBytes_ofBytes {bs : Bytes} (h : bs.length = 8) : (Binary64.ofBytes bs).toBytes = bs := by
  -- eight bytes hold a number below `2 ^ 64`, which the value's bits keep whole
  have hlt : leValue bs < Nat.pow 256 8 := h ▸ leValue_lt bs
  have hbits : (UInt64.ofNat (leValue bs)).toNat = leValue bs :=
    Nat.mod_eq_of_lt (by simpa using hlt)
  simp only [Binary64.toBytes, Binary64.ofBytes, hbits, Binary64.size]
  rw [← h, leBytes_leValue]

/-! ## Reading values eight bytes at a time -/

/-- A payload of eight bytes or more starts with the value of its first eight bytes. -/
theorem decodeValues_of_le {b : Bytes} (h : 8 ≤ b.length) :
    decodeValues b = Binary64.ofBytes (b.take 8) :: decodeValues (b.drop 8) := by
  have happ := @decodeValues_append (b.take 8) (by simp; omega) (b.drop 8)
  rwa [List.take_append_drop] at happ

/-- A byte string that does not start with eight bytes is shorter than eight. -/
theorem length_lt_of_not_eight {x : Bytes}
    (hx : ∀ b0 b1 b2 b3 b4 b5 b6 b7 rest,
      x = b0 :: b1 :: b2 :: b3 :: b4 :: b5 :: b6 :: b7 :: rest → False) :
    x.length < 8 := by
  -- eight bytes or more would be decoded to a value, not to nothing
  refine Nat.lt_of_not_le fun hlen => ?_
  have hnil : decodeValues x = [] := decodeValues.eq_2 x hx
  rw [decodeValues_of_le hlen] at hnil
  exact List.cons_ne_nil _ _ hnil

@[simp] theorem length_decodeValues (b : Bytes) : (decodeValues b).length = b.length / 8 := by
  fun_induction decodeValues b with
  | case1 b0 b1 b2 b3 b4 b5 b6 b7 rest ih =>
    simp only [List.length_cons, ih]
    omega
  | case2 x hx =>
    have := length_lt_of_not_eight hx
    simp only [List.length_nil]
    omega

/-- Value `j` is read from bytes `8 j` to `8 j + 8`. -/
theorem getElem_decodeValues (b : Bytes) (j : Nat) (hj : j < (decodeValues b).length) :
    (decodeValues b)[j] = Binary64.ofBytes ((b.drop (8 * j)).take 8) := by
  fun_induction decodeValues b generalizing j with
  | case1 b0 b1 b2 b3 b4 b5 b6 b7 rest ih =>
    cases j with
    | zero => rfl
    | succ j =>
      simp only [List.getElem_cons_succ, ih j (by simpa using hj)]
      rfl
  | case2 x hx => simp at hj

/-- Writing back the values read from a string of whole values gives the string. -/
theorem encodeVector_decodeValues {b : Bytes} (h : b.length % 8 = 0) :
    encodeVector (decodeValues b) = b := by
  fun_induction decodeValues b with
  | case1 b0 b1 b2 b3 b4 b5 b6 b7 rest ih =>
    have hrest : rest.length % 8 = 0 := by
      simp only [List.length_cons] at h
      omega
    rw [encodeVector, List.flatMap_cons, ← encodeVector, ih hrest, toBytes_ofBytes rfl]
    rfl
  | case2 x hx =>
    -- the tail left unread is shorter than a value, so it is empty
    have := length_lt_of_not_eight hx
    have hnil : x = [] := List.eq_nil_of_length_eq_zero (by omega)
    rw [hnil]
    rfl

/-! ## Decoding a payload -/

/-- A payload decodes exactly when its length is a multiple of eight, to its values read
eight bytes at a time. -/
theorem decodeVector_eq_ok_iff {b : Bytes} {v : List Binary64} :
    decodeVector b = .ok v ↔ b.length % 8 = 0 ∧ decodeValues b = v := by
  unfold decodeVector Binary64.size
  by_cases h : b.length % 8 = 0 <;> simp [h]

theorem decodeVector_of_ragged {b : Bytes} (h : b.length % 8 ≠ 0) :
    decodeVector b = .error (vectorLengthError b.length) :=
  if_neg h

/-- Vector payloads are exactly the byte strings whose length is a multiple of eight: a
vector's payload has eight bytes per value and decodes to the vector, bit for bit; a string
of any other length is refused as invalid data; and a string that decodes is the payload of
what it decodes to, value `j` being read from bytes `8 j` to `8 j + 8`. -/
theorem vector_payload_codec_bijective :
    (∀ v : List Binary64,
      (encodeVector v).length = 8 * v.length ∧ decodeVector (encodeVector v) = .ok v) ∧
    (∀ b : Bytes, (∃ v, decodeVector b = .ok v) ↔ b.length % 8 = 0) ∧
    (∀ b : Bytes, b.length % 8 ≠ 0 →
      decodeVector b = .error (vectorLengthError b.length) ∧
        (vectorLengthError b.length).kind = .invalidData) ∧
    (∀ (b : Bytes) (v : List Binary64), decodeVector b = .ok v →
      encodeVector v = b ∧ v.length = b.length / 8 ∧
        ∀ (j : Nat) (hj : j < v.length), v[j] = Binary64.ofBytes ((b.drop (8 * j)).take 8)) := by
  refine ⟨fun v => ⟨length_encodeVector v, decodeVector_encodeVector v⟩, fun b => ?_,
    fun b h => ⟨decodeVector_of_ragged h, rfl⟩, fun b v h => ?_⟩
  · constructor
    · rintro ⟨v, hv⟩
      exact (decodeVector_eq_ok_iff.1 hv).1
    · intro h
      exact ⟨_, decodeVector_eq_ok_iff.2 ⟨h, rfl⟩⟩
  · obtain ⟨hlen, rfl⟩ := decodeVector_eq_ok_iff.1 h
    exact ⟨encodeVector_decodeValues hlen, length_decodeValues b, getElem_decodeValues b⟩

/-- Twelve bytes are refused, and the payload of `0` and `-0` decodes to those two values,
one for each eight bytes. -/
theorem vector_payload_codec_bijective_samples :
    ((List.replicate 12 (0 : UInt8)).length % 8 ≠ 0 ∧
      decodeVector (List.replicate 12 0) = .error (vectorLengthError 12)) ∧
    (decodeVector (encodeVector [Binary64.zero, Binary64.zero.negate]) =
        .ok [Binary64.zero, Binary64.zero.negate] ∧
      [Binary64.zero, Binary64.zero.negate].length =
        (encodeVector [Binary64.zero, Binary64.zero.negate]).length / 8) := by
  have hragged : (List.replicate 12 (0 : UInt8)).length % 8 ≠ 0 := by decide
  have hdecode := (vector_payload_codec_bijective.1 [Binary64.zero, Binary64.zero.negate]).2
  exact ⟨⟨hragged, (vector_payload_codec_bijective.2.2.1 _ hragged).1⟩, hdecode,
    (vector_payload_codec_bijective.2.2.2 _ _ hdecode).2.1⟩

end ShardDump
