import ShardDump.Json.RecordLine
import ShardDump.Proofs.WrittenFiles

/-!
# Lossy decoding of well-formed UTF-8

`Text.decodeLossy` replaces only what is ill-formed, so bytes that are UTF-8 decode with nothing
replaced, to the text whose bytes they are. The decoder is taken one sequence at a time: a
byte below `0x80`, or a leading byte that `leadByte` accepts, a second byte in the range it
names, and continuation bytes (`decodeLossyChars_one` to `decodeLossyChars_four`). The bytes
`String.utf8EncodeChar` gives a code point of each size are such a sequence, and `charOf` puts
the code point's bits back together (`decodeLossyChars_encoded_one` to
`decodeLossyChars_encoded_four`, then `decodeLossyChars_utf8EncodeChar_append`).

So a record line keeps a record whose metadata is UTF-8: `toRecord (ofRecord r) = .ok r`.
-/

namespace ShardDump

namespace Text

/-! ## One sequence at a time -/

theorem leadByte_of_lt : ∀ n, n < 0x80 → leadByte (UInt8.ofNat n) = none := by
  decide +kernel

theorem not_lt_of_leadByte {b : UInt8} (h : leadByte b ≠ none) : ¬ b < 0x80 := by
  intro hb
  have hn : b.toNat < 0x80 := UInt8.lt_iff_toNat_lt.1 hb
  have hnone := leadByte_of_lt b.toNat hn
  rw [UInt8.ofNat_toNat] at hnone
  exact h hnone

theorem decodeLossyChars_one {b : UInt8} (h : b < 0x80) (rest : Bytes) :
    decodeLossyChars (b :: rest) = Char.ofNat b.toNat :: decodeLossyChars rest := by
  rw [decodeLossyChars, if_pos h]

theorem decodeLossyChars_two {b0 b1 lo hi : UInt8} (hlead : leadByte b0 = some (2, lo, hi))
    (h1 : (lo ≤ b1 && b1 ≤ hi) = true) (rest : Bytes) :
    decodeLossyChars (b0 :: b1 :: rest) = charOf [b0, b1] :: decodeLossyChars rest := by
  rw [decodeLossyChars, if_neg (not_lt_of_leadByte (by simp [hlead]))]
  simp [hlead, h1]

theorem decodeLossyChars_three {b0 b1 b2 lo hi : UInt8} (hlead : leadByte b0 = some (3, lo, hi))
    (h1 : (lo ≤ b1 && b1 ≤ hi) = true) (h2 : isContinuation b2 = true) (rest : Bytes) :
    decodeLossyChars (b0 :: b1 :: b2 :: rest) = charOf [b0, b1, b2] :: decodeLossyChars rest := by
  rw [decodeLossyChars, if_neg (not_lt_of_leadByte (by simp [hlead]))]
  simp [hlead, h1, h2]

theorem decodeLossyChars_four {b0 b1 b2 b3 lo hi : UInt8}
    (hlead : leadByte b0 = some (4, lo, hi)) (h1 : (lo ≤ b1 && b1 ≤ hi) = true)
    (h2 : isContinuation b2 = true) (h3 : isContinuation b3 = true) (rest : Bytes) :
    decodeLossyChars (b0 :: b1 :: b2 :: b3 :: rest) =
      charOf [b0, b1, b2, b3] :: decodeLossyChars rest := by
  rw [decodeLossyChars, if_neg (not_lt_of_leadByte (by simp [hlead]))]
  simp [hlead, h1, h2, h3]

/-! ## Bytes written from numbers

The encoder writes each byte as `UInt8.ofNat` of a number below 256; these facts read such a
byte back and place it in the ranges the decoder tests. -/

theorem toNat_ofNat_of_lt {n : Nat} (h : n < 256) : (UInt8.ofNat n).toNat = n := by
  rw [UInt8.toNat_ofNat']
  exact Nat.mod_eq_of_lt h

theorem leadByte_two : ∀ n, n < 256 → 0xC2 ≤ n ∧ n ≤ 0xDF →
    leadByte (UInt8.ofNat n) = some (2, 0x80, 0xBF) := by
  decide +kernel

theorem leadByte_three : ∀ n, n < 256 → 0xE0 ≤ n ∧ n ≤ 0xEF →
    leadByte (UInt8.ofNat n) =
      some (3, if n = 0xE0 then 0xA0 else 0x80, if n = 0xED then 0x9F else 0xBF) := by
  decide +kernel

theorem leadByte_four : ∀ n, n < 256 → 0xF0 ≤ n ∧ n ≤ 0xF4 →
    leadByte (UInt8.ofNat n) =
      some (4, if n = 0xF0 then 0x90 else 0x80, if n = 0xF4 then 0x8F else 0xBF) := by
  decide +kernel

theorem isContinuation_ofNat (n : Nat) : isContinuation (UInt8.ofNat (n % 64 + 0x80)) = true := by
  simp only [isContinuation, Bool.and_eq_true, decide_eq_true_eq, UInt8.le_iff_toNat_le,
    toNat_ofNat_of_lt (show n % 64 + 0x80 < 256 by omega)]
  exact ⟨by show 128 ≤ _; omega, by show _ ≤ 191; omega⟩

theorem inRange_ofNat {n : Nat} {lo hi : UInt8} (h1 : lo.toNat ≤ n) (h2 : n ≤ hi.toNat) :
    (lo ≤ UInt8.ofNat n && UInt8.ofNat n ≤ hi) = true := by
  have hn : n < 256 := Nat.lt_of_le_of_lt h2 hi.toNat_lt
  simp only [Bool.and_eq_true, decide_eq_true_eq, UInt8.le_iff_toNat_le, toNat_ofNat_of_lt hn]
  exact ⟨h1, h2⟩

/-! ## The bytes of one code point

`String.utf8EncodeChar` writes a code point `v` in one to four bytes by its size. Each lemma
below reads one of these shapes back to `Char.ofNat v`. -/

theorem decodeLossyChars_encoded_one {v : Nat} (h : v ≤ 0x7f) (rest : Bytes) :
    decodeLossyChars (UInt8.ofNat v :: rest) = Char.ofNat v :: decodeLossyChars rest := by
  have hb : UInt8.ofNat v < 0x80 := by
    rw [UInt8.lt_iff_toNat_lt, toNat_ofNat_of_lt (by omega)]
    exact Nat.lt_of_le_of_lt h (by decide)
  rw [decodeLossyChars_one hb, toNat_ofNat_of_lt (by omega)]

theorem decodeLossyChars_encoded_two {v : Nat} (h1 : 0x80 ≤ v) (h2 : v ≤ 0x7ff) (rest : Bytes) :
    decodeLossyChars (UInt8.ofNat (v / 64 % 0x20 + 0xc0) :: UInt8.ofNat (v % 0x40 + 0x80) :: rest) =
      Char.ofNat v :: decodeLossyChars rest := by
  have hc1 : ((0x80 : UInt8) ≤ UInt8.ofNat (v % 64 + 128) &&
      UInt8.ofNat (v % 64 + 128) ≤ 0xBF) = true :=
    inRange_ofNat (by show 128 ≤ _; omega) (by show _ ≤ 191; omega)
  rw [decodeLossyChars_two (leadByte_two _ (by omega) (by omega)) hc1, charOf,
    toNat_ofNat_of_lt (by omega), toNat_ofNat_of_lt (by omega)]
  congr 2
  omega

/-- Three bytes: the leading byte `0xE0` asks for a second byte from `0xA0`, which the code
points from `0x800` meet, and `0xED` one up to `0x9F`, which holds as surrogates are not
code points. -/
theorem decodeLossyChars_encoded_three {v : Nat} (h1 : 0x800 ≤ v) (h2 : v ≤ 0xffff)
    (hsurrogate : v < 0xd800 ∨ 0xdfff < v) (rest : Bytes) :
    decodeLossyChars (UInt8.ofNat (v / 4096 % 0x10 + 0xe0) ::
        UInt8.ofNat (v / 64 % 0x40 + 0x80) :: UInt8.ofNat (v % 0x40 + 0x80) :: rest) =
      Char.ofNat v :: decodeLossyChars rest := by
  have hc1 : ((if v / 4096 % 16 + 224 = 0xE0 then (0xA0 : UInt8) else 0x80) ≤
      UInt8.ofNat (v / 64 % 64 + 128) && UInt8.ofNat (v / 64 % 64 + 128) ≤
        if v / 4096 % 16 + 224 = 0xED then 0x9F else 0xBF) = true := by
    refine inRange_ofNat ?_ ?_
    · by_cases h : v / 4096 % 16 + 224 = 0xE0
      · rw [if_pos h]; show 160 ≤ _; omega
      · rw [if_neg h]; show 128 ≤ _; omega
    · by_cases h : v / 4096 % 16 + 224 = 0xED
      · rw [if_pos h]; show _ ≤ 159; omega
      · rw [if_neg h]; show _ ≤ 191; omega
  rw [decodeLossyChars_three (leadByte_three _ (by omega) (by omega)) hc1
      (isContinuation_ofNat v), charOf, toNat_ofNat_of_lt (by omega),
    toNat_ofNat_of_lt (by omega), toNat_ofNat_of_lt (by omega)]
  congr 2
  omega

/-- Four bytes: the leading byte `0xF0` asks for a second byte from `0x90`, which the code
points from `0x10000` meet, and `0xF4` one up to `0x8F`, which holds below `0x110000`. -/
theorem decodeLossyChars_encoded_four {v : Nat} (h1 : 0x10000 ≤ v) (h2 : v < 0x110000)
    (rest : Bytes) :
    decodeLossyChars (UInt8.ofNat (v / 262144 % 0x08 + 0xf0) ::
        UInt8.ofNat (v / 4096 % 0x40 + 0x80) :: UInt8.ofNat (v / 64 % 0x40 + 0x80) ::
        UInt8.ofNat (v % 0x40 + 0x80) :: rest) =
      Char.ofNat v :: decodeLossyChars rest := by
  have hc1 : ((if v / 262144 % 8 + 240 = 0xF0 then (0x90 : UInt8) else 0x80) ≤
      UInt8.ofNat (v / 4096 % 64 + 128) && UInt8.ofNat (v / 4096 % 64 + 128) ≤
        if v / 262144 % 8 + 240 = 0xF4 then 0x8F else 0xBF) = true := by
    refine inRange_ofNat ?_ ?_
    · by_cases h : v / 262144 % 8 + 240 = 0xF0
      · rw [if_pos h]; show 144 ≤ _; omega
      · rw [if_neg h]; show 128 ≤ _; omega
    · by_cases h : v / 262144 % 8 + 240 = 0xF4
      · rw [if_pos h]; show _ ≤ 143; omega
      · rw [if_neg h]; show _ ≤ 191; omega
  rw [decodeLossyChars_four (leadByte_four _ (by omega) (by omega)) hc1
      (isContinuation_ofNat (v / 64)) (isContinuation_ofNat v), charOf,
    toNat_ofNat_of_lt (by omega), toNat_ofNat_of_lt (by omega), toNat_ofNat_of_lt (by omega),
    toNat_ofNat_of_lt (by omega)]
  congr 2
  omega

/-- The bytes `String.utf8EncodeChar` gives a character decode to that character, whatever
follows them. -/
theorem decodeLossyChars_utf8EncodeChar_append (c : Char) (rest : Bytes) :
    decodeLossyChars (String.utf8EncodeChar c ++ rest) = c :: decodeLossyChars rest := by
  have hvalid : c.val.toNat < 0xd800 ∨ (0xdfff < c.val.toNat ∧ c.val.toNat < 0x110000) :=
    c.valid
  have hchar : Char.ofNat c.val.toNat = c := Char.ofNat_toNat c
  generalize hv : c.val.toNat = v at hvalid hchar
  unfold String.utf8EncodeChar
  rw [hv, ← hchar]
  -- one case for each length of the encoding
  by_cases h1 : v ≤ 0x7f
  · rw [if_pos h1, List.singleton_append]
    exact decodeLossyChars_encoded_one h1 rest
  by_cases h2 : v ≤ 0x7ff
  · rw [if_neg h1, if_pos h2, List.cons_append, List.singleton_append]
    exact decodeLossyChars_encoded_two (by omega) h2 rest
  by_cases h3 : v ≤ 0xffff
  · rw [if_neg h1, if_neg h2, if_pos h3, List.cons_append, List.cons_append,
      List.singleton_append]
    exact decodeLossyChars_encoded_three (by omega) h3 (by omega) rest
  · rw [if_neg h1, if_neg h2, if_neg h3, List.cons_append, List.cons_append, List.cons_append,
      List.singleton_append]
    exact decodeLossyChars_encoded_four (by omega) (by omega) rest

/-! ## Whole texts -/

theorem decodeLossyChars_flatMap_utf8EncodeChar (cs : List Char) :
    decodeLossyChars (cs.flatMap String.utf8EncodeChar) = cs := by
  induction cs with
  | nil => simp [decodeLossyChars]
  | cons c cs ih => rw [List.flatMap_cons, decodeLossyChars_utf8EncodeChar_append, ih]

/-- Well-formed UTF-8 decodes with nothing replaced: its text encodes to the same bytes. -/
theorem toUTF8_decodeLossy {bytes : Bytes} (h : ByteArray.IsValidUTF8 ⟨bytes.toArray⟩) :
    (decodeLossy bytes).toUTF8.toList = bytes := by
  obtain ⟨cs, hcs⟩ := h
  have hbytes : bytes = cs.flatMap String.utf8EncodeChar := by
    simpa [List.utf8Encode] using congrArg (fun b : ByteArray => b.data.toList) hcs
  rw [hbytes, decodeLossy, decodeLossyChars_flatMap_utf8EncodeChar, toUTF8_toList,
    String.toList_ofList]

end Text

/-- A record whose metadata is UTF-8 comes back from its line. -/
theorem Json.RecordLine.toRecord_ofRecord {r : Record}
    (h : ByteArray.IsValidUTF8 ⟨r.metadata.toArray⟩) : (ofRecord r).toRecord = .ok r := by
  obtain ⟨id, vector, metadata⟩ := r
  simp only [ofRecord, toRecord, Text.toUTF8_decodeLossy h]

/-- Exactly the records whose metadata is UTF-8 come back from their lines: other metadata
comes back with replacement characters in it. -/
theorem Json.RecordLine.toRecord_ofRecord_eq_ok_iff (r : Record) :
    (ofRecord r).toRecord = .ok r ↔ ByteArray.IsValidUTF8 ⟨r.metadata.toArray⟩ := by
  refine ⟨fun h => ?_, toRecord_ofRecord⟩
  -- the metadata that comes back is the UTF-8 of a text, which is well-formed
  have hm : (Text.decodeLossy r.metadata).toUTF8.toList = r.metadata := by
    obtain ⟨id, vector, metadata⟩ := r
    simp only [ofRecord, toRecord, Except.ok.injEq, Record.mk.injEq] at h
    exact h.2.2
  have hbytes : (⟨(Text.decodeLossy r.metadata).toUTF8.toList.toArray⟩ : ByteArray) =
      (Text.decodeLossy r.metadata).toByteArray := by
    rw [byteArray_toList]
    rfl
  rw [← hm, hbytes]
  exact (Text.decodeLossy r.metadata).isValidUTF8

end ShardDump
