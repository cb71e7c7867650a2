import ShardDump.Bytes

/-!
# Decoding UTF-8 with replacement

`decodeLossy` reads bytes as UTF-8 and puts one replacement character `U+FFFD` in
place of each maximal part of an ill-formed sequence: a byte that cannot start a
sequence, or the longest start of a sequence that the next byte does not continue.
-/

namespace ShardDump

namespace Text

/-- The replacement character. -/
def replacement : Char := '�'

/-- Whether a byte continues a sequence. -/
def isContinuation (b : UInt8) : Bool := 0x80 ≤ b && b ≤ 0xBF

/-- For a byte that starts a sequence of two to four bytes: the length and the range of
the second byte. -/
def leadByte (b : UInt8) : Option (Nat × UInt8 × UInt8) :=
  if 0xC2 ≤ b && b ≤ 0xDF then some (2, 0x80, 0xBF)
  else if b == 0xE0 then some (3, 0xA0, 0xBF)
  else if 0xE1 ≤ b && b ≤ 0xEC then some (3, 0x80, 0xBF)
  else if b == 0xED then some (3, 0x80, 0x9F)
  else if 0xEE ≤ b && b ≤ 0xEF then some (3, 0x80, 0xBF)
  else if b == 0xF0 then some (4, 0x90, 0xBF)
  else if 0xF1 ≤ b && b ≤ 0xF3 then some (4, 0x80, 0xBF)
  else if b == 0xF4 then some (4, 0x80, 0x8F)
  else none

/-- The character of a well-formed sequence. -/
def charOf (bs : List UInt8) : Char :=
  match bs with
  | [b0, b1] => Char.ofNat ((b0.toNat % 32) * 64 + b1.toNat % 64)
  | [b0, b1, b2] => Char.ofNat ((b0.toNat % 16) * 4096 + (b1.toNat % 64) * 64 + b2.toNat % 64)
  | [b0, b1, b2, b3] =>
    Char.ofNat ((b0.toNat % 8) * 262144 + (b1.toNat % 64) * 4096 + (b2.toNat % 64) * 64 +
      b3.toNat % 64)
  | _ => replacement

/-- The characters of `bytes`, each ill-formed part replaced. -/
def decodeLossyChars : Bytes → List Char
  | [] => []
  | b :: rest =>
    if b < 0x80 then Char.ofNat b.toNat :: decodeLossyChars rest
    else
      match leadByte b with
      | none => replacement :: decodeLossyChars rest
      | some (len, lo, hi) =>
        match _hr : rest with
        | [] => [replacement]
        | c1 :: rest1 =>
          if !(lo ≤ c1 && c1 ≤ hi) then replacement :: decodeLossyChars rest
          else if len = 2 then charOf [b, c1] :: decodeLossyChars rest1
          else
            match _hr1 : rest1 with
            | [] => [replacement]
            | c2 :: rest2 =>
              if !isContinuation c2 then replacement :: decodeLossyChars rest1
              else if len = 3 then charOf [b, c1, c2] :: decodeLossyChars rest2
              else
                match _hr2 : rest2 with
                | [] => [replacement]
                | c3 :: rest3 =>
                  if !isContinuation c3 then replacement :: decodeLossyChars rest2
                  else charOf [b, c1, c2, c3] :: decodeLossyChars rest3
termination_by bytes => bytes.length
decreasing_by all_goals simp_all <;> omega

/-- The text of `bytes`, each ill-formed part replaced. -/
def decodeLossy (bytes : Bytes) : String := String.ofList (decodeLossyChars bytes)

end Text

end ShardDump
