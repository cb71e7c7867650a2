/-!
# Unsigned decimal numbers

`parseUnsigned` reads a machine-word count: an optional plus sign, then one or more
decimal digits, with a value below `2 ^ 64`. Digits are read left to right and the first
fault met decides the error: a character that is not a digit, or a value that no longer
fits.
-/

namespace ShardDump

namespace Text

/-- Why a text is not an unsigned number. -/
inductive NumberError where
  | empty
  | invalidDigit
  | tooLarge
  deriving DecidableEq, Repr

/-- The message of the error. -/
def NumberError.message : NumberError → String
  | .empty => "cannot parse integer from empty string"
  | .invalidDigit => "invalid digit found in string"
  | .tooLarge => "number too large to fit in target type"

/-- The bound on unsigned values. -/
def wordBound : Nat := Nat.pow 2 64

/-- Reads digits onto `acc`, left to right. -/
def digitsValue (acc : Nat) : List Char → Except NumberError Nat
  | [] => .ok acc
  | c :: rest =>
    if c.isDigit then
      let v := 10 * acc + (c.toNat - '0'.toNat)
      if wordBound ≤ v then .error .tooLarge else digitsValue v rest
    else .error .invalidDigit

/-- The unsigned number a text spells. -/
def parseUnsigned (s : String) : Except NumberError Nat :=
  match s.toList with
  | [] => .error .empty
  | ['+'] => .error .invalidDigit
  | '+' :: rest => digitsValue 0 rest
  | cs => digitsValue 0 cs

end Text

end ShardDump
