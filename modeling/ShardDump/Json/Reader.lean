import ShardDump.Bytes
import ShardDump.Binary64.Round
import ShardDump.Json.Value
import ShardDump.Text.Literal

/-!
# Reading JSON text

A reader walks the bytes of a JSON text and keeps what is left of it and how many bytes
it has taken. An error names its cause and, once known, the byte offset it is reported
at: at the offset reached (`failHere`), or one byte further when a byte is still ahead
(`failAhead`). An error raised by a consumer of values, such as a wrong type, gets the
offset reached when it leaves the value being read (`placeErrors`). The message shows the
offset as a line and a column, both counted in bytes from the last newline.

Numbers are read as in a decoder that keeps up to 19 significant digits in a machine
word: more digits only shift the decimal exponent, and the word is then scaled by one
rounded multiplication or division by a rounded power of ten (in steps of `10 ^ 308`
below that range). A number that grows past the largest finite value is out of range.
-/

namespace ShardDump

namespace Json

/-- Why a JSON text was refused. -/
inductive ErrorCode where
  | eofWhileParsingList
  | eofWhileParsingObject
  | eofWhileParsingString
  | eofWhileParsingValue
  | expectedColon
  | expectedListCommaOrEnd
  | expectedObjectCommaOrEnd
  | expectedSomeIdent
  | expectedSomeValue
  | invalidEscape
  | invalidNumber
  | numberOutOfRange
  | controlCharacterWhileParsingString
  | keyMustBeAString
  | loneLeadingSurrogateInHexEscape
  | trailingComma
  | trailingCharacters
  | unexpectedEndOfHexEscape
  /-- A refusal by the consumer of the values, with its text. -/
  | custom (text : String)
  deriving DecidableEq, Repr

/-- The text of a cause. -/
def ErrorCode.text : ErrorCode → String
  | .eofWhileParsingList => "EOF while parsing a list"
  | .eofWhileParsingObject => "EOF while parsing an object"
  | .eofWhileParsingString => "EOF while parsing a string"
  | .eofWhileParsingValue => "EOF while parsing a value"
  | .expectedColon => "expected `:`"
  | .expectedListCommaOrEnd => "expected `,` or `]`"
  | .expectedObjectCommaOrEnd => "expected `,` or `\x7d`"
  | .expectedSomeIdent => "expected ident"
  | .expectedSomeValue => "expected value"
  | .invalidEscape => "invalid escape"
  | .invalidNumber => "invalid number"
  | .numberOutOfRange => "number out of range"
  | .controlCharacterWhileParsingString =>
    "control character (\\u0000-\\u001F) found while parsing a string"
  | .keyMustBeAString => "key must be a string"
  | .loneLeadingSurrogateInHexEscape => "lone leading surrogate in hex escape"
  | .trailingComma => "trailing comma"
  | .trailingCharacters => "trailing characters"
  | .unexpectedEndOfHexEscape => "unexpected end of hex escape"
  | .custom text => text

/-- A refusal of a JSON text, with the byte offset it is reported at once known. -/
structure Error where
  code : ErrorCode
  offset : Option Nat
  deriving DecidableEq, Repr

/-- The line and column of a byte offset: lines from one, the column counting the bytes
after the last newline before it. -/
def lineColumn (input : Bytes) (offset : Nat) : Nat × Nat :=
  let before := input.take offset
  let line := 1 + before.count 10
  let column := (before.reverse.takeWhile (· != 10)).length
  (line, column)

/-- The message of an error for the text `input`. -/
def Error.message (input : Bytes) (e : Error) : String :=
  match e.offset with
  | none => e.code.text
  | some offset =>
    let (line, column) := lineColumn input offset
    e.code.text ++ s!" at line {line} column {column}"

/-- What is left of the text, and how many bytes were taken. -/
structure Cursor where
  rest : Bytes
  offset : Nat

/-- Steps of a reader: they take bytes and may fail, keeping the position reached. -/
abbrev Reader := ExceptT Error (StateM Cursor)

/-- The next byte, if any, without taking it. -/
def peek : Reader (Option UInt8) := do return (← get).rest.head?

/-- The next byte, or zero at the end, without taking it. -/
def peekOrNull : Reader UInt8 := do return (← get).rest.headD 0

/-- Takes the next byte, if any. -/
def eat : Reader Unit :=
  modify fun c => match c.rest with
    | [] => c
    | _ :: r => ⟨r, c.offset + 1⟩

/-- Takes and returns the next byte, if any. -/
def nextByte : Reader (Option UInt8) := do
  let b ← peek
  eat
  return b

/-- Fails at the offset reached. -/
def failHere {α : Type} (code : ErrorCode) : Reader α := do
  throw ⟨code, some (← get).offset⟩

/-- Fails at the next byte: one past the offset reached, unless the text has ended. -/
def failAhead {α : Type} (code : ErrorCode) : Reader α := do
  let c ← get
  throw ⟨code, some (if c.rest.isEmpty then c.offset else c.offset + 1)⟩

/-- Fails with a consumer's refusal, to be placed later. -/
def refuse {α : Type} (text : String) : Reader α := throw ⟨.custom text, none⟩

/-- Gives an error without an offset the offset reached when it leaves `r`. -/
def placeErrors {α : Type} (r : Reader α) : Reader α :=
  tryCatch r fun e =>
    match e.offset with
    | some _ => throw e
    | none => do throw { e with offset := some (← get).offset }

/-- Runs `r` and returns its outcome, keeping the position it reached. -/
def attempt {α : Type} (r : Reader α) : Reader (Except Error α) :=
  tryCatch (Except.ok <$> r) fun e => pure (.error e)

/-- The outcome of a value read followed by its closing step: the value's error first,
then the closing step's. -/
def bothOrFirst {α : Type} (value : Except Error α) (closing : Except Error Unit) : Reader α :=
  match value, closing with
  | .ok v, .ok () => pure v
  | .error e, _ => throw e
  | .ok _, .error e => throw e

/-- Whether a byte is JSON white space. -/
def isBlank (b : UInt8) : Bool := b == 32 || b == 10 || b == 9 || b == 13

/-- Skips white space and returns the next byte, if any. -/
def skipBlanks : Reader (Option UInt8) := do
  modify fun c =>
    let blanks := (c.rest.takeWhile isBlank).length
    ⟨c.rest.drop blanks, c.offset + blanks⟩
  peek

/-- Takes the bytes ahead while they satisfy `p`. -/
def skipWhile (p : UInt8 → Bool) : Reader Unit :=
  modify fun c =>
    let n := (c.rest.takeWhile p).length
    ⟨c.rest.drop n, c.offset + n⟩

/-- Whether a byte is an ASCII digit. -/
def isDigit (b : UInt8) : Bool := 48 ≤ b && b ≤ 57

/-- The value of an ASCII digit. -/
def digitValue (b : UInt8) : Nat := b.toNat - 48

/-- Takes the bytes of a keyword after its first letter. -/
def expectWord (word : List UInt8) : Reader Unit :=
  word.forM fun expected => do
    match ← nextByte with
    | none => failHere .eofWhileParsingValue
    | some b => if b != expected then failHere .expectedSomeIdent

/-! ## Strings -/

/-- The value of a hexadecimal digit. -/
def hexValue (b : UInt8) : Option Nat :=
  if 48 ≤ b && b ≤ 57 then some (b.toNat - 48)
  else if 97 ≤ b && b ≤ 102 then some (b.toNat - 87)
  else if 65 ≤ b && b ≤ 70 then some (b.toNat - 55)
  else none

/-- Takes four hexadecimal digits; fails at the end of the text or on a bad digit. -/
def hexEscape : Reader Nat := do
  let c ← get
  match c.rest with
  | a :: b :: d :: e :: rest =>
    set (Cursor.mk rest (c.offset + 4))
    match hexValue a, hexValue b, hexValue d, hexValue e with
    | some a, some b, some d, some e => pure (((a * 16 + b) * 16 + d) * 16 + e)
    | _, _, _, _ => failHere .invalidEscape
  | rest =>
    set (Cursor.mk [] (c.offset + rest.length))
    failHere .eofWhileParsingString

/-- The UTF-8 bytes of a code point. -/
def utf8Of (n : Nat) : Bytes := (Char.ofNat n).toString.toUTF8.toList

/-- The next byte of an escape, which must exist. -/
def escapeByte : Reader UInt8 := do
  match ← nextByte with
  | none => failHere .eofWhileParsingString
  | some b => pure b

/-- Reads a `\u` escape: a code point, or a pair of surrogates standing for one. -/
def unicodeEscape : Reader Bytes := do
  let n ← hexEscape
  if 0xDC00 ≤ n ∧ n ≤ 0xDFFF then failHere .loneLeadingSurrogateInHexEscape
  else if n < 0xD800 ∨ 0xDBFF < n then pure (utf8Of n)
  else
    match ← peek with
    | none => failHere .eofWhileParsingString
    | some b =>
      eat
      if b != 92 then failHere .unexpectedEndOfHexEscape
      else
        match ← peek with
        | none => failHere .eofWhileParsingString
        | some b =>
          eat
          if b != 117 then failHere .unexpectedEndOfHexEscape
          else
            let n2 ← hexEscape
            if n2 < 0xDC00 ∨ 0xDFFF < n2 then failHere .loneLeadingSurrogateInHexEscape
            else pure (utf8Of ((n - 0xD800) * 1024 + (n2 - 0xDC00) + 0x10000))

/-- Reads the escape after a backslash. -/
def escape : Reader Bytes := do
  let b ← escapeByte
  if b == 34 then pure [34]
  else if b == 92 then pure [92]
  else if b == 47 then pure [47]
  else if b == 98 then pure [8]
  else if b == 102 then pure [12]
  else if b == 110 then pure [10]
  else if b == 114 then pure [13]
  else if b == 116 then pure [9]
  else if b == 117 then unicodeEscape
  else failHere .invalidEscape

/-- Whether a byte stands for itself inside a string. -/
def isPlain (b : UInt8) : Bool := b != 34 && b != 92 && 32 ≤ b

/-- Reads the rest of a string after its opening quote, for at most `fuel` escapes. -/
def stringBytesUpTo : Nat → Bytes → Reader Bytes
  | 0, _ => failHere .eofWhileParsingString
  | fuel + 1, acc => do
    let c ← get
    let plain := c.rest.takeWhile isPlain
    set (Cursor.mk (c.rest.drop plain.length) (c.offset + plain.length))
    match ← peek with
    | none => failHere .eofWhileParsingString
    | some b =>
      eat
      if b == 34 then pure (acc ++ plain)
      else if b == 92 then
        let e ← escape
        stringBytesUpTo fuel (acc ++ plain ++ e)
      else failHere .controlCharacterWhileParsingString

/-- Reads the rest of a string after its opening quote. -/
def stringBody : Reader String := do
  let bytes ← stringBytesUpTo ((← get).rest.length + 1) []
  pure ((String.fromUTF8? ⟨bytes.toArray⟩).getD "")

/-! ## Numbers -/

/-- A number as read: a word, a negative word, or a binary64 value. -/
inductive Number where
  | unsigned (n : Nat)
  | negative (n : Nat)
  | float (x : Binary64)

/-- The bound of a machine word. -/
def wordLimit : Nat := Nat.pow 2 64

/-- Whether one more digit would overflow the word. -/
def overflows (significand digit : Nat) : Bool := wordLimit ≤ significand * 10 + digit

/-- Clamps to the range of a 32-bit exponent. -/
def clampExponent (e : Int) : Int := max (-2147483648) (min 2147483647 e)

/-- The greatest power of ten that is a finite binary64 value. -/
def maxPowerOfTen : Nat := 308

/-- The binary64 value nearest to `10 ^ k`. -/
def powerOfTen (k : Nat) : Binary64 := Binary64.ofRatio (Nat.pow 10 k) 1

/-- Scales `f` by `10 ^ exponent`, dividing by `10 ^ 308` while the exponent is below
the range, for at most `fuel` steps. -/
def scaleUpTo : Nat → Binary64 → Int → Reader Binary64
  | 0, f, _ => pure f
  | fuel + 1, f, exponent =>
    if exponent.natAbs ≤ maxPowerOfTen then
      let pow := powerOfTen exponent.natAbs
      if 0 ≤ exponent then
        let g := Binary64.mul f pow
        if !g.isFinite then failHere .numberOutOfRange else pure g
      else pure (Binary64.div f pow)
    else if f.magnitude.m = 0 then pure f
    else if 0 ≤ exponent then failHere .numberOutOfRange
    else scaleUpTo fuel (Binary64.div f (powerOfTen maxPowerOfTen)) (exponent + maxPowerOfTen)

/-- The value `significand * 10 ^ exponent` with its sign. -/
def fromParts (positive : Bool) (significand : Nat) (exponent : Int) : Reader Binary64 := do
  let f ← scaleUpTo 4 (Binary64.ofNat significand) exponent
  pure (if positive then f else f.negate)

/-- Skips the digits ahead. -/
def skipDigits : Reader Unit :=
  modify fun c =>
    let n := (c.rest.takeWhile isDigit).length
    ⟨c.rest.drop n, c.offset + n⟩

/-- The digits ahead, taken. -/
def takeDigits : Reader (List UInt8) := do
  let c ← get
  let ds := c.rest.takeWhile isDigit
  set (Cursor.mk (c.rest.drop ds.length) (c.offset + ds.length))
  pure ds

/-- Reads an exponent after `e` when its digits overflow: zero for a negative exponent
or a zero significand, out of range otherwise. -/
def exponentOverflow (positive zeroSignificand positiveExp : Bool) : Reader Binary64 := do
  if !zeroSignificand && positiveExp then failHere .numberOutOfRange
  else
    skipDigits
    pure (if positive then Binary64.zero else Binary64.zero.negate)

/-- Reads the exponent part after `e` or `E`, adding it to `start`. -/
def exponentPart (positive : Bool) (significand : Nat) (start : Int) : Reader Binary64 := do
  eat
  let positiveExp ← do
    match ← peekOrNull with
    | 43 => eat; pure true
    | 45 => eat; pure false
    | _ => pure true
  match ← nextByte with
  | none => failHere .eofWhileParsingValue
  | some b =>
    if !isDigit b then failHere .invalidNumber
    else
      let ds ← (do
        let c ← get
        pure (c.rest.takeWhile isDigit))
      -- each digit is taken, then the exponent must still fit 31 bits
      let rec go (exp : Nat) : List UInt8 → Reader (Option Nat)
        | [] => pure (some exp)
        | d :: rest => do
          eat
          let v := exp * 10 + digitValue d
          if 2147483647 < v then pure none else go v rest
      match ← go (digitValue b) ds with
      | none => exponentOverflow positive (significand = 0) positiveExp
      | some exp =>
        let final := clampExponent (if positiveExp then start + exp else start - exp)
        fromParts positive significand final

/-- Reads digits after the decimal point onto `significand`. -/
def decimalPart (positive : Bool) (significand : Nat) (before : Int) : Reader Binary64 := do
  eat
  let ds ← (do pure ((← get).rest.takeWhile isDigit))
  let rec go (sig : Nat) (after : Int) : List UInt8 → Reader (Nat × Int × Bool)
    | [] => pure (sig, after, false)
    | d :: rest =>
      if overflows sig (digitValue d) then pure (sig, after, true)
      else do
        eat
        go (sig * 10 + digitValue d) (after - 1) rest
  let (sig, after, overflowed) ← go significand 0 ds
  if overflowed then
    skipDigits
    match ← peekOrNull with
    | 101 | 69 => exponentPart positive sig (before + after)
    | _ => fromParts positive sig (before + after)
  else if after = 0 then
    match ← peek with
    | some _ => failAhead .invalidNumber
    | none => failAhead .eofWhileParsingValue
  else
    match ← peekOrNull with
    | 101 | 69 => exponentPart positive sig (before + after)
    | _ => fromParts positive sig (before + after)

/-- Reads what follows the integer part of a number. -/
def numberTail (positive : Bool) (significand : Nat) : Reader Number := do
  match ← peekOrNull with
  | 46 => .float <$> decimalPart positive significand 0
  | 101 | 69 => .float <$> exponentPart positive significand 0
  | _ =>
    if positive then pure (.unsigned significand)
    else if significand = 0 ∨ Nat.pow 2 63 < significand then
      pure (.float (Binary64.ofNat significand).negate)
    else pure (.negative significand)

/-- Reads an integer part too long for a word: the digits past it raise the exponent. -/
def longInteger (positive : Bool) (significand : Nat) : Reader Binary64 := do
  let extra := (← takeDigits).length
  match ← peekOrNull with
  | 46 => decimalPart positive significand extra
  | 101 | 69 => exponentPart positive significand extra
  | _ => fromParts positive significand extra

/-- Reads a number after its sign. -/
def readNumber (positive : Bool) : Reader Number := do
  match ← nextByte with
  | none => failHere .eofWhileParsingValue
  | some b =>
    if b == 48 then
      if isDigit (← peekOrNull) then failAhead .invalidNumber else numberTail positive 0
    else if isDigit b then
      let ds ← (do pure ((← get).rest.takeWhile isDigit))
      let rec go (sig : Nat) : List UInt8 → Reader Number
        | [] => numberTail positive sig
        | d :: rest =>
          if overflows sig (digitValue d) then .float <$> longInteger positive sig
          else do
            eat
            go (sig * 10 + digitValue d) rest
      go (digitValue b) ds
    else failHere .invalidNumber

/-- The binary64 value of a number as read. -/
def Number.toBinary64 : Number → Binary64
  | .unsigned n => Binary64.ofNat n
  | .negative n => (Binary64.ofNat n).negate
  | .float x => x

/-- How a number is named when it is not what was expected. -/
def Number.describe : Number → String
  | .unsigned n => s!"integer `{n}`"
  | .negative n => s!"integer `-{n}`"
  | .float x => "floating point `" ++ numberText x ++ "`"

/-! ## Skipping values -/

/-- Skips an integer part and what follows it, checking the grammar only. -/
def skipNumber : Reader Unit := do
  let first := (← nextByte).getD 0
  if first == 48 then
    if isDigit (← peekOrNull) then failAhead .invalidNumber
  else if isDigit first then skipDigits
  else failHere .invalidNumber
  let skipExponent : Reader Unit := do
    eat
    match ← peekOrNull with
    | 43 | 45 => eat
    | _ => pure ()
    let b := (← nextByte).getD 0
    if !isDigit b then failHere .invalidNumber
    skipDigits
  match ← peekOrNull with
  | 46 =>
    eat
    let ds ← takeDigits
    if ds.isEmpty then failAhead .invalidNumber
    match ← peekOrNull with
    | 101 | 69 => skipExponent
    | _ => pure ()
  | 101 | 69 => skipExponent
  | _ => pure ()

/-- Skips the escape after a backslash, checking only its form. -/
def skipEscape : Reader Unit := do
  let b ← escapeByte
  if b == 117 then
    let _ ← hexEscape
  else if b == 34 || b == 92 || b == 47 || b == 98 || b == 102 || b == 110 || b == 114 || b == 116
  then pure ()
  else failHere .invalidEscape

/-- Skips the rest of a string after its opening quote, for at most `fuel` escapes; a
control character is reported at its own offset. -/
def skipStringUpTo : Nat → Reader Unit
  | 0 => failHere .eofWhileParsingString
  | fuel + 1 => do
    skipWhile isPlain
    match ← peek with
    | none => failHere .eofWhileParsingString
    | some b =>
      if b == 34 then eat
      else if b == 92 then
        eat
        skipEscape
        skipStringUpTo fuel
      else failHere .controlCharacterWhileParsingString

/-- Skips the rest of a string after its opening quote. -/
def skipString : Reader Unit := do
  skipStringUpTo ((← get).rest.length + 1)

/-- The error for a container that the text leaves open. -/
def unclosed (frame : UInt8) : ErrorCode :=
  if frame == 91 then .eofWhileParsingList else .eofWhileParsingObject

/-- The error for a byte where a container expects a comma or its end. -/
def expectedCommaOrEnd (frame : UInt8) : ErrorCode :=
  if frame == 91 then .expectedListCommaOrEnd else .expectedObjectCommaOrEnd

/-- Whether `b` closes the container opened by `frame`. -/
def closes (frame b : UInt8) : Bool := (frame == 91 && b == 93) || (frame == 123 && b == 125)

/-- After a value in `frame` (with `outer` around it), closes containers while they
end; gives the container in which the next value follows, or `none` when the outermost
has closed. `acceptComma` is false right after `frame` opened. -/
def closeContainersUpTo : Nat → Bool → UInt8 → List UInt8 → Reader (Option (UInt8 × List UInt8))
  | 0, _, _, _ => failHere .eofWhileParsingValue
  | fuel + 1, acceptComma, frame, outer => do
    match ← skipBlanks with
    | none => failAhead (unclosed frame)
    | some b =>
      if b == 44 && acceptComma then
        eat
        pure (some (frame, outer))
      else if closes frame b then
        eat
        match outer with
        | [] => pure none
        | f :: rest => closeContainersUpTo fuel true f rest
      else if acceptComma then failAhead (expectedCommaOrEnd frame)
      else pure (some (frame, outer))

/-- Skips values of any shape, with `stack` the containers still open, innermost first;
`fuel` bounds the steps. -/
def skipValueUpTo : Nat → List UInt8 → Reader Unit
  | 0, _ => failHere .eofWhileParsingValue
  | fuel + 1, stack => do
    let some b ← skipBlanks | failAhead .eofWhileParsingValue
    let opened ← (do
      if b == 110 then eat; expectWord [117, 108, 108]; pure none
      else if b == 116 then eat; expectWord [114, 117, 101]; pure none
      else if b == 102 then eat; expectWord [97, 108, 115, 101]; pure none
      else if b == 45 then eat; skipNumber; pure none
      else if isDigit b then skipNumber; pure none
      else if b == 34 then eat; skipString; pure none
      else if b == 91 || b == 123 then eat; pure (some b)
      else failAhead .expectedSomeValue)
    let next ← match opened, stack with
      | some frame, _ => closeContainersUpTo (fuel + 1) false frame stack
      | none, [] => pure none
      | none, frame :: outer => closeContainersUpTo (fuel + 1) true frame outer
    match next with
    | none => pure ()
    | some (frame, outer) =>
      if frame == 123 then
        match ← skipBlanks with
        | some 34 => eat; skipString
        | some _ => failAhead .keyMustBeAString
        | none => failAhead .eofWhileParsingObject
        match ← skipBlanks with
        | some 58 => eat
        | some _ => failAhead .expectedColon
        | none => failAhead .eofWhileParsingObject
      skipValueUpTo fuel (frame :: outer)

/-- Skips a value of any shape. -/
def skipValue : Reader Unit := do
  skipValueUpTo (2 * (← get).rest.length + 2) []

/-! ## What a value is, when it is not what was expected -/

/-- Refuses the value ahead as not of the expected kind, naming what it is. -/
def wrongType {α : Type} (expected : String) : Reader α := placeErrors do
  match ← peekOrNull with
  | 110 => eat; expectWord [117, 108, 108]; refuse s!"invalid type: null, expected {expected}"
  | 116 => eat; expectWord [114, 117, 101]; refuse s!"invalid type: boolean `true`, expected {expected}"
  | 102 =>
    eat; expectWord [97, 108, 115, 101]
    refuse s!"invalid type: boolean `false`, expected {expected}"
  | 45 =>
    eat
    let n ← readNumber false
    refuse ("invalid type: " ++ n.describe ++ ", expected " ++ expected)
  | 34 =>
    eat
    let s ← stringBody
    refuse ("invalid type: string " ++ Text.quoteLiteral s ++ ", expected " ++ expected)
  | 91 => refuse s!"invalid type: sequence, expected {expected}"
  | 123 => refuse s!"invalid type: map, expected {expected}"
  | b =>
    if isDigit b then
      let n ← readNumber true
      refuse ("invalid type: " ++ n.describe ++ ", expected " ++ expected)
    else failAhead .expectedSomeValue

/-! ## Typed values -/

/-- Reads a string. -/
def readString : Reader String := placeErrors do
  match ← skipBlanks with
  | none => failAhead .eofWhileParsingValue
  | some 34 => eat; stringBody
  | some _ => wrongType "a string"

/-- Reads a binary64 number. -/
def readBinary64 : Reader Binary64 := do
  match ← skipBlanks with
  | none => failAhead .eofWhileParsingValue
  | some 45 => eat; Number.toBinary64 <$> readNumber false
  | some b => if isDigit b then Number.toBinary64 <$> readNumber true else wrongType "f64"

/-- Reads `null` as `none`, anything else with `r`. -/
def readOption {α : Type} (r : Reader α) : Reader (Option α) := do
  match ← skipBlanks with
  | some 110 => eat; expectWord [117, 108, 108]; pure none
  | _ => some <$> r

/-- The closing step of an array: `]`, or else the reason it is missing. -/
def closeArray : Reader Unit := do
  match ← skipBlanks with
  | some 93 => eat
  | some 44 =>
    eat
    match ← skipBlanks with
    | some 93 => failAhead .trailingComma
    | _ => failAhead .trailingCharacters
  | some _ => failAhead .trailingCharacters
  | none => failAhead .eofWhileParsingList

/-- The closing step of an object: `}`, or else the reason it is missing. -/
def closeObject : Reader Unit := do
  match ← skipBlanks with
  | some 125 => eat
  | some 44 => failAhead .trailingComma
  | some _ => failAhead .trailingCharacters
  | none => failAhead .eofWhileParsingObject

/-- Moves to the next element of an array: `false` at its end. `first` tells whether an
element was read before. -/
def nextElement (first : Bool) : Reader Bool := do
  let ahead ← (do
    match ← skipBlanks with
    | some 93 => pure none
    | some 44 =>
      if first then pure (some (some 44))
      else
        eat
        pure (some (← skipBlanks))
    | some b =>
      if first then pure (some (some b)) else failAhead .expectedListCommaOrEnd
    | none => failAhead .eofWhileParsingList)
  match ahead with
  | none => pure false
  | some (some 93) => failAhead .trailingComma
  | some (some _) => pure true
  | some none => failAhead .eofWhileParsingValue

/-- Reads the elements of an array after `[` with `r`, for at most `fuel` elements. -/
def elementsUpTo {α : Type} (r : Reader α) : Nat → Bool → List α → Reader (List α)
  | 0, _, acc => pure acc.reverse
  | fuel + 1, first, acc => do
    if ← nextElement first then
      let x ← r
      elementsUpTo r fuel false (x :: acc)
    else pure acc.reverse

/-- Reads an array of values, each with `r`. -/
def readArray {α : Type} (r : Reader α) : Reader (List α) := placeErrors do
  match ← skipBlanks with
  | none => failAhead .eofWhileParsingValue
  | some 91 =>
    eat
    let items ← attempt (elementsUpTo r ((← get).rest.length + 1) true [])
    let closing ← attempt closeArray
    bothOrFirst items closing
  | some _ => wrongType "a sequence"

/-- Moves to the next key of an object and reads it: `none` at the object's end. -/
def nextKey (first : Bool) : Reader (Option String) := do
  let ahead ← (do
    match ← skipBlanks with
    | some 125 => pure none
    | some 44 =>
      if first then pure (some (some 44))
      else
        eat
        pure (some (← skipBlanks))
    | some b =>
      if first then pure (some (some b)) else failAhead .expectedObjectCommaOrEnd
    | none => failAhead .eofWhileParsingObject)
  match ahead with
  | none => pure none
  | some (some 34) =>
    eat
    some <$> stringBody
  | some (some 125) => failAhead .trailingComma
  | some (some _) => failAhead .keyMustBeAString
  | some none => failAhead .eofWhileParsingValue

/-- Takes the colon between a key and its value. -/
def colon : Reader Unit := do
  match ← skipBlanks with
  | some 58 => eat
  | some _ => failAhead .expectedColon
  | none => failAhead .eofWhileParsingObject

/-- Checks that only white space is left. -/
def finish : Reader Unit := do
  match ← skipBlanks with
  | some _ => failAhead .trailingCharacters
  | none => pure ()

/-- Runs a reader on a whole text. -/
def run {α : Type} (r : Reader α) (input : Bytes) : Except Error α :=
  ((r <* finish).run.run ⟨input, 0⟩).1

end Json

end ShardDump
