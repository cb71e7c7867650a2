import ShardDump.Binary64.Round
import ShardDump.Binary64.Shortest
import ShardDump.Text.Literal

/-!
# Plain YAML scalars

An unquoted scalar with no tag means a value of the first kind whose form it has: null
(empty, `~` or `null`), a boolean (`true` or `false`, also capitalised or in capitals), an
integer (decimal, or `0x`, `0o`, `0b` with an optional sign), a floating-point number, or
else a string. Decimal integers with a leading zero are strings. Integers are told apart
by the machine types they fit: unsigned and signed 64-bit words first, then 128-bit ones.

A refused scalar is described by what it means: `integer 5`, `floating point 1.5`,
`string "x"`, and so on; a floating-point number is written with all its digits and no
exponent, and with `.0` when it is whole.
-/

namespace ShardDump

namespace Yaml

/-- What an unquoted scalar means. -/
inductive PlainValue where
  | null
  | bool (b : Bool)
  /-- An integer that fits an unsigned 64-bit word. -/
  | unsigned (n : Nat)
  /-- An integer that fits a signed 64-bit word and not an unsigned one. -/
  | signed (i : Int)
  /-- An integer that fits only an unsigned 128-bit word. -/
  | wideUnsigned (n : Nat)
  /-- An integer that fits only a signed 128-bit word. -/
  | wideSigned (i : Int)
  | float (x : Binary64)
  | text (s : String)
  deriving DecidableEq, Repr

/-- The value of a digit in a radix of at most 16. -/
def digitIn (radix : Nat) (c : Char) : Option Nat :=
  let v :=
    if c.isDigit then some (c.toNat - '0'.toNat)
    else if 'a' ≤ c && c ≤ 'f' then some (c.toNat - 'a'.toNat + 10)
    else if 'A' ≤ c && c ≤ 'F' then some (c.toNat - 'A'.toNat + 10)
    else none
  v.bind fun d => if d < radix then some d else none

/-- The value of one or more digits in a radix. -/
def digitsValue (radix : Nat) (cs : List Char) : Option Nat :=
  if cs.isEmpty then none
  else cs.foldl (fun acc c => acc.bind fun a => (digitIn radix c).map fun d => a * radix + d) (some 0)

/-- Whether a text starts with a sign. -/
def startsWithSign (cs : List Char) : Bool := cs.head? == some '+' || cs.head? == some '-'

/-- Digits with a leading zero, after an optional sign: a string, not a number. -/
def digitsButNotNumber (cs : List Char) : Bool :=
  let rest := if startsWithSign cs then cs.drop 1 else cs
  rest.length > 1 && rest.head? == some '0' && (rest.drop 1).all Char.isDigit

/-- The radix a prefix names, with the digits after it. -/
def radixPrefix : List Char → Option (Nat × List Char)
  | '0' :: 'x' :: rest => some (16, rest)
  | '0' :: 'o' :: rest => some (8, rest)
  | '0' :: 'b' :: rest => some (2, rest)
  | _ => none

/-- A non-negative integer below `bound`, with an optional plus sign. -/
def unsignedBelow (bound : Nat) (cs : List Char) : Option Nat :=
  let u := match cs with
    | '+' :: r => r
    | _ => cs
  let decimal :=
    if startsWithSign u || digitsButNotNumber cs then none
    else (digitsValue 10 u).filter (· < bound)
  match radixPrefix u with
  | some (radix, rest) =>
    if startsWithSign rest then none
    else match (digitsValue radix rest).filter (· < bound) with
      | some n => some n
      | none => decimal
  | none => decimal

/-- A signed integer in `[-bound, bound)`, with an optional sign, the way a signed machine
word reads one. -/
def signedDigits (bound radix : Nat) (cs : List Char) : Option Int :=
  match cs with
  | '-' :: rest => (digitsValue radix rest).bind fun n => if n ≤ bound then some (-(n : Int)) else none
  | '+' :: rest => (digitsValue radix rest).bind fun n => if n < bound then some (n : Int) else none
  | _ => (digitsValue radix cs).bind fun n => if n < bound then some (n : Int) else none

/-- A negative integer in a signed word of `[-bound, bound)`: `-0x`, `-0o`, `-0b` forms
first, then a decimal. -/
def signedWithin (bound : Nat) (cs : List Char) : Option Int :=
  let prefixed := match cs with
    | '-' :: rest =>
      (radixPrefix rest).bind fun (radix, digits) => signedDigits bound radix ('-' :: digits)
    | _ => none
  match prefixed with
  | some i => some i
  | none => if digitsButNotNumber cs then none else signedDigits bound 10 cs

/-- The parts of a decimal number: an optional sign, digits with an optional point, and an
optional exponent. Gives the sign, the digits as one number, and the power of ten. -/
def decimalParts (cs : List Char) : Option (Bool × Nat × Int) :=
  let (negative, body) := match cs with
    | '-' :: r => (true, r)
    | '+' :: r => (false, r)
    | _ => (false, cs)
  let whole := body.takeWhile Char.isDigit
  let afterWhole := body.drop whole.length
  let (fraction, afterFraction) := match afterWhole with
    | '.' :: r => (r.takeWhile Char.isDigit, r.drop (r.takeWhile Char.isDigit).length)
    | _ => ([], afterWhole)
  if whole.isEmpty && fraction.isEmpty then none
  else
    let exponent : Option Int := match afterFraction with
      | [] => some 0
      | e :: r =>
        if e == 'e' || e == 'E' then
          let (expNegative, digits) := match r with
            | '-' :: d => (true, d)
            | '+' :: d => (false, d)
            | _ => (false, r)
          if digits.isEmpty || !digits.all Char.isDigit then none
          else
            let n := (digitsValue 10 digits).getD 0
            some (if expNegative then -(n : Int) else n)
        else none
    exponent.map fun exp =>
      (negative, (digitsValue 10 (whole ++ fraction)).getD 0, exp - fraction.length)

/-- The binary64 value nearest to `digits * 10 ^ exp`, infinity when that is past the
largest finite value. -/
def binaryOfDecimal (negative : Bool) (digits : Nat) (exp : Int) : Binary64 :=
  let magnitude :=
    if digits = 0 then Binary64.zero
    else
      let size : Int := (toString digits).length
      if 310 < size + exp then Binary64.infinity
      else if size + exp < -400 then Binary64.zero
      else if 0 ≤ exp then Binary64.ofRatio (digits * Nat.pow 10 exp.toNat) 1
      else Binary64.ofRatio digits (Nat.pow 10 (-exp).toNat)
  if negative then magnitude.negate else magnitude

/-- A floating-point number, if the text has the form of a finite one or of the YAML
infinities and NaN. -/
def floatOf (cs : List Char) : Option Binary64 :=
  let unpositive := match cs with
    | '+' :: r => r
    | _ => cs
  let s := String.ofList unpositive
  if cs.head? == some '+' && startsWithSign unpositive then none
  else if s == ".inf" || s == ".Inf" || s == ".INF" then some Binary64.infinity
  else if String.ofList cs == "-.inf" || String.ofList cs == "-.Inf" || String.ofList cs == "-.INF" then
    some Binary64.infinity.negate
  else if String.ofList cs == ".nan" || String.ofList cs == ".NaN" || String.ofList cs == ".NAN" then
    some ⟨0x7FF8000000000000⟩
  else
    (decimalParts unpositive).bind fun (negative, digits, exp) =>
      let x := binaryOfDecimal negative digits exp
      if x.isFinite then some x else none

/-- Whether a text is one of the words for null: `~`, `null`, `Null`, `NULL`. -/
def isNullWord (s : String) : Bool := s == "~" || s == "null" || s == "Null" || s == "NULL"

/-- The boolean a text names: `true` or `false`, also capitalised or in capitals. -/
def boolOf (s : String) : Option Bool :=
  if s == "true" || s == "True" || s == "TRUE" then some true
  else if s == "false" || s == "False" || s == "FALSE" then some false
  else none

/-- The integer a text writes, in the first machine type it fits: an unsigned 64-bit
word, a signed one, then the 128-bit ones. -/
def intOf (s : String) : Option PlainValue :=
  let cs := s.toList
  match unsignedBelow (Nat.pow 2 64) cs with
  | some n => some (.unsigned n)
  | none =>
    match signedWithin (Nat.pow 2 63) cs with
    | some i => some (.signed i)
    | none =>
      match unsignedBelow (Nat.pow 2 128) cs with
      | some n => some (.wideUnsigned n)
      | none => (signedWithin (Nat.pow 2 127) cs).map .wideSigned

/-- What an unquoted scalar means. -/
def classify (s : String) : PlainValue :=
  let cs := s.toList
  if s.isEmpty || isNullWord s then .null
  else
    match boolOf s with
    | some b => .bool b
    | none =>
      match intOf s with
      | some v => v
      | none =>
        match (if digitsButNotNumber cs then none else floatOf cs) with
        | some x => .float x
        | none => .text s

/-- The tag of booleans. -/
def boolTag : String := "tag:yaml.org,2002:bool"

/-- The tag of integers. -/
def intTag : String := "tag:yaml.org,2002:int"

/-- The tag of floating-point numbers. -/
def floatTag : String := "tag:yaml.org,2002:float"

/-- The tag of null. -/
def nullTag : String := "tag:yaml.org,2002:null"

/-- A binary64 value written positionally, with no exponent, in its shortest decimal; of
two shortest decimals equally near, the one of larger magnitude is written. -/
def floatDigits (x : Binary64) : String :=
  if x.exponentField == 0x7FF then
    if x.fraction != 0 then "NaN" else if x.sign then "-inf" else "inf"
  else
    let sign := if x.sign then "-" else ""
    let m := x.magnitude
    if m.m = 0 then sign ++ "0"
    else
      let d := m.shortest .toAway
      let s := toString d.digits
      if 0 ≤ d.exp then sign ++ s ++ String.ofList (List.replicate d.exp.toNat '0')
      else
        let shift := (-d.exp).toNat
        if shift < s.length then
          sign ++ String.ofList (s.toList.take (s.length - shift)) ++ "."
            ++ String.ofList (s.toList.drop (s.length - shift))
        else sign ++ "0." ++ String.ofList (List.replicate (shift - s.length) '0') ++ s

/-- A finite number written with a decimal point: `.0` is added to a whole number. -/
def withPoint (x : Binary64) : String :=
  let s := floatDigits x
  if x.isFinite && !s.contains '.' then s ++ ".0" else s

/-- How a refusal names a scalar. -/
def PlainValue.describe : PlainValue → String
  | .null => "unit value"
  | .bool b => "boolean `" ++ (if b then "true" else "false") ++ "`"
  | .unsigned n => "integer `" ++ toString n ++ "`"
  | .signed i => "integer `" ++ toString i ++ "`"
  | .wideUnsigned n => "integer `" ++ toString n ++ "` as u128"
  | .wideSigned i => "integer `" ++ toString i ++ "` as i128"
  | .float x => "floating point `" ++ withPoint x ++ "`"
  | .text s => "string " ++ Text.quoteLiteral s

end Yaml

end ShardDump
