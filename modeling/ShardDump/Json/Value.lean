import ShardDump.Binary64.Shortest

/-!
# Writing JSON text

A `JsonValue` is the shape of what is written: literals, numbers already in their text,
strings, arrays and objects with their fields in order. Strings escape the quote, the
backslash and the control characters (the common ones by letter, the others as `\u00xx`
in lowercase hexadecimal); every other character is written as it is.

Two layouts: compact, with nothing between tokens, and pretty, with each element and
field on a line of its own, indented by two spaces per level and `": "` after a key; an
empty array or object stays on one line.

A binary64 number is written with the fewest digits that read back: positionally when
its leading digit's decimal exponent is from -5 to 15 (an integral value ends in `.0`),
otherwise as digits with a point after the first, `e`, and a signed exponent. A value
that is not finite is written `null`.
-/

namespace ShardDump

/-- A JSON value to be written. -/
inductive JsonValue where
  | null
  | bool (b : Bool)
  /-- A number, given by its text. -/
  | number (text : String)
  | string (s : String)
  | array (items : List JsonValue)
  | object (fields : List (String × JsonValue))

namespace Json

/-- A hexadecimal digit in lowercase. -/
def hexDigit (n : Nat) : Char := if n < 10 then Char.ofNat (48 + n) else Char.ofNat (87 + n)

/-- The written form of one character inside a string. -/
def escapeChar (c : Char) : String :=
  if c = '"' then "\\\""
  else if c = '\\' then "\\\\"
  else if c = '\n' then "\\n"
  else if c = '\r' then "\\r"
  else if c = '\t' then "\\t"
  else if c = '\x08' then "\\b"
  else if c = '\x0c' then "\\f"
  else if c.toNat < 0x20 then
    "\\u00" ++ String.ofList [hexDigit (c.toNat / 16), hexDigit (c.toNat % 16)]
  else c.toString

/-- A string between quotes, escaped. -/
def quote (s : String) : String := "\"" ++ String.join (s.toList.map escapeChar) ++ "\""

mutual

/-- The compact text of a value. -/
def render : JsonValue → String
  | .null => "null"
  | .bool b => if b then "true" else "false"
  | .number text => text
  | .string s => quote s
  | .array items => "[" ++ renderItems items ++ "]"
  | .object fields => "\x7b" ++ renderFields fields ++ "\x7d"

/-- The compact text of array items, separated by commas. -/
def renderItems : List JsonValue → String
  | [] => ""
  | [x] => render x
  | x :: rest => render x ++ "," ++ renderItems rest

/-- The compact text of object fields, separated by commas. -/
def renderFields : List (String × JsonValue) → String
  | [] => ""
  | [(k, v)] => quote k ++ ":" ++ render v
  | (k, v) :: rest => quote k ++ ":" ++ render v ++ "," ++ renderFields rest

end

/-- The indentation of nesting level `depth`. -/
def indent (depth : Nat) : String := String.ofList (List.replicate (2 * depth) ' ')

mutual

/-- The pretty text of a value at nesting level `depth`. -/
def pretty (depth : Nat) : JsonValue → String
  | .array [] => "[]"
  | .array items => "[" ++ prettyItems (depth + 1) items ++ "\n" ++ indent depth ++ "]"
  | .object [] => "\x7b\x7d"
  | .object fields => "\x7b" ++ prettyFields (depth + 1) fields ++ "\n" ++ indent depth ++ "\x7d"
  | .null => "null"
  | .bool b => if b then "true" else "false"
  | .number text => text
  | .string s => quote s

/-- The pretty text of array items, each on a line of its own. -/
def prettyItems (depth : Nat) : List JsonValue → String
  | [] => ""
  | [x] => "\n" ++ indent depth ++ pretty depth x
  | x :: rest => "\n" ++ indent depth ++ pretty depth x ++ "," ++ prettyItems depth rest

/-- The pretty text of object fields, each on a line of its own. -/
def prettyFields (depth : Nat) : List (String × JsonValue) → String
  | [] => ""
  | [(k, v)] => "\n" ++ indent depth ++ quote k ++ ": " ++ pretty depth v
  | (k, v) :: rest =>
    "\n" ++ indent depth ++ quote k ++ ": " ++ pretty depth v ++ "," ++ prettyFields depth rest

end

/-- The decimal exponents of the leading digit that are written positionally. -/
def positionalExponents : Int × Int := (-5, 15)

/-- Lays out the digits of a non-zero decimal. -/
def layoutDecimal (d : Binary64.Decimal) : String :=
  let s := toString d.digits
  let n := s.length
  let lead : Int := d.exp + n - 1
  if positionalExponents.1 ≤ lead ∧ lead ≤ positionalExponents.2 then
    if 0 ≤ lead then
      let whole := lead.toNat + 1
      if n ≤ whole then s ++ String.ofList (List.replicate (whole - n) '0') ++ ".0"
      else String.ofList (s.toList.take whole) ++ "." ++ String.ofList (s.toList.drop whole)
    else "0." ++ String.ofList (List.replicate ((-lead).toNat - 1) '0') ++ s
  else
    let first := String.ofList (s.toList.take 1)
    let rest := String.ofList (s.toList.drop 1)
    let mantissa := if rest.isEmpty then first else first ++ "." ++ rest
    mantissa ++ "e" ++ (if lead < 0 then "-" else "+") ++ toString lead.natAbs

/-- The text of a binary64 number; `null` for a value that is not finite. Of two
shortest decimals equally near, the one with the even last digit is written. -/
def numberText (x : Binary64) : String :=
  if !x.isFinite then "null"
  else
    let sign := if x.sign then "-" else ""
    let mag := x.magnitude
    if mag.m = 0 then sign ++ "0.0" else sign ++ layoutDecimal (mag.shortest .toEven)

/-- A binary64 number as a JSON value. -/
def number (x : Binary64) : JsonValue := if x.isFinite then .number (numberText x) else .null

end Json

end ShardDump
