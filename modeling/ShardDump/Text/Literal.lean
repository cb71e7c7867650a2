import ShardDump.Text.Printable

/-!
# Quoted literals

`quoteLiteral` writes text between double quotes so that a reader sees every character:
the quote, the backslash, NUL, tab, carriage return and newline take a backslash
escape, characters that are not printable or that would join the character before them
are written as `\u` followed by their code point in lowercase hexadecimal between braces,
and all others stand as they are.
-/

namespace ShardDump

namespace Text

/-- The code point of `c` in lowercase hexadecimal between braces after `\u`. -/
def unicodeEscape (c : Char) : String :=
  "\\u\x7b" ++ String.ofList (Nat.toDigits 16 c.toNat) ++ "\x7d"

/-- The quoted form of one character. -/
def escapeChar (c : Char) : String :=
  if c = '\x00' then "\\0"
  else if c = '\t' then "\\t"
  else if c = '\r' then "\\r"
  else if c = '\n' then "\\n"
  else if c = '\\' then "\\\\"
  else if c = '"' then "\\\""
  else if isGraphemeExtend c then unicodeEscape c
  else if isPrintable c then c.toString
  else unicodeEscape c

/-- Text between double quotes with every character in its quoted form. -/
def quoteLiteral (s : String) : String :=
  "\"" ++ String.join (s.toList.map escapeChar) ++ "\""

end Text

end ShardDump
