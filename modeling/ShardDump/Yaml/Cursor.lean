import ShardDump.Yaml.Mark

/-!
# Reading YAML text one character at a time

A `Cursor` is YAML text with a place in it. Reading a character moves the mark one column
on; reading a line break moves it to the start of the next line.

Line breaks are CR LF, CR, LF, NEL, LS and PS, and a CR LF pair is one break. Inside a
scalar a break stands for a line feed, except LS and PS, which stand for themselves. Blanks
are the space and the tab. Names of anchors, tag handles and directives are made of ASCII
letters and digits, `_` and `-`.

YAML text may not hold the C0 and C1 control characters other than tab, line feed,
carriage return and NEL, nor DEL, U+FFFE and U+FFFF. Text is decoded in chunks of 16384
bytes, and a chunk is checked for such characters when the reader first needs one of its
characters; `obstacle?` finds the chunk that first holds one, so a reader meets it only
when it reads that far.
-/

namespace ShardDump

namespace Yaml

/-- Whether a character breaks a line. -/
def isBreak (c : Char) : Bool :=
  c == '\r' || c == '\n' || c == '\u0085' || c == '\u2028' || c == '\u2029'

/-- Whether a character is a blank: a space or a tab. -/
def isBlank (c : Char) : Bool := c == ' ' || c == '\t'

/-- Whether a character may be part of a name: an ASCII letter or digit, `_` or `-`. -/
def isWordChar (c : Char) : Bool := c.isAlphanum || c == '_' || c == '-'

/-- The value of an ASCII hexadecimal digit. -/
def hexDigit (c : Char) : Option Nat :=
  if c.isDigit then some (c.toNat - '0'.toNat)
  else if 'a' ≤ c && c ≤ 'f' then some (c.toNat - 'a'.toNat + 10)
  else if 'A' ≤ c && c ≤ 'F' then some (c.toNat - 'A'.toNat + 10)
  else none

/-- Whether YAML text may hold a character: tab, line feed, carriage return, printable
ASCII, NEL, and every other character from U+00A0 on but U+FFFE and U+FFFF. -/
def isAllowed (c : Char) : Bool :=
  let n := c.toNat
  n == 0x09 || n == 0x0A || n == 0x0D || (0x20 ≤ n && n ≤ 0x7E) || n == 0x85 ||
    (0xA0 ≤ n && n ≤ 0xFFFD) || 0x10000 ≤ n

/-- How many bytes of text are decoded and checked at a time. -/
def chunkSize : Nat := 16384

/-- Where reading meets a character that YAML text may not hold. A chunk holds the whole
characters that end within its bytes; the first chunk with a forbidden character starts
at character `start`, byte `startByte`, and the character is at byte `offset`. -/
structure Obstacle where
  start : Nat
  startByte : Nat
  offset : Nat
  deriving DecidableEq, Repr

/-- The obstacle of a text, if it holds a character that YAML text may not hold. -/
def obstacle? (s : String) : Option Obstacle :=
  go s.toList 0 0 0 0 0
where
  /-- `i` characters of `b` bytes are behind; the last of them is in chunk `k`, which
  starts at character `ci`, byte `cb`. -/
  go : List Char → Nat → Nat → Nat → Nat → Nat → Option Obstacle
    | [], _, _, _, _, _ => none
    | c :: cs, i, b, k, ci, cb =>
      let e := b + c.utf8Size
      let kc := (e + chunkSize - 1) / chunkSize
      let ci := if kc = k then ci else i
      let cb := if kc = k then cb else b
      if isAllowed c then go cs (i + 1) e kc ci cb else some ⟨ci, cb, b⟩

/-- YAML text with a place in it: the characters, the place of the next one, and its
mark. -/
structure Cursor where
  chars : Array Char
  pos : Nat
  mark : Mark

namespace Cursor

/-- The start of a text. -/
def ofString (s : String) : Cursor := ⟨s.toList.toArray, 0, Mark.origin⟩

/-- The character `k` places ahead, if the text goes on that far. -/
def charAt (c : Cursor) (k : Nat) : Option Char := c.chars[c.pos + k]?

/-- Whether the text has ended. -/
def atEnd (c : Cursor) : Bool := c.chars.size ≤ c.pos

/-- How many characters are left. -/
def remaining (c : Cursor) : Nat := c.chars.size - c.pos

/-- Whether the character `k` places ahead is `ch`. -/
def isAt (c : Cursor) (k : Nat) (ch : Char) : Bool := c.charAt k == some ch

/-- Whether the next character is `ch`. -/
def is (c : Cursor) (ch : Char) : Bool := c.isAt 0 ch

/-- Whether the character `k` places ahead is one of `chars`. -/
def isOneOf (c : Cursor) (k : Nat) (chars : List Char) : Bool :=
  (c.charAt k).any chars.contains

/-- Whether the character `k` places ahead is a line break. -/
def breakAt (c : Cursor) (k : Nat) : Bool := (c.charAt k).any isBreak

/-- Whether the character `k` places ahead is a blank. -/
def blankAt (c : Cursor) (k : Nat) : Bool := (c.charAt k).any isBlank

/-- Whether the text has a line break or ends `k` places ahead. -/
def breakOrEndAt (c : Cursor) (k : Nat) : Bool := (c.charAt k).all isBreak

/-- Whether the text has a blank or a line break or ends `k` places ahead. -/
def spaceOrEndAt (c : Cursor) (k : Nat) : Bool :=
  (c.charAt k).all fun ch => isBlank ch || isBreak ch

/-- The value of the hexadecimal digit `k` places ahead. -/
def hexAt (c : Cursor) (k : Nat) : Option Nat := (c.charAt k).bind hexDigit

/-- The value of the `n` hexadecimal digits ahead, if they are all there. -/
def hexNumber (c : Cursor) (n : Nat) : Option Nat :=
  (List.range n).foldl (fun acc k => acc.bind fun a => (c.hexAt k).map (a * 16 + ·)) (some 0)

/-- The cursor one character further. -/
def skip (c : Cursor) : Cursor :=
  { c with pos := c.pos + 1, mark := c.mark.next ((c.charAt 0).elim 1 Char.utf8Size) }

/-- The cursor `n` characters further. -/
def skipN : Nat → Cursor → Cursor
  | 0, c => c
  | n + 1, c => skipN n c.skip

/-- The cursor after the line break ahead; a cursor not at a break stays. -/
def skipBreak (c : Cursor) : Cursor :=
  if c.is '\r' && c.isAt 1 '\n' then { c with pos := c.pos + 2, mark := c.mark.nextLine 2 }
  else if c.breakAt 0 then
    { c with pos := c.pos + 1, mark := c.mark.nextLine ((c.charAt 0).elim 1 Char.utf8Size) }
  else c

/-- Reads the line break ahead: the text it stands for in a scalar, and the cursor after
it. A cursor not at a break stays and reads nothing. -/
def readBreak (c : Cursor) : String × Cursor :=
  match c.charAt 0 with
  | some ch =>
    if ch == '\u2028' || ch == '\u2029' then (ch.toString, c.skipBreak)
    else if isBreak ch then ("\n", c.skipBreak)
    else ("", c)
  | none => ("", c)

/-- The cursor after the characters ahead for which `p` holds of the cursor. -/
def skipWhile (p : Cursor → Bool) (c : Cursor) : Cursor :=
  loop (c.remaining + 1) c
where
  loop : Nat → Cursor → Cursor
    | 0, c => c
    | n + 1, c => if p c then loop n c.skip else c

/-- Reads the characters ahead that satisfy `p`. -/
def takeWhile (p : Char → Bool) (c : Cursor) : String × Cursor :=
  loop (c.remaining + 1) "" c
where
  loop : Nat → String → Cursor → String × Cursor
    | 0, s, c => (s, c)
    | n + 1, s, c =>
      match c.charAt 0 with
      | some ch => if p ch then loop n (s.push ch) c.skip else (s, c)
      | none => (s, c)

/-- Reads a name: the word characters ahead. -/
def takeWord (c : Cursor) : String × Cursor := c.takeWhile isWordChar

/-- The cursor after the blanks ahead. -/
def skipBlanks (c : Cursor) : Cursor := c.skipWhile (·.blankAt 0)

/-- The cursor after a comment ahead, up to the line break; any other cursor stays. -/
def skipComment (c : Cursor) : Cursor :=
  if c.is '#' then c.skipWhile (fun c => !c.breakOrEndAt 0) else c

/-- Whether a document marker starts here: `---` or `...` at the start of a line, followed
by a blank, a line break or the end. -/
def atDocumentMarker (c : Cursor) : Bool :=
  c.mark.column == 0 &&
    ((c.is '-' && c.isAt 1 '-' && c.isAt 2 '-') || (c.is '.' && c.isAt 1 '.' && c.isAt 2 '.')) &&
    c.spaceOrEndAt 3

end Cursor

end Yaml

end ShardDump
