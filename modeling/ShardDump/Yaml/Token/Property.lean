import ShardDump.Yaml.Cursor
import ShardDump.Yaml.Token
import ShardDump.Text.Utf8

/-!
# Node properties: anchors, aliases and tags

An anchor `&name` names a node and an alias `*name` refers back to it; a name is made of
word characters and must be followed by a blank, a line break, the end or one of
`? : , ] } % @` and the backquote.

A tag is written `!<uri>` (verbatim), `!handle!suffix`, `!suffix` or `!` alone. The
suffix is made of URI characters, where `%` starts an escaped UTF-8 byte sequence. A tag
must be followed by a blank, a line break, the end, or in a flow collection a comma. The
same handles and URIs make up `%TAG` directives.

Tag texts are kept as NUL-terminated strings, so an escaped NUL byte (`%00`) ends the
text it is in: what follows it is read but not kept. A tag `!suffix` whose suffix is
empty that way is the tag `!` alone.
-/

namespace ShardDump

namespace Yaml

/-- The characters that may follow an anchor or an alias name. -/
def nameEnders : List Char := ['?', ':', ',', ']', '}', '%', '@', '\x60']

/-- Reads an anchor (`&`) or an alias (`*`). -/
def anchorOrAlias (isAnchor : Bool) (c : Cursor) : Except Problem (Token × Cursor) :=
  let start := c.mark
  let (name, c) := c.skip.takeWord
  if name.isEmpty || !(c.spaceOrEndAt 0 || c.isOneOf 0 nameEnders) then
    .error (Problem.within (if isAnchor then "while scanning an anchor" else "while scanning an alias")
      start "did not find expected alphabetic or numeric character" c.mark)
  else .ok (⟨if isAnchor then .anchor name else .alias name, start, c.mark⟩, c)

/-- Reads a tag handle: `!`, then word characters, then `!` if there is one. In a `%TAG`
directive the handle must end with `!` unless it is `!` alone. -/
def tagHandle (directive : Bool) (start : Mark) (c : Cursor) : Except Problem (String × Cursor) :=
  if !c.is '!' then
    .error (Problem.within (if directive then "while scanning a tag directive" else "while scanning a tag")
      start "did not find expected '!'" c.mark)
  else
    let (word, c) := c.skip.takeWord
    let handle := "!" ++ word
    if c.is '!' then .ok (handle ++ "!", c.skip)
    else if directive && handle != "!" then
      .error (Problem.within "while parsing a tag directive" start "did not find expected '!'" c.mark)
    else .ok (handle, c)

/-- The part of a tag text before its first NUL character, which is all of it that is
kept. -/
def untilNul (s : String) : String := String.ofList (s.toList.takeWhile (· != '\x00'))

/-- Whether a character may be part of a tag's URI; in a verbatim tag `,`, `[` and `]`
may be too. -/
def isUriChar (verbatim : Bool) (ch : Char) : Bool :=
  isWordChar ch || ";/?:@&=+$.%!~*'()".contains ch || (verbatim && ",[]".contains ch)

/-- How many bytes a UTF-8 sequence that starts with `octet` has; 0 for a byte that
cannot start one. -/
def sequenceWidth (octet : Nat) : Nat :=
  if octet < 0x80 then 1
  else if octet / 32 == 6 then 2
  else if octet / 16 == 14 then 3
  else if octet / 8 == 30 then 4
  else 0

/-- Reads the `%XX` escapes of one UTF-8 sequence in a tag: `left` more bytes are due, 0
before the first. -/
def uriEscapes (context : String) (start : Mark) :
    Nat → Nat → Bytes → Cursor → Except Problem (Bytes × Cursor)
  | 0, _, bytes, c => .ok (bytes, c)
  | fuel + 1, left, bytes, c =>
    let octet := if c.is '%' then (c.hexAt 1).bind fun h => (c.hexAt 2).map (h * 16 + ·) else none
    match octet with
    | none => .error (Problem.within context start "did not find URI escaped octet" c.mark)
    | some o =>
      if left == 0 && sequenceWidth o == 0 then
        .error (Problem.within context start "found an incorrect leading UTF-8 octet" c.mark)
      else if left != 0 && o / 64 != 2 then
        .error (Problem.within context start "found an incorrect trailing UTF-8 octet" c.mark)
      else
        let left := (if left == 0 then sequenceWidth o else left) - 1
        let bytes := bytes ++ [o.toUInt8]
        if left == 0 then .ok (bytes, c.skipN 3)
        else uriEscapes context start fuel left bytes (c.skipN 3)

/-- Reads the URI characters of a tag after `head`, whose first character is left out;
`count` says how many parts have been read, and an empty tag is refused. -/
def tagUriLoop (verbatim : Bool) (context : String) (start : Mark) :
    Nat → String → Nat → Cursor → Except Problem (String × Cursor)
  | 0, text, _, c => .ok (text, c)
  | fuel + 1, text, count, c =>
    match c.charAt 0 with
    | some ch =>
      if !isUriChar verbatim ch then
        if count == 0 then .error (Problem.within context start "did not find expected tag URI" c.mark)
        else .ok (text, c)
      else if ch == '%' then do
        let (bytes, c) ← uriEscapes context start 5 0 [] c
        tagUriLoop verbatim context start fuel (text ++ Text.decodeLossy bytes) (count + 1) c
      else tagUriLoop verbatim context start fuel (text.push ch) (count + 1) c.skip
    | none =>
      if count == 0 then .error (Problem.within context start "did not find expected tag URI" c.mark)
      else .ok (text, c)

/-- Reads a tag's URI, or a `%TAG` directive's, continuing the text of `head`. -/
def tagUri (verbatim directive : Bool) (head : String) (start : Mark) (c : Cursor) :
    Except Problem (String × Cursor) :=
  tagUriLoop verbatim (if directive then "while parsing a %TAG directive" else "while parsing a tag")
    start (c.remaining + 1) (String.ofList (head.toList.drop 1)) head.length c

/-- Reads a tag. A verbatim tag has an empty handle; a tag with no handle of its own gets
the handle `!`; the tag `!` alone, or with a suffix that a NUL empties, has an empty
handle and the suffix `!`. -/
def tag (inFlow : Bool) (c : Cursor) : Except Problem (Token × Cursor) := do
  let start := c.mark
  let context := "while scanning a tag"
  let (handle, suffix, c) ←
    if c.isAt 1 '<' then do
      let (suffix, c) ← tagUri true false "" start (c.skipN 2)
      if !c.is '>' then throw (Problem.within context start "did not find the expected '>'" c.mark)
      pure ("", suffix, c.skip)
    else do
      let (handle, c) ← tagHandle false start c
      if 1 < handle.length && handle.endsWith "!" then
        let (suffix, c) ← tagUri false false "" start c
        pure (handle, suffix, c)
      else
        let (suffix, c) ← tagUri false false handle start c
        pure (if (untilNul suffix).isEmpty then ("", "!", c) else ("!", suffix, c))
  if !c.spaceOrEndAt 0 && !(inFlow && c.is ',') then
    throw (Problem.within context start "did not find expected whitespace or line break" c.mark)
  pure (⟨.tag handle suffix, start, c.mark⟩, c)

end Yaml

end ShardDump
