import ShardDump.Yaml.Cursor
import ShardDump.Yaml.Token

/-!
# Scalar tokens

The three ways of writing a scalar, each read from its first character to its last.

* A plain scalar runs until `: ` or ` #`, a document marker, or a line indented less
  than its block. In a flow collection it also stops at `,`, `[`, `]`, `{` and `}`.
* A quoted scalar runs to its closing quote. In single quotes `''` stands for a quote;
  in double quotes a backslash starts an escape, and before a line break it joins the
  lines.
* A block scalar (`|` literal, `>` folded) holds the lines indented at least as far as
  its first one. Its header may give the indentation and say whether the final line
  breaks are kept (`+`) or dropped (`-`); by default one is kept.

Plain and quoted scalars fold line breaks. A single break between two lines becomes a
space; when more breaks follow, the first is dropped and the others are kept. Blanks
around a break are dropped. A folded block scalar folds its breaks the same way, except
around lines that start with a blank.
-/

namespace ShardDump

namespace Yaml

/-- What stands between two runs of characters of a plain or quoted scalar: the blanks of
the line, kept while no line break has been seen, the first break, and the later breaks. -/
structure Gap where
  blanks : String
  firstBreak : String
  moreBreaks : String
  broken : Bool

namespace Gap

/-- Nothing between two runs. -/
def empty : Gap := ⟨"", "", "", false⟩

/-- The text a gap stands for: its blanks if it holds no line break; otherwise a space
for a lone line feed, the later breaks for a line feed followed by others, and all of the
breaks for any other first break. -/
def fold (g : Gap) : String :=
  if g.broken then
    if g.firstBreak == "\n" then (if g.moreBreaks.isEmpty then " " else g.moreBreaks)
    else g.firstBreak ++ g.moreBreaks
  else g.blanks

/-- The gap after one more blank. -/
def addBlank (g : Gap) (ch : Char) : Gap :=
  if g.broken then g else { g with blanks := g.blanks.push ch }

/-- The gap after one more line break. -/
def addBreak (g : Gap) (b : String) : Gap :=
  if g.broken then { g with moreBreaks := g.moreBreaks ++ b }
  else { g with blanks := "", firstBreak := b, broken := true }

end Gap

/-! ## Plain scalars -/

/-- What a mistake inside a plain scalar is said to happen in. -/
def plainContext : String := "while scanning a plain scalar"

/-- Reads a run of a plain scalar's characters up to a blank, a line break or a character
that ends it, appending the gap before the first one and then the characters to `text`;
`stop` is the mark after the last character read. -/
def plainRun (inFlow : Bool) (start : Mark) :
    Nat → String → Gap → Mark → Cursor → Except Problem (String × Gap × Mark × Cursor)
  | 0, text, g, stop, c => .ok (text, g, stop, c)
  | fuel + 1, text, g, stop, c =>
    if c.spaceOrEndAt 0 then .ok (text, g, stop, c)
    else if inFlow && c.is ':' && c.isOneOf 1 [',', '?', '[', ']', '{', '}'] then
      .error (Problem.within plainContext start "found unexpected ':'" c.mark)
    else if (c.is ':' && c.spaceOrEndAt 1) || (inFlow && c.isOneOf 0 [',', '[', ']', '{', '}']) then
      .ok (text, g, stop, c)
    else
      match c.charAt 0 with
      | some ch =>
        let c := c.skip
        plainRun inFlow start fuel ((text ++ g.fold).push ch) Gap.empty c.mark c
      | none => .ok (text, g, stop, c)

/-- Reads the blanks and line breaks after a run of a plain scalar into its gap. After a
line break, a tab in front of the block's indentation is refused. -/
def plainBlanks (indent : Int) (start : Mark) : Nat → Gap → Cursor → Except Problem (Gap × Cursor)
  | 0, g, c => .ok (g, c)
  | fuel + 1, g, c =>
    match c.charAt 0 with
    | some ch =>
      if isBlank ch then
        if g.broken && (c.mark.column : Int) < indent && ch == '\t' then
          .error (Problem.within plainContext start
            "found a tab character that violates indentation" c.mark)
        else plainBlanks indent start fuel (g.addBlank ch) c.skip
      else if isBreak ch then
        let (b, c) := c.readBreak
        plainBlanks indent start fuel (g.addBreak b) c
      else .ok (g, c)
    | none => .ok (g, c)

/-- Reads runs and gaps of a plain scalar until it ends. Gives also the furthest place the
reading looked at: each round looks three characters past its start for a document
marker, and a run looks one character past its last. -/
def plainLoop (inFlow : Bool) (indent : Int) (start : Mark) :
    Nat → String → Gap → Mark → Cursor → Except Problem (String × Gap × Mark × Cursor × Nat)
  | 0, text, g, stop, c => .ok (text, g, stop, c, c.pos)
  | fuel + 1, text, g, stop, c =>
    let ahead := c.pos + 3
    if c.atDocumentMarker || c.is '#' then .ok (text, g, stop, c, ahead)
    else do
      let (text, g, stop, c) ← plainRun inFlow start (c.remaining + 1) text g stop c
      if !(c.blankAt 0 || c.breakAt 0) then .ok (text, g, stop, c, max ahead (c.pos + 1))
      else
        let (g, c) ← plainBlanks indent start (c.remaining + 1) g c
        if !inFlow && (c.mark.column : Int) < indent then .ok (text, g, stop, c, max ahead c.pos)
        else plainLoop inFlow indent start fuel text g stop c

/-- Reads a plain scalar whose lines must be indented to `indent`. Gives the token, the
cursor after it, whether it ended after a line break, where a simple key may start, and the
furthest place the reading looked at. -/
def plainScalar (inFlow : Bool) (indent : Int) (c : Cursor) :
    Except Problem (Token × Bool × Cursor × Nat) := do
  let start := c.mark
  let (text, g, stop, c, reach) ←
    plainLoop inFlow indent start (c.remaining + 1) "" Gap.empty start c
  pure (⟨.scalar text .plain, start, stop⟩, g.broken, c, reach)

/-! ## Quoted scalars -/

/-- What a mistake of a quoted scalar's form is said to happen in. -/
def quotedContext : String := "while scanning a quoted scalar"

/-- What a mistake in an escape is said to happen in. -/
def escapeContext : String := "while parsing a quoted scalar"

/-- What an escape stands for: a character, or a code of so many hexadecimal digits. -/
inductive Escape where
  | char (c : Char)
  | code (digits : Nat)

/-- The escape a backslash and the character after it stand for. -/
def escapeOf : Char → Option Escape
  | '0' => some (.char '\x00')
  | 'a' => some (.char '\x07')
  | 'b' => some (.char '\x08')
  | 't' | '\t' => some (.char '\t')
  | 'n' => some (.char '\n')
  | 'v' => some (.char '\x0b')
  | 'f' => some (.char '\x0c')
  | 'r' => some (.char '\r')
  | 'e' => some (.char '\x1b')
  | ' ' => some (.char ' ')
  | '"' => some (.char '"')
  | '/' => some (.char '/')
  | '\'' => some (.char '\'')
  | '\\' => some (.char '\\')
  | 'N' => some (.char '\u0085')
  | '_' => some (.char '\u00a0')
  | 'L' => some (.char '\u2028')
  | 'P' => some (.char '\u2029')
  | 'x' => some (.code 2)
  | 'u' => some (.code 4)
  | 'U' => some (.code 8)
  | _ => none

/-- Reads a run of a quoted scalar's characters up to a blank, a line break, the closing
quote or the end, appending them to `text`. Gives whether an escaped line break ended the
run. -/
def quotedRun (single : Bool) (start : Mark) :
    Nat → String → Cursor → Except Problem (String × Bool × Cursor)
  | 0, text, c => .ok (text, false, c)
  | fuel + 1, text, c =>
    if c.spaceOrEndAt 0 then .ok (text, false, c)
    else if single && c.is '\'' && c.isAt 1 '\'' then
      quotedRun single start fuel (text.push '\'') (c.skipN 2)
    else if c.is (if single then '\'' else '"') then .ok (text, false, c)
    else if !single && c.is '\\' && c.breakAt 1 then .ok (text, true, c.skip.skipBreak)
    else if !single && c.is '\\' then
      match (c.charAt 1).bind escapeOf with
      | none => .error (Problem.within escapeContext start "found unknown escape character" c.mark)
      | some (.char e) => quotedRun single start fuel (text.push e) (c.skipN 2)
      | some (.code n) =>
        let c := c.skipN 2
        match c.hexNumber n with
        | none =>
          .error (Problem.within escapeContext start "did not find expected hexadecimal number" c.mark)
        | some v =>
          if (0xD800 ≤ v && v ≤ 0xDFFF) || 0x10FFFF < v then
            .error (Problem.within escapeContext start
              "found invalid Unicode character escape code" c.mark)
          else quotedRun single start fuel (text.push (Char.ofNat v)) (c.skipN n)
    else
      match c.charAt 0 with
      | some ch => quotedRun single start fuel (text.push ch) c.skip
      | none => .ok (text, false, c)

/-- Reads the blanks and line breaks after a run of a quoted scalar into its gap. -/
def quotedBlanks : Nat → Gap → Cursor → Gap × Cursor
  | 0, g, c => (g, c)
  | fuel + 1, g, c =>
    match c.charAt 0 with
    | some ch =>
      if isBlank ch then quotedBlanks fuel (g.addBlank ch) c.skip
      else if isBreak ch then
        let (b, c) := c.readBreak
        quotedBlanks fuel (g.addBreak b) c
      else (g, c)
    | none => (g, c)

/-- Reads runs and gaps of a quoted scalar up to its closing quote. Gives also the place
three characters past the start of the last round, which looked there for a document
marker. -/
def quotedLoop (single : Bool) (start : Mark) :
    Nat → String → Cursor → Except Problem (String × Cursor × Nat)
  | 0, text, c => .ok (text, c, c.pos)
  | fuel + 1, text, c =>
    if c.atDocumentMarker then
      .error (Problem.within quotedContext start "found unexpected document indicator" c.mark)
    else if c.atEnd then
      .error (Problem.within quotedContext start "found unexpected end of stream" c.mark)
    else do
      let (text, escapedBreak, c') ← quotedRun single start (c.remaining + 1) text c
      if c'.is (if single then '\'' else '"') then .ok (text, c', c.pos + 3)
      else
        let (g, c') := quotedBlanks (c'.remaining + 1) { Gap.empty with broken := escapedBreak } c'
        quotedLoop single start fuel (text ++ g.fold) c'

/-- Reads a single- or double-quoted scalar. Gives the token, the cursor after it, and the
furthest place the reading looked at. -/
def quotedScalar (single : Bool) (c : Cursor) : Except Problem (Token × Cursor × Nat) := do
  let start := c.mark
  let (text, c, reach) ← quotedLoop single start (c.remaining + 1) "" c.skip
  let c := c.skip
  pure (⟨.scalar text (if single then .singleQuoted else .doubleQuoted), start, c.mark⟩, c,
    max reach c.pos)

/-! ## Block scalars -/

/-- What a mistake in a block scalar is said to happen in. -/
def blockContext : String := "while scanning a block scalar"

/-- What becomes of a block scalar's final line breaks. -/
inductive Chomping where
  /-- One is kept. -/
  | clip
  /-- None is kept. -/
  | strip
  /-- All are kept. -/
  | keep
  deriving DecidableEq

/-- The chomping indicator ahead, if there is one. -/
def chompingAt (c : Cursor) : Option Chomping :=
  if c.is '+' then some .keep else if c.is '-' then some .strip else none

/-- The decimal digit ahead, if there is one. -/
def digitAt (c : Cursor) : Option Nat :=
  (c.charAt 0).bind fun ch => if ch.isDigit then some (ch.toNat - '0'.toNat) else none

/-- Reads the indicators of a block scalar's header, in either order: the chomping and the
indentation, 0 when not given; an indentation of 0 is refused. -/
def blockIndicators (start : Mark) (c : Cursor) : Except Problem (Chomping × Nat × Cursor) :=
  let zero (c : Cursor) :=
    Problem.within blockContext start "found an indentation indicator equal to 0" c.mark
  match chompingAt c with
  | some chomping =>
    let c := c.skip
    match digitAt c with
    | some 0 => .error (zero c)
    | some d => .ok (chomping, d, c.skip)
    | none => .ok (chomping, 0, c)
  | none =>
    match digitAt c with
    | some 0 => .error (zero c)
    | some d =>
      let c := c.skip
      match chompingAt c with
      | some chomping => .ok (chomping, d, c.skip)
      | none => .ok (.clip, d, c)
    | none => .ok (.clip, 0, c)

/-- Reads the indentation and the empty lines in front of a block scalar's next line,
collecting their breaks. An indentation of 0 is not known yet: it becomes the deepest
indentation seen, at least one more than the enclosing block's and at least 1. -/
def blockBreaks (parentIndent : Int) (start : Mark) :
    Nat → Nat → Nat → String → Cursor → Except Problem (Nat × String × Cursor)
  | 0, indent, _, breaks, c => .ok (indent, breaks, c)
  | fuel + 1, indent, deepest, breaks, c =>
    let c := c.skipWhile fun c => (indent == 0 || c.mark.column < indent) && c.is ' '
    let deepest := max deepest c.mark.column
    if (indent == 0 || c.mark.column < indent) && c.is '\t' then
      .error (Problem.within blockContext start
        "found a tab character where an indentation space is expected" c.mark)
    else if c.breakAt 0 then
      let (b, c) := c.readBreak
      blockBreaks parentIndent start fuel indent deepest (breaks ++ b) c
    else
      let indent := if indent == 0 then max (max deepest (parentIndent + 1).toNat) 1 else indent
      .ok (indent, breaks, c)

/-- Reads the lines of a block scalar at its indentation. `lead` is the break after the
last line read, `trail` the breaks of the empty lines after it, and `leadingBlank` whether
that line started with a blank. -/
def blockLines (literal : Bool) (parentIndent : Int) (start : Mark) :
    Nat → Nat → String → String → String → Bool → Cursor →
      Except Problem (String × String × String × Cursor)
  | 0, _, text, lead, trail, _, c => .ok (text, lead, trail, c)
  | fuel + 1, indent, text, lead, trail, leadingBlank, c =>
    if c.mark.column == indent && !c.atEnd then
      let trailingBlank := c.blankAt 0
      let text :=
        if !literal && lead.startsWith "\n" && !leadingBlank && !trailingBlank then
          if trail.isEmpty then text.push ' ' else text
        else text ++ lead
      let text := text ++ trail
      let (line, c') := c.takeWhile (!isBreak ·)
      let (lead, c') := c'.readBreak
      do
        let (indent, trail, c') ← blockBreaks parentIndent start (c'.remaining + 1) indent 0 "" c'
        blockLines literal parentIndent start fuel indent (text ++ line) lead trail (c.blankAt 0) c'
    else .ok (text, lead, trail, c)

/-- Reads a literal or folded block scalar inside a block indented to `parentIndent`. -/
def blockScalar (literal : Bool) (parentIndent : Int) (c : Cursor) :
    Except Problem (Token × Cursor) := do
  let start := c.mark
  let (chomping, increment, c) ← blockIndicators start c.skip
  let c := c.skipBlanks.skipComment
  if !c.breakOrEndAt 0 then
    throw (Problem.within blockContext start "did not find expected comment or line break" c.mark)
  let c := c.skipBreak
  let indent :=
    if increment = 0 then 0
    else if 0 ≤ parentIndent then (parentIndent + increment).toNat else increment
  let (indent, trail, c) ← blockBreaks parentIndent start (c.remaining + 1) indent 0 "" c
  let (text, lead, trail, c) ←
    blockLines literal parentIndent start (c.remaining + 1) indent "" "" trail false c
  let text := if chomping = .strip then text else text ++ lead
  let text := if chomping = .keep then text ++ trail else text
  pure (⟨.scalar text (if literal then .literal else .folded), start, c.mark⟩, c)

end Yaml

end ShardDump
