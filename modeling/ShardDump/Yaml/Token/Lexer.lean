import ShardDump.Yaml.Token.Scalar
import ShardDump.Yaml.Token.Directive

/-!
# The token stream of YAML text

A `Lexer` turns YAML text into tokens on demand. Two kinds of token depend on text after
them, so tokens wait in a queue until they are settled.

* **Simple keys.** A key without `?` is known to be a key only when its `:` comes. The
  lexer notes where each possible key starts, one per flow level. When the `:` comes, a
  `key` token goes into the queue in front of the key. A possible key lapses at the end
  of its line, or after 1024 bytes of UTF-8. If a key had to be one (it starts a line of a
  block mapping, at its indentation), its lapse is the error "could not find expected
  ':'". Tokens are handed out only when no possible key may still claim the head of the
  queue.
* **Indentation.** In block context, a key or a `-` that starts further right than the
  current block opens a new block mapping or sequence, and a line that starts further
  left closes blocks until its column is reached. Flow collections ignore indentation.

Whether a simple key may start at the next token is tracked as `keyAllowed`: after a line
break in block context, after `[`, `{`, `,`, `?`, `-` and after `:` in block context.

Reading needs the text only as far as it looks: to the start of the next token and three
characters past it, and through each token to a little past its end. A text with a
character YAML text may not hold fails at the first token whose reading needs its chunk
(see `Obstacle`), so the tokens before it are still handed out.
-/

namespace ShardDump

namespace Yaml

/-- A place where a simple key may start. -/
structure SimpleKey where
  possible : Bool
  /-- Whether the key must be one: a lapse is then an error. -/
  required : Bool
  /-- The number of the token that would follow its `key` token. -/
  tokenNumber : Nat
  mark : Mark
  deriving Repr

namespace SimpleKey

/-- No key. -/
def none : SimpleKey := ⟨false, false, 0, Mark.origin⟩

end SimpleKey

/-- The state of the token stream of a text. -/
structure Lexer where
  cursor : Cursor
  /-- Whether the stream's first token has been made. -/
  started : Bool
  /-- How many flow collections are open. -/
  flowLevel : Nat
  /-- The column of the innermost open block, -1 when none is open. -/
  indent : Int
  /-- The columns of the enclosing blocks, innermost first. -/
  indents : List Int
  /-- Whether a simple key may start at the next token. -/
  keyAllowed : Bool
  /-- The possible simple key of each flow level, innermost first. -/
  keys : List SimpleKey
  /-- Tokens made and not yet handed out. -/
  queue : List Token
  /-- How many tokens have been handed out. -/
  taken : Nat
  /-- Whether the head of the queue is settled. -/
  ready : Bool
  /-- Where reading meets a character the text may not hold, if it holds one. -/
  obstacle : Option Obstacle

/-- Inserts `t` into a list at place `i`, or at its end if it is shorter. -/
def insertToken : List Token → Nat → Token → List Token
  | ts, 0, t => t :: ts
  | [], _, t => [t]
  | u :: ts, i + 1, t => u :: insertToken ts i t

namespace Lexer

/-- The token stream of a text, before its first token. -/
def ofString (s : String) : Lexer :=
  ⟨Cursor.ofString s, false, 0, -1, [], false, [], [], 0, false, obstacle? s⟩

/-- Whether the lexer is inside a flow collection. -/
def inFlow (l : Lexer) : Bool := l.flowLevel != 0

/-- The lexer with a token of `kind` from `start` to `stop` at the end of its queue. -/
def enqueue (l : Lexer) (kind : TokenKind) (start stop : Mark) : Lexer :=
  { l with queue := l.queue ++ [⟨kind, start, stop⟩] }

/-- The lexer with a token just read from the cursor at the end of its queue. -/
def push (l : Lexer) (read : Token × Cursor) : Lexer :=
  { l with queue := l.queue ++ [read.1], cursor := read.2 }

/-- Reading needs the character at `index`: an error if it lies in or past the chunk with
a character the text may not hold. -/
def demand (l : Lexer) (index : Nat) : Except Problem Unit :=
  match l.obstacle with
  | some o => if o.start ≤ index then .error (.forbiddenCharacter o.offset) else .ok ()
  | none => .ok ()

/-- A token's reading that failed at a place in or past that chunk met the forbidden
character first. -/
def guard {α : Type} (l : Lexer) (read : Except Problem α) : Except Problem α :=
  match read, l.obstacle with
  | .error (.malformed _ found _), some o =>
    if o.startByte ≤ found.index then .error (.forbiddenCharacter o.offset) else read
  | _, _ => read

/-- The lexer with a token read from the cursor, whose reading looked as far as `reach`. -/
def pushRead (l : Lexer) (read : Token × Cursor) (reach : Nat) : Except Problem Lexer := do
  l.demand reach
  pure (l.push read)

/-- The lexer after the single-character token of `kind` ahead. -/
def single (l : Lexer) (kind : TokenKind) : Lexer :=
  let start := l.cursor.mark
  let c := l.cursor.skip
  { l with cursor := c }.enqueue kind start c.mark

/-- The possible simple key of the innermost flow level. -/
def topKey (l : Lexer) : SimpleKey := l.keys.headD SimpleKey.none

/-- The lexer with `k` as the possible simple key of the innermost flow level. -/
def setTopKey (l : Lexer) (k : SimpleKey) : Lexer :=
  { l with keys := k :: l.keys.drop 1 }

/-- The error of a required simple key that lapsed. -/
def lapsed (l : Lexer) (k : SimpleKey) : Problem :=
  Problem.within "while scanning a simple key" k.mark "could not find expected ':'" l.cursor.mark

/-- Drops the possible simple key of the innermost level; a required one is an error. -/
def removeKey (l : Lexer) : Except Problem Lexer :=
  let k := l.topKey
  if k.possible && k.required then .error (l.lapsed k)
  else .ok (l.setTopKey { k with possible := false })

/-- Drops the possible simple keys that can no longer be keys: those on an earlier line
or more than 1024 bytes back. A required one is an error. -/
def staleKeys (l : Lexer) : Except Problem Lexer := do
  let m := l.cursor.mark
  let keys ← l.keys.reverse.mapM fun k =>
    if k.possible && (k.mark.line < m.line || k.mark.index + 1024 < m.index) then
      if k.required then throw (l.lapsed k) else pure { k with possible := false }
    else pure k
  pure { l with keys := keys.reverse }

/-- Notes that a simple key may start at the next token, if one may start there. It is
required in block context at the current block's column. -/
def saveKey (l : Lexer) : Except Problem Lexer := do
  if l.keyAllowed then
    let required := !l.inFlow && l.indent == (l.cursor.mark.column : Int)
    let k : SimpleKey := ⟨true, required, l.taken + l.queue.length, l.cursor.mark⟩
    let l ← l.removeKey
    pure (l.setTopKey k)
  else pure l

/-- Opens a flow collection. -/
def enterFlow (l : Lexer) : Lexer :=
  { l with keys := SimpleKey.none :: l.keys, flowLevel := l.flowLevel + 1 }

/-- Closes a flow collection, if one is open. -/
def leaveFlow (l : Lexer) : Lexer :=
  if l.inFlow then { l with keys := l.keys.drop 1, flowLevel := l.flowLevel - 1 } else l

/-- In block context, opens a block at `column` if it is further right than the current
one, with a token of `kind` at the end of the queue or, for a key found late, in front of
the token numbered `number`. -/
def openBlock (l : Lexer) (column : Int) (number : Option Nat) (kind : TokenKind) (mark : Mark) :
    Lexer :=
  if l.inFlow || column ≤ l.indent then l
  else
    let l := { l with indents := l.indent :: l.indents, indent := column }
    match number with
    | none => l.enqueue kind mark mark
    | some n => { l with queue := insertToken l.queue (n - l.taken) ⟨kind, mark, mark⟩ }

/-- Closes blocks that start further right than `column`, with a `blockEnd` token each. -/
def closeBlocks (l : Lexer) (column : Int) : Lexer :=
  if l.inFlow then l else loop (l.indents.length + 1) l
where
  loop : Nat → Lexer → Lexer
    | 0, l => l
    | n + 1, l =>
      match l.indents with
      | i :: rest =>
        if column < l.indent then
          loop n { (l.enqueue .blockEnd l.cursor.mark l.cursor.mark) with indent := i, indents := rest }
        else l
      | [] => l

/-- Moves past blanks, comments and line breaks to the next token. A byte order mark at
the start of a line is passed over; tabs are passed over only where no simple key may
start, or in flow context. -/
def skipToToken (l : Lexer) : Lexer :=
  loop (l.cursor.remaining + 1) l
where
  loop : Nat → Lexer → Lexer
    | 0, l => l
    | n + 1, l =>
      let c := l.cursor
      let c := if c.mark.column == 0 && c.is '\uFEFF' then c.skip else c
      let tabsPass := l.inFlow || !l.keyAllowed
      let c := c.skipWhile (fun c => c.is ' ' || (tabsPass && c.is '\t'))
      let c := c.skipComment
      if c.breakAt 0 then
        loop n { l with cursor := c.skipBreak, keyAllowed := l.keyAllowed || !l.inFlow }
      else { l with cursor := c }

/-- Makes the first token. -/
def streamStart (l : Lexer) : Lexer :=
  let m := l.cursor.mark
  { l with indent := -1, keys := [SimpleKey.none], keyAllowed := true, started := true }.enqueue
    .streamStart m m

/-- Makes the last token, at the start of a line past the text. -/
def streamEnd (l : Lexer) : Except Problem Lexer := do
  let c := l.cursor
  let c := if c.mark.column != 0 then { c with mark := { c.mark with column := 0, line := c.mark.line + 1 } }
    else c
  let l ← ({ l with cursor := c }.closeBlocks (-1)).removeKey
  let l := { l with keyAllowed := false }
  pure (l.enqueue .streamEnd l.cursor.mark l.cursor.mark)

/-- Closes all blocks and drops the simple key before a directive or a document marker. -/
def resetForDocument (l : Lexer) : Except Problem Lexer := do
  let l ← (l.closeBlocks (-1)).removeKey
  pure { l with keyAllowed := false }

/-- Makes a directive token. -/
def fetchDirective (l : Lexer) : Except Problem Lexer := do
  let l ← l.resetForDocument
  let (t, c) ← l.guard (directive l.cursor)
  l.pushRead (t, c) c.pos

/-- Makes a `---` or `...` token. -/
def fetchDocumentMarker (l : Lexer) (kind : TokenKind) : Except Problem Lexer := do
  let l ← l.resetForDocument
  let start := l.cursor.mark
  let c := l.cursor.skipN 3
  pure ({ l with cursor := c }.enqueue kind start c.mark)

/-- Makes a `[` or `{` token. -/
def fetchFlowStart (l : Lexer) (kind : TokenKind) : Except Problem Lexer := do
  let l ← l.saveKey
  pure ({ l.enterFlow with keyAllowed := true }.single kind)

/-- Makes a `]` or `}` token. -/
def fetchFlowEnd (l : Lexer) (kind : TokenKind) : Except Problem Lexer := do
  let l ← l.removeKey
  pure ({ l.leaveFlow with keyAllowed := false }.single kind)

/-- Makes a `,` token. -/
def fetchFlowEntry (l : Lexer) : Except Problem Lexer := do
  let l ← l.removeKey
  pure ({ l with keyAllowed := true }.single .flowEntry)

/-- Makes a `-` token; in block context it may open a block sequence. -/
def fetchBlockEntry (l : Lexer) : Except Problem Lexer := do
  let m := l.cursor.mark
  let l ←
    if l.inFlow then pure l
    else if !l.keyAllowed then
      throw (Problem.bare "block sequence entries are not allowed in this context" m)
    else pure (l.openBlock m.column none .blockSequenceStart m)
  let l ← l.removeKey
  pure ({ l with keyAllowed := true }.single .blockEntry)

/-- Makes a `?` token; in block context it may open a block mapping. -/
def fetchKey (l : Lexer) : Except Problem Lexer := do
  let m := l.cursor.mark
  let l ←
    if l.inFlow then pure l
    else if !l.keyAllowed then
      throw (Problem.bare "mapping keys are not allowed in this context" m)
    else pure (l.openBlock m.column none .blockMappingStart m)
  let l ← l.removeKey
  pure ({ l with keyAllowed := !l.inFlow }.single .key)

/-- Makes a `:` token. After a possible simple key, a `key` token goes in front of the key,
which may open a block mapping at its column. -/
def fetchValue (l : Lexer) : Except Problem Lexer := do
  let k := l.topKey
  let l ←
    if k.possible then
      let l := { l with queue := insertToken l.queue (k.tokenNumber - l.taken) ⟨.key, k.mark, k.mark⟩ }
      let l := l.openBlock k.mark.column (some k.tokenNumber) .blockMappingStart k.mark
      pure { (l.setTopKey { k with possible := false }) with keyAllowed := false }
    else
      let m := l.cursor.mark
      let l ←
        if l.inFlow then pure l
        else if !l.keyAllowed then
          throw (Problem.bare "mapping values are not allowed in this context" m)
        else pure (l.openBlock m.column none .blockMappingStart m)
      pure { l with keyAllowed := !l.inFlow }
  pure (l.single .value)

/-- Makes an anchor or alias token, which may start a simple key. -/
def fetchAnchor (l : Lexer) (isAnchor : Bool) : Except Problem Lexer := do
  let l ← l.saveKey
  let l := { l with keyAllowed := false }
  let (t, c) ← l.guard (anchorOrAlias isAnchor l.cursor)
  l.pushRead (t, c) c.pos

/-- Makes a tag token, which may start a simple key. -/
def fetchTag (l : Lexer) : Except Problem Lexer := do
  let l ← l.saveKey
  let l := { l with keyAllowed := false }
  let (t, c) ← l.guard (tag l.inFlow l.cursor)
  l.pushRead (t, c) c.pos

/-- Makes a block scalar token. -/
def fetchBlockScalar (l : Lexer) (literal : Bool) : Except Problem Lexer := do
  let l ← l.removeKey
  let l := { l with keyAllowed := true }
  let (t, c) ← l.guard (blockScalar literal l.indent l.cursor)
  l.pushRead (t, c) c.pos

/-- Makes a quoted scalar token, which may start a simple key. -/
def fetchQuoted (l : Lexer) (single : Bool) : Except Problem Lexer := do
  let l ← l.saveKey
  let l := { l with keyAllowed := false }
  let (t, c, reach) ← l.guard (quotedScalar single l.cursor)
  l.pushRead (t, c) reach

/-- Makes a plain scalar token, which may start a simple key; one that ended after a line
break lets a simple key start next. -/
def fetchPlain (l : Lexer) : Except Problem Lexer := do
  let l ← l.saveKey
  let (t, broken, c, reach) ← l.guard (plainScalar l.inFlow (l.indent + 1) l.cursor)
  { l with keyAllowed := broken }.pushRead (t, c) reach

/-- The characters that cannot start a plain scalar, unless followed by a character that
is not a blank in the cases of `-`, `?` and `:`. -/
def indicators : List Char :=
  ['-', '?', ':', ',', '[', ']', '{', '}', '#', '&', '*', '!', '|', '>', '\'', '"', '%', '@', '\x60']

/-- Whether a plain scalar starts at the cursor. -/
def startsPlain (l : Lexer) (c : Cursor) : Bool :=
  !(c.spaceOrEndAt 0 || c.isOneOf 0 indicators) ||
    (c.is '-' && !c.blankAt 1) ||
    (!l.inFlow && (c.is '?' || c.is ':') && !c.spaceOrEndAt 1)

/-- Makes the next tokens: passes to the next token, drops lapsed keys, closes the blocks
the column leaves, and reads one token by its first characters, looking up to three
characters past its start. -/
def fetchNext (l : Lexer) : Except Problem Lexer := do
  l.demand l.cursor.pos
  if !l.started then return l.streamStart
  let l := l.skipToToken
  l.demand l.cursor.pos
  let l ← l.staleKeys
  let l := l.closeBlocks l.cursor.mark.column
  l.demand (l.cursor.pos + 3)
  let c := l.cursor
  if c.atEnd then l.streamEnd
  else if c.mark.column == 0 && c.is '%' then l.fetchDirective
  else if c.mark.column == 0 && c.is '-' && c.isAt 1 '-' && c.isAt 2 '-' && c.spaceOrEndAt 3 then
    l.fetchDocumentMarker .documentStart
  else if c.mark.column == 0 && c.is '.' && c.isAt 1 '.' && c.isAt 2 '.' && c.spaceOrEndAt 3 then
    l.fetchDocumentMarker .documentEnd
  else if c.is '[' then l.fetchFlowStart .flowSequenceStart
  else if c.is '{' then l.fetchFlowStart .flowMappingStart
  else if c.is ']' then l.fetchFlowEnd .flowSequenceEnd
  else if c.is '}' then l.fetchFlowEnd .flowMappingEnd
  else if c.is ',' then l.fetchFlowEntry
  else if c.is '-' && c.spaceOrEndAt 1 then l.fetchBlockEntry
  else if c.is '?' && (l.inFlow || c.spaceOrEndAt 1) then l.fetchKey
  else if c.is ':' && (l.inFlow || c.spaceOrEndAt 1) then l.fetchValue
  else if c.is '*' then l.fetchAnchor false
  else if c.is '&' then l.fetchAnchor true
  else if c.is '!' then l.fetchTag
  else if c.is '|' && !l.inFlow then l.fetchBlockScalar true
  else if c.is '>' && !l.inFlow then l.fetchBlockScalar false
  else if c.is '\'' then l.fetchQuoted true
  else if c.is '"' then l.fetchQuoted false
  else if l.startsPlain c then l.fetchPlain
  else throw (Problem.within "while scanning for the next token" c.mark
    "found character that cannot start any token" c.mark)

/-- Whether more tokens must be made before the head of the queue is settled: the queue
is empty, or a possible simple key may still put a token in front of the head. -/
def unsettled (l : Lexer) : Except Problem (Bool × Lexer) :=
  if l.queue.isEmpty then .ok (true, l)
  else do
    let l ← l.staleKeys
    pure (l.keys.any (fun k => k.possible && k.tokenNumber == l.taken), l)

/-- Makes tokens until the head of the queue is settled. -/
def settle (l : Lexer) : Except Problem Lexer :=
  loop (l.cursor.remaining + 4) l
where
  loop : Nat → Lexer → Except Problem Lexer
    | 0, l => .ok { l with ready := true }
    | n + 1, l => do
      let (more, l) ← l.unsettled
      if more then loop n (← l.fetchNext) else pure { l with ready := true }

/-- The next token, without handing it out. -/
def peek (l : Lexer) : Except Problem (Token × Lexer) := do
  let l ← if l.ready then pure l else l.settle
  match l.queue with
  | t :: _ => pure (t, l)
  | [] => pure (⟨.streamEnd, l.cursor.mark, l.cursor.mark⟩, l)

/-- Hands out the next token. -/
def advance (l : Lexer) : Lexer :=
  { l with queue := l.queue.drop 1, taken := l.taken + 1, ready := false }

end Lexer

end Yaml

end ShardDump
