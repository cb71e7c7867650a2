import ShardDump.Yaml.Event
import ShardDump.Yaml.Token.Lexer

/-!
# Reading the events of YAML text

An `EventReader` turns the token stream into events, one at a time. It follows the
grammar of a YAML stream:

* A stream is a series of documents. A document may start with directives and `---`;
  the first may also start without them. It ends with `...` or where the next one
  starts.
* A node is an alias, or properties (anchor and tag, in either order) followed by a
  scalar or a collection. Properties alone stand for an empty scalar.
* A block sequence is `-` entries, a block mapping is keys and values. In a mapping, a
  sequence may stand at the key's indentation. Flow collections use brackets and commas.
  A flow sequence entry `k: v` is a mapping of one pair. When such an entry leaves its
  key out (`? : v`, `?,` or `?]`), the token after `?` is taken up with the empty key.
* A key or value that is left out is an empty plain scalar, placed just after its
  indicator.

The reader keeps the phases to return to, the starts of the open collections for
messages, and the tag handles of the current document. Tags with the handle `!!` stand
for `tag:yaml.org,2002:` followed by their suffix unless a `%TAG` directive says
otherwise.
-/

namespace ShardDump

namespace Yaml

/-- Where the reader is in the grammar. -/
inductive Phase where
  | streamStart
  | implicitDocumentStart
  | documentStart
  | documentContent
  | documentEnd
  | blockNode
  | blockSequenceFirstEntry
  | blockSequenceEntry
  | indentlessSequenceEntry
  | blockMappingFirstKey
  | blockMappingKey
  | blockMappingValue
  | flowSequenceFirstEntry
  | flowSequenceEntry
  /-- The key of a one-pair mapping in a flow sequence. -/
  | flowPairKey
  | flowPairValue
  | flowPairEnd
  | flowMappingFirstKey
  | flowMappingKey
  | flowMappingValue
  /-- The value of a flow mapping entry written without `:`. -/
  | flowMappingEmptyValue
  | finished
  deriving DecidableEq, Repr

/-- The state of the event reader of a text. -/
structure EventReader where
  lexer : Lexer
  phase : Phase
  /-- The phases to return to when the current node is read, innermost first. -/
  resume : List Phase
  /-- Where the open collections start, innermost first. -/
  starts : List Mark
  /-- The tag handles of the current document, with the URIs they stand for. -/
  handles : List (String × String)

/-- The tag handles every document has, unless a directive gives them another URI. -/
def defaultHandles : List (String × String) := [("!", "!"), ("!!", "tag:yaml.org,2002:")]

/-- The anchor and tag in front of a node, where the node starts, and where its tag is. -/
structure Properties where
  anchor : Option String
  tag : Option (String × String)
  tagMark : Mark
  start : Mark

namespace EventReader

/-- The event reader of a text, before its first event. -/
def ofString (s : String) : EventReader := ⟨Lexer.ofString s, .streamStart, [], [], []⟩

/-- The next token. -/
def peek (r : EventReader) : Except Problem (Token × EventReader) := do
  let (t, l) ← r.lexer.peek
  pure (t, { r with lexer := l })

/-- The reader past the next token. -/
def skip (r : EventReader) : EventReader := { r with lexer := r.lexer.advance }

/-- The reader in phase `p`. -/
def goTo (r : EventReader) (p : Phase) : EventReader := { r with phase := p }

/-- The reader that returns to phase `p` after the next node. -/
def push (r : EventReader) (p : Phase) : EventReader := { r with resume := p :: r.resume }

/-- The reader back in the phase after the current node. -/
def pop (r : EventReader) : EventReader :=
  match r.resume with
  | p :: rest => { r with phase := p, resume := rest }
  | [] => { r with phase := .finished }

/-- Where the innermost open collection starts. -/
def openedAt (r : EventReader) : Mark := r.starts.headD Mark.origin

/-- The reader past the token that opens a collection, noting where it starts. -/
def openCollection (r : EventReader) : Except Problem EventReader := do
  let (t, r) ← r.peek
  pure { r.skip with starts := t.start :: r.starts }

/-- The reader after the innermost open collection closes. -/
def closeCollection (r : EventReader) : EventReader := { r.pop with starts := r.starts.drop 1 }

/-- Reads the anchor and the tag in front of a node, in either order. Gives them with
the token after them. -/
def properties (r : EventReader) (t : Token) : Except Problem (Properties × Token × EventReader) :=
  match t.kind with
  | .anchor name => do
    let (t2, r) ← r.skip.peek
    match t2.kind with
    | .tag h s =>
      let (t3, r) ← r.skip.peek
      pure (⟨some name, some (h, s), t2.start, t.start⟩, t3, r)
    | _ => pure (⟨some name, none, t.start, t.start⟩, t2, r)
  | .tag h s => do
    let (t2, r) ← r.skip.peek
    match t2.kind with
    | .anchor name =>
      let (t3, r) ← r.skip.peek
      pure (⟨some name, some (h, s), t.start, t.start⟩, t3, r)
    | _ => pure (⟨none, some (h, s), t.start, t.start⟩, t2, r)
  | _ => .ok (⟨none, none, t.start, t.start⟩, t, r)

/-- The tag of a node: a verbatim tag as it is, any other with its handle replaced by the
URI the handle stands for. The URI and the suffix each end at a NUL character. An
unknown handle is an error. -/
def resolveTag (r : EventReader) (p : Properties) : Except Problem (Option String) :=
  match p.tag with
  | none => .ok none
  | some (handle, suffix) =>
    if handle.isEmpty then .ok (some (untilNul suffix))
    else
      match r.handles.lookup handle with
      | some uri => .ok (some (untilNul uri ++ untilNul suffix))
      | none =>
        .error (Problem.within "while parsing a node" p.start "found undefined tag handle" p.tagMark)

/-- A node with no content: an empty scalar if it has properties, and an error if not. -/
def noContent (r : EventReader) (block : Bool) (p : Properties) (tag : Option String) (t : Token) :
    Except Problem (Event × EventReader) :=
  if p.anchor.isSome || tag.isSome then .ok (⟨.scalar p.anchor tag "" .plain, p.start⟩, r.pop)
  else
    .error (Problem.within (if block then "while parsing a block node" else "while parsing a flow node")
      p.start "did not find expected node content" t.start)

/-- Reads the start of a node: an alias, a scalar, or the opening of a collection. In
block context block collections may start here, and where `indentless` allows it, a
sequence at the indentation of the enclosing mapping. -/
def node (r : EventReader) (block indentless : Bool) : Except Problem (Event × EventReader) := do
  let (t, r) ← r.peek
  match t.kind with
  | .alias name => pure (⟨.alias name, t.start⟩, r.pop.skip)
  | _ =>
    let (p, t, r) ← r.properties t
    let tag ← r.resolveTag p
    if indentless && t.kind == .blockEntry then
      pure (⟨.sequenceStart p.anchor tag, p.start⟩, r.goTo .indentlessSequenceEntry)
    else
      match t.kind with
      | .scalar text style => pure (⟨.scalar p.anchor tag text style, p.start⟩, r.pop.skip)
      | .flowSequenceStart =>
        pure (⟨.sequenceStart p.anchor tag, p.start⟩, r.goTo .flowSequenceFirstEntry)
      | .flowMappingStart =>
        pure (⟨.mappingStart p.anchor tag, p.start⟩, r.goTo .flowMappingFirstKey)
      | .blockSequenceStart =>
        if block then pure (⟨.sequenceStart p.anchor tag, p.start⟩, r.goTo .blockSequenceFirstEntry)
        else r.noContent block p tag t
      | .blockMappingStart =>
        if block then pure (⟨.mappingStart p.anchor tag, p.start⟩, r.goTo .blockMappingFirstKey)
        else r.noContent block p tag t
      | _ => r.noContent block p tag t

/-- Reads an entry of a block sequence, or its end. -/
def blockSequenceEntry (r : EventReader) (first : Bool) : Except Problem (Event × EventReader) := do
  let r ← if first then r.openCollection else pure r
  let (t, r) ← r.peek
  match t.kind with
  | .blockEntry =>
    let (t2, r) ← r.skip.peek
    if t2.kind == .blockEntry || t2.kind == .blockEnd then
      pure (Event.empty t.stop, r.goTo .blockSequenceEntry)
    else (r.push .blockSequenceEntry).node true false
  | .blockEnd => pure (⟨.sequenceEnd, t.start⟩, r.closeCollection.skip)
  | _ =>
    throw (Problem.within "while parsing a block collection" r.openedAt
      "did not find expected '-' indicator" t.start)

/-- Reads an entry of a sequence at its mapping's indentation, or its end. -/
def indentlessSequenceEntry (r : EventReader) : Except Problem (Event × EventReader) := do
  let (t, r) ← r.peek
  match t.kind with
  | .blockEntry =>
    let (t2, r) ← r.skip.peek
    if [TokenKind.blockEntry, .key, .value, .blockEnd].contains t2.kind then
      pure (Event.empty t.stop, r.goTo .indentlessSequenceEntry)
    else (r.push .indentlessSequenceEntry).node true false
  | _ => pure (⟨.sequenceEnd, t.start⟩, r.pop)

/-- Reads a key of a block mapping, or its end. -/
def blockMappingKey (r : EventReader) (first : Bool) : Except Problem (Event × EventReader) := do
  let r ← if first then r.openCollection else pure r
  let (t, r) ← r.peek
  match t.kind with
  | .key =>
    let (t2, r) ← r.skip.peek
    if [TokenKind.key, .value, .blockEnd].contains t2.kind then
      pure (Event.empty t.stop, r.goTo .blockMappingValue)
    else (r.push .blockMappingValue).node true true
  | .blockEnd => pure (⟨.mappingEnd, t.start⟩, r.closeCollection.skip)
  | _ =>
    throw (Problem.within "while parsing a block mapping" r.openedAt "did not find expected key" t.start)

/-- Reads a value of a block mapping. -/
def blockMappingValue (r : EventReader) : Except Problem (Event × EventReader) := do
  let (t, r) ← r.peek
  match t.kind with
  | .value =>
    let (t2, r) ← r.skip.peek
    if [TokenKind.key, .value, .blockEnd].contains t2.kind then
      pure (Event.empty t.stop, r.goTo .blockMappingKey)
    else (r.push .blockMappingKey).node true true
  | _ => pure (Event.empty t.start, r.goTo .blockMappingKey)

/-- Reads an entry of a flow sequence, or its end. -/
def flowSequenceEntry (r : EventReader) (first : Bool) : Except Problem (Event × EventReader) := do
  let r ← if first then r.openCollection else pure r
  let (t, r) ← r.peek
  let (t, r) ←
    if first || t.kind == .flowSequenceEnd then pure (t, r)
    else if t.kind == .flowEntry then r.skip.peek
    else
      throw (Problem.within "while parsing a flow sequence" r.openedAt
        "did not find expected ',' or ']'" t.start)
  if t.kind == .key then pure (⟨.mappingStart none none, t.start⟩, (r.goTo .flowPairKey).skip)
  else if t.kind == .flowSequenceEnd then pure (⟨.sequenceEnd, t.start⟩, r.closeCollection.skip)
  else (r.push .flowSequenceEntry).node false false

/-- Reads the key of a one-pair mapping in a flow sequence. Where the key is left out,
the `:`, `,` or `]` that stands in its place is taken with the empty key, placed after
that token, so it neither starts the value nor ends the entry or the sequence. -/
def flowPairKey (r : EventReader) : Except Problem (Event × EventReader) := do
  let (t, r) ← r.peek
  if [TokenKind.value, .flowEntry, .flowSequenceEnd].contains t.kind then
    pure (Event.empty t.stop, (r.goTo .flowPairValue).skip)
  else (r.push .flowPairValue).node false false

/-- Reads the value of a one-pair mapping in a flow sequence. -/
def flowPairValue (r : EventReader) : Except Problem (Event × EventReader) := do
  let (t, r) ← r.peek
  if t.kind == .value then
    let (t2, r) ← r.skip.peek
    if t2.kind == .flowEntry || t2.kind == .flowSequenceEnd then
      pure (Event.empty t2.start, r.goTo .flowPairEnd)
    else (r.push .flowPairEnd).node false false
  else pure (Event.empty t.start, r.goTo .flowPairEnd)

/-- Closes a one-pair mapping in a flow sequence. -/
def flowPairEnd (r : EventReader) : Except Problem (Event × EventReader) := do
  let (t, r) ← r.peek
  pure (⟨.mappingEnd, t.start⟩, r.goTo .flowSequenceEntry)

/-- Reads a key of a flow mapping, or its end. -/
def flowMappingKey (r : EventReader) (first : Bool) : Except Problem (Event × EventReader) := do
  let r ← if first then r.openCollection else pure r
  let (t, r) ← r.peek
  let (t, r) ←
    if first || t.kind == .flowMappingEnd then pure (t, r)
    else if t.kind == .flowEntry then r.skip.peek
    else
      throw (Problem.within "while parsing a flow mapping" r.openedAt
        "did not find expected ',' or '\x7d'" t.start)
  if t.kind == .key then
    let (t2, r) ← r.skip.peek
    if [TokenKind.value, .flowEntry, .flowMappingEnd].contains t2.kind then
      pure (Event.empty t2.start, r.goTo .flowMappingValue)
    else (r.push .flowMappingValue).node false false
  else if t.kind == .flowMappingEnd then pure (⟨.mappingEnd, t.start⟩, r.closeCollection.skip)
  else (r.push .flowMappingEmptyValue).node false false

/-- Reads a value of a flow mapping; an entry written without `:` has an empty one. -/
def flowMappingValue (r : EventReader) (empty : Bool) : Except Problem (Event × EventReader) := do
  let (t, r) ← r.peek
  if empty then pure (Event.empty t.start, r.goTo .flowMappingKey)
  else if t.kind == .value then
    let (t2, r) ← r.skip.peek
    if t2.kind == .flowEntry || t2.kind == .flowMappingEnd then
      pure (Event.empty t2.start, r.goTo .flowMappingKey)
    else (r.push .flowMappingKey).node false false
  else pure (Event.empty t.start, r.goTo .flowMappingKey)

/-- The reader with the default tag handles added, where no directive gave them. -/
def withDefaults (r : EventReader) : EventReader :=
  let handles := defaultHandles.foldl
    (fun hs d => if hs.any (·.1 == d.1) then hs else hs ++ [d]) r.handles
  { r with handles }

/-- Reads the directives in front of a document. A second `%YAML` directive, a version
other than 1.1 and 1.2, and a handle given twice are errors. -/
def directives (r : EventReader) : Except Problem EventReader :=
  loop (r.lexer.cursor.remaining + r.lexer.queue.length + 2) false r
where
  loop : Nat → Bool → EventReader → Except Problem EventReader
    | 0, _, r => .ok r.withDefaults
    | n + 1, versionSeen, r => do
      let (t, r) ← r.peek
      match t.kind with
      | .versionDirective major minor =>
        if versionSeen then throw (Problem.bare "found duplicate %YAML directive" t.start)
        if major != 1 || (minor != 1 && minor != 2) then
          throw (Problem.bare "found incompatible YAML document" t.start)
        loop n true r.skip
      | .tagDirective handle uri =>
        if r.handles.any (·.1 == handle) then
          throw (Problem.bare "found duplicate %TAG directive" t.start)
        loop n versionSeen { r with handles := r.handles ++ [(handle, uri)] }.skip
      | _ => pure r.withDefaults

/-- The next token after any `...` markers. -/
def skipDocumentEnds (r : EventReader) : Except Problem (Token × EventReader) :=
  loop (r.lexer.cursor.remaining + r.lexer.queue.length + 2) r
where
  loop : Nat → EventReader → Except Problem (Token × EventReader)
    | 0, r => r.peek
    | n + 1, r => do
      let (t, r) ← r.peek
      if t.kind == .documentEnd then loop n r.skip else pure (t, r)

/-- Reads the start of a document, or the end of the stream. The first document may
start without `---`; a later one, or one with directives, needs it. -/
def documentStart (r : EventReader) (implicit : Bool) : Except Problem (Event × EventReader) := do
  let (t, r) ← if implicit then r.peek else r.skipDocumentEnds
  if implicit && !(t.kind.isDirective || t.kind == .documentStart || t.kind == .streamEnd) then
    let r ← r.directives
    pure (⟨.documentStart, t.start⟩, (r.push .documentEnd).goTo .blockNode)
  else if t.kind != .streamEnd then
    let r ← r.directives
    let (t2, r) ← r.peek
    if t2.kind != .documentStart then
      throw (Problem.bare "did not find expected <document start>" t2.start)
    pure (⟨.documentStart, t.start⟩, ((r.push .documentEnd).goTo .documentContent).skip)
  else pure (⟨.streamEnd, t.start⟩, (r.goTo .finished).skip)

/-- Reads the node of a document that started with `---`; it may be left out. -/
def documentContent (r : EventReader) : Except Problem (Event × EventReader) := do
  let (t, r) ← r.peek
  if t.kind.isDirective || [TokenKind.documentStart, .documentEnd, .streamEnd].contains t.kind then
    pure (Event.empty t.start, r.pop)
  else r.node true false

/-- Reads the end of a document, with its `...` if it has one. -/
def documentEnd (r : EventReader) : Except Problem (Event × EventReader) := do
  let (t, r) ← r.peek
  let r := if t.kind == .documentEnd then r.skip else r
  pure (⟨.documentEnd, t.start⟩, { r with handles := [] }.goTo .documentStart)

/-- Reads the start of the stream. -/
def streamStart (r : EventReader) : Except Problem (Event × EventReader) := do
  let (t, r) ← r.peek
  if t.kind != .streamStart then throw (Problem.bare "did not find expected <stream-start>" t.start)
  pure (⟨.streamStart, t.start⟩, (r.goTo .implicitDocumentStart).skip)

/-- Reads the next event. After the end of the stream it is the end again. -/
def next (r : EventReader) : Except Problem (Event × EventReader) :=
  match r.phase with
  | .streamStart => r.streamStart
  | .implicitDocumentStart => r.documentStart true
  | .documentStart => r.documentStart false
  | .documentContent => r.documentContent
  | .documentEnd => r.documentEnd
  | .blockNode => r.node true false
  | .blockSequenceFirstEntry => r.blockSequenceEntry true
  | .blockSequenceEntry => r.blockSequenceEntry false
  | .indentlessSequenceEntry => r.indentlessSequenceEntry
  | .blockMappingFirstKey => r.blockMappingKey true
  | .blockMappingKey => r.blockMappingKey false
  | .blockMappingValue => r.blockMappingValue
  | .flowSequenceFirstEntry => r.flowSequenceEntry true
  | .flowSequenceEntry => r.flowSequenceEntry false
  | .flowPairKey => r.flowPairKey
  | .flowPairValue => r.flowPairValue
  | .flowPairEnd => r.flowPairEnd
  | .flowMappingFirstKey => r.flowMappingKey true
  | .flowMappingKey => r.flowMappingKey false
  | .flowMappingValue => r.flowMappingValue false
  | .flowMappingEmptyValue => r.flowMappingValue true
  | .finished => .ok (⟨.streamEnd, r.lexer.cursor.mark⟩, r)

end EventReader

end Yaml

end ShardDump
