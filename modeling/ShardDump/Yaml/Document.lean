import ShardDump.Yaml.Event.Reader

/-!
# YAML documents as lists of items

A `Document` is the first document of a YAML stream, as the list of its events in order.
Anchors are numbered as they are defined: an anchor takes the number of distinct names
defined before it, whether its own name is new or not, so a name defined again and a
later new name can share a number. A number stands for the last node that took it. An
alias keeps the number its name had where the alias stands, and refers to the node that
number stands for once the whole document is read.

The items are read up to the first error. A document keeps both the items before the error
and its message, so a reader of the items meets the error only where the items run out.
An alias to an unknown anchor ends the items the same way. A stream with no document at
all has one item, `void`.

`EventReader.hasMore` tells whether the stream goes on after the first document: with
another document, or with an error.
-/

namespace ShardDump

namespace Yaml

/-- What a document holds at one position. -/
inductive Item where
  /-- An alias, by the number of its anchor. -/
  | alias (anchor : Nat)
  | scalar (tag : Option String) (text : String) (style : ScalarStyle)
  | sequenceStart
  | sequenceEnd
  | mappingStart
  | mappingEnd
  /-- The only item of a stream with no document. -/
  | void
  deriving DecidableEq, Repr

/-- The first document of a stream: its items with their marks, the position each anchor
number stands for (latest first), and the message of the error that ended the items
early, if one did. -/
structure Document where
  items : Array (Item × Mark)
  targets : List (Nat × Nat)
  error : Option String
  deriving Repr

/-- The anchors of a document so far: the number each name stands for, latest first, how
many distinct names have been defined, and the position each number stands for, latest
first. -/
structure Anchors where
  names : List (String × Nat)
  count : Nat
  targets : List (Nat × Nat)

namespace Anchors

/-- No anchors. -/
def empty : Anchors := ⟨[], 0, []⟩

/-- The anchors after a node at `pos` with the given anchor: it takes the number of
distinct names so far, and that number now stands for `pos`. -/
def define (a : Anchors) (anchor : Option String) (pos : Nat) : Anchors :=
  match anchor with
  | none => a
  | some name =>
    { names := (name, a.count) :: a.names
      count := if a.names.any (·.1 == name) then a.count else a.count + 1
      targets := (a.count, pos) :: a.targets }

end Anchors

/-- The message for an alias whose anchor is not known at its place. -/
def unknownAnchor (m : Mark) : String :=
  "unknown anchor" ++ (if m.isOrigin then "" else " at " ++ m.text)

/-- The message for a stream that goes on after its first document. -/
def moreThanOneDocument : String :=
  "deserializing from YAML containing more than one document is not supported"

namespace Document

/-- The position the anchor number `anchor` stands for. -/
def target? (d : Document) (anchor : Nat) : Option Nat := d.targets.lookup anchor

/-- Reads the events of the first document into items. Gives the reader after the
document's end, if it ended without an error. -/
def collect : Nat → Array (Item × Mark) → Anchors → EventReader →
    Document × Option EventReader
  | 0, items, anchors, _ => (⟨items, anchors.targets, none⟩, none)
  | fuel + 1, items, anchors, r =>
    match r.next with
    | .error p => (⟨items, anchors.targets, some p.message⟩, none)
    | .ok (e, r) =>
      let add (item : Item) (anchor : Option String) :=
        collect fuel (items.push (item, e.start)) (anchors.define anchor items.size) r
      match e.kind with
      | .streamStart | .documentStart => collect fuel items anchors r
      | .streamEnd =>
        (⟨if items.isEmpty then #[(.void, e.start)] else items, anchors.targets, none⟩, none)
      | .documentEnd => (⟨items, anchors.targets, none⟩, some r)
      | .alias name =>
        match anchors.names.lookup name with
        | some number => add (.alias number) none
        | none => (⟨items, anchors.targets, some (unknownAnchor e.start)⟩, none)
      | .scalar anchor tag text style => add (.scalar tag text style) anchor
      | .sequenceStart anchor _ => add .sequenceStart anchor
      | .sequenceEnd => add .sequenceEnd none
      | .mappingStart anchor _ => add .mappingStart anchor
      | .mappingEnd => add .mappingEnd none

/-- A bound on the number of events of a text of `n` characters. -/
def eventBound (n : Nat) : Nat := 16 * (n + 8)

/-- The first document of YAML text, and the reader after it if it ended cleanly. -/
def first (text : String) : Document × Option EventReader :=
  collect (eventBound text.length) #[] Anchors.empty (EventReader.ofString text)

end Document

namespace EventReader

/-- Whether the stream goes on after a document: with another one, or with an error. -/
def hasMore (r : EventReader) : Bool :=
  loop (Document.eventBound r.lexer.cursor.remaining) r
where
  loop : Nat → EventReader → Bool
    | 0, _ => false
    | n + 1, r =>
      match r.next with
      | .error _ => true
      | .ok (e, r) =>
        match e.kind with
        | .streamEnd => false
        | .documentEnd => true
        | _ => loop n r

end EventReader

end Yaml

end ShardDump
