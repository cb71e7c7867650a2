import ShardDump.Yaml.Token

/-!
# YAML events

The events of YAML text: where the stream and its documents start and end, where
collections open and close, and the scalars and aliases between them, in the order of the
text. A node carries the name of its anchor, if any, and its tag once the tag's handle
has been resolved to a URI.
-/

namespace ShardDump

namespace Yaml

/-- What an event is. -/
inductive EventKind where
  | streamStart
  | streamEnd
  | documentStart
  | documentEnd
  | alias (name : String)
  | scalar (anchor tag : Option String) (text : String) (style : ScalarStyle)
  | sequenceStart (anchor tag : Option String)
  | sequenceEnd
  | mappingStart (anchor tag : Option String)
  | mappingEnd
  deriving DecidableEq, Repr

/-- An event with the place where it starts. -/
structure Event where
  kind : EventKind
  start : Mark
  deriving DecidableEq, Repr

namespace Event

/-- An empty plain scalar: the node of a key or value that is left out. -/
def empty (m : Mark) : Event := ⟨.scalar none none "" .plain, m⟩

end Event

end Yaml

end ShardDump
