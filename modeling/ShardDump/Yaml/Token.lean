import ShardDump.Yaml.Mark

/-!
# YAML tokens

The tokens of YAML text. Block collections are written by indentation, so their starts and
ends are tokens of their own, found by comparing columns. Flow collections are written
with brackets. A key is marked by `?` or by the `:` that follows it, and a value by `:`.
Anchors, aliases and tags are the properties a node may carry, and scalars carry their
text and how it was written.
-/

namespace ShardDump

namespace Yaml

/-- How a scalar is written. -/
inductive ScalarStyle where
  | plain
  | singleQuoted
  | doubleQuoted
  | literal
  | folded
  deriving DecidableEq, Repr

/-- What a token is. -/
inductive TokenKind where
  | streamStart
  | streamEnd
  /-- `%YAML major.minor`. -/
  | versionDirective (major minor : Nat)
  /-- `%TAG handle uri`: tags with the handle stand for the URI followed by their suffix. -/
  | tagDirective (handle uri : String)
  | documentStart
  | documentEnd
  | blockSequenceStart
  | blockMappingStart
  | blockEnd
  | flowSequenceStart
  | flowSequenceEnd
  | flowMappingStart
  | flowMappingEnd
  | blockEntry
  | flowEntry
  | key
  | value
  | alias (name : String)
  | anchor (name : String)
  /-- A tag: its handle (empty for a verbatim tag) and suffix. -/
  | tag (handle suffix : String)
  | scalar (text : String) (style : ScalarStyle)
  deriving DecidableEq, Repr

namespace TokenKind

/-- Whether a token is a directive. -/
def isDirective : TokenKind → Bool
  | .versionDirective .. | .tagDirective .. => true
  | _ => false

end TokenKind

/-- A token with the places where it starts and where it stops. -/
structure Token where
  kind : TokenKind
  start : Mark
  stop : Mark
  deriving DecidableEq, Repr

end Yaml

end ShardDump
