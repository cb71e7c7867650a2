/-!
# Places in YAML text, and why text cannot be read

A `Mark` is a place in YAML text: the bytes of UTF-8 before it, and its line and column
in characters, all counted from 0. A `Problem` says why text cannot be read: it holds a character that YAML
text may not hold, or a mistake of form found at one mark while a construct that started
at another was being read.

A message names a place by its line and column counted from 1. It leaves out the very
start of the text, and it leaves out the construct's place when that is the place of the
mistake.
-/

namespace ShardDump

namespace Yaml

/-- A place in YAML text: how many bytes of UTF-8 come before it, and its line and column
in characters, all counted from 0. -/
structure Mark where
  index : Nat
  line : Nat
  column : Nat
  deriving DecidableEq, Repr, Inhabited

namespace Mark

/-- The start of the text. -/
def origin : Mark := ⟨0, 0, 0⟩

/-- Whether a mark is at the first column of the first line. -/
def isOrigin (m : Mark) : Bool := m.line == 0 && m.column == 0

/-- Whether two marks are on the same line and in the same column. -/
def samePlace (a b : Mark) : Bool := a.line == b.line && a.column == b.column

/-- How a message names a mark: line and column counted from 1. -/
def text (m : Mark) : String :=
  "line " ++ toString (m.line + 1) ++ " column " ++ toString (m.column + 1)

/-- The mark one character of `width` bytes further along the line. -/
def next (m : Mark) (width : Nat) : Mark := ⟨m.index + width, m.line, m.column + 1⟩

/-- The mark at the start of the next line, after a line break of `width` bytes. -/
def nextLine (m : Mark) (width : Nat) : Mark := ⟨m.index + width, m.line + 1, 0⟩

end Mark

/-- Why YAML text cannot be read. -/
inductive Problem where
  /-- A character that YAML text may not hold, at a byte offset. -/
  | forbiddenCharacter (offset : Nat)
  /-- A mistake of form: what is wrong and where, and what was being read, from where. -/
  | malformed (what : String) (found : Mark) (context : Option (String × Mark))
  deriving DecidableEq, Repr

namespace Problem

/-- A mistake found at `found` while reading a construct that started at `start`. -/
def within (context : String) (start : Mark) (what : String) (found : Mark) : Problem :=
  .malformed what found (some (context, start))

/-- A mistake found at `found`, outside any construct being read. -/
def bare (what : String) (found : Mark) : Problem := .malformed what found none

/-- The text of a problem. -/
def message : Problem → String
  | .forbiddenCharacter offset =>
    "control characters are not allowed" ++
      (if offset = 0 then "" else " at position " ++ toString offset)
  | .malformed what found context =>
    what ++ (if found.isOrigin then "" else " at " ++ found.text) ++
      match context with
      | none => ""
      | some (c, start) =>
        ", " ++ c ++ (if start.isOrigin || start.samePlace found then "" else " at " ++ start.text)

end Problem

end Yaml

end ShardDump
