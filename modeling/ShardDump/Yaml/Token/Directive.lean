import ShardDump.Yaml.Token.Property

/-!
# Directives

A directive is a line that starts with `%`. `%YAML major.minor` names the version of the
language, with at most nine digits to a number. `%TAG handle uri` makes tags with that
handle stand for the URI followed by their suffix. A directive may be followed by blanks
and a comment, and then must end its line.
-/

namespace ShardDump

namespace Yaml

/-- What a mistake in a version directive is said to happen in. -/
def versionContext : String := "while scanning a %YAML directive"

/-- Reads the digits of a version number; `length` digits have been read. -/
def versionDigits (start : Mark) : Nat → Nat → Nat → Cursor → Except Problem (Nat × Cursor)
  | 0, _, value, c => .ok (value, c)
  | fuel + 1, length, value, c =>
    match (c.charAt 0).filter Char.isDigit with
    | some ch =>
      if length + 1 > 9 then
        .error (Problem.within versionContext start "found extremely long version number" c.mark)
      else versionDigits start fuel (length + 1) (value * 10 + (ch.toNat - '0'.toNat)) c.skip
    | none =>
      if length == 0 then
        .error (Problem.within versionContext start "did not find expected version number" c.mark)
      else .ok (value, c)

/-- Reads a version number of one to nine digits. -/
def versionNumber (start : Mark) (c : Cursor) : Except Problem (Nat × Cursor) :=
  versionDigits start 10 0 0 c

/-- Reads the value of a `%YAML` directive: `major.minor`. -/
def versionValue (start : Mark) (c : Cursor) : Except Problem (TokenKind × Cursor) := do
  let (major, c) ← versionNumber start c.skipBlanks
  if !c.is '.' then
    throw (Problem.within versionContext start "did not find expected digit or '.' character" c.mark)
  let (minor, c) ← versionNumber start c.skip
  pure (.versionDirective major minor, c)

/-- Reads the value of a `%TAG` directive: a handle, blanks, and a URI. -/
def tagDirectiveValue (start : Mark) (c : Cursor) : Except Problem (TokenKind × Cursor) := do
  let context := "while scanning a %TAG directive"
  let (handle, c) ← tagHandle true start c.skipBlanks
  if !c.blankAt 0 then throw (Problem.within context start "did not find expected whitespace" c.mark)
  let (uri, c) ← tagUri true true "" start c.skipBlanks
  if !c.spaceOrEndAt 0 then
    throw (Problem.within context start "did not find expected whitespace or line break" c.mark)
  pure (.tagDirective handle uri, c)

/-- Reads a directive up to the end of its line. -/
def directive (c : Cursor) : Except Problem (Token × Cursor) := do
  let context := "while scanning a directive"
  let start := c.mark
  let (name, c) := c.skip.takeWord
  if name.isEmpty then
    throw (Problem.within context start "could not find expected directive name" c.mark)
  if !c.spaceOrEndAt 0 then
    throw (Problem.within context start "found unexpected non-alphabetical character" c.mark)
  let (kind, c) ←
    if name == "YAML" then versionValue start c
    else if name == "TAG" then tagDirectiveValue start c
    else throw (Problem.within context start "found unknown directive name" c.mark)
  let stop := c.mark
  let c := c.skipBlanks.skipComment
  if !c.breakOrEndAt 0 then
    throw (Problem.within context start "did not find expected comment or line break" c.mark)
  pure (⟨kind, start, stop⟩, c.skipBreak)

end Yaml

end ShardDump
