import ShardDump.Binary64.Round

/-!
# Similar words

A mistyped word on the command line is answered with the known words that resemble it.
Resemblance is the Jaro similarity of the two character sequences: characters match when
they are equal and no further apart than half the longer length less one, each character
matching at most once, in order; with `m` matches and `t` half the number of matched
pairs out of order, the similarity of `a` and `b` is `(m / |a| + m / |b| + (m - t) / m) / 3`.
Similarities are computed in binary64 arithmetic: each of the three fractions is rounded,
then their sum left to right, then the division by three. A word is suggested when its
similarity exceeds the binary64 value nearest to `7 / 10`; so a similarity of exactly
`7 / 10`, which rounds to the value just above it, is suggested.
-/

namespace ShardDump

namespace Similarity

/-- A similarity, a binary64 value. -/
abbrev Score := Binary64

/-- Matches the characters of `a`, from position `i`, against those of `b`: each gets the
first unused equal character of `b` in its window, if any. `used` lists the positions of
`b` already taken. -/
def matchFrom (b : List Char) (range : Nat) : Nat → List Char → List Nat → List (Option Nat)
  | _, [], _ => []
  | i, c :: rest, used =>
    let lo := i - range
    let hi := min b.length (i + range + 1)
    let found := (List.range hi).find? fun j => lo ≤ j && b[j]? == some c && !used.contains j
    found :: matchFrom b range (i + 1) rest (match found with | some j => j :: used | none => used)

/-- The Jaro similarity of two words. -/
def jaro (a b : List Char) : Score :=
  if a.isEmpty && b.isEmpty then Binary64.ofNat 1
  else if a.isEmpty || b.isEmpty then Binary64.zero
  else
    let range := max a.length b.length / 2 - 1
    let marks := matchFrom b range 0 a []
    let positions := marks.filterMap id
    let m := positions.length
    if m = 0 then Binary64.zero
    else
      -- the matched characters of `a` in order, against those of `b` in order
      let fromA := (a.zip marks).filterMap fun (c, mark) => mark.map fun _ => c
      let fromB := (positions.mergeSort (· ≤ ·)).filterMap fun j => b[j]?
      let t := ((fromA.zip fromB).filter fun (x, y) => x != y).length / 2
      let part := fun (num den : Nat) => Binary64.div (Binary64.ofNat num) (Binary64.ofNat den)
      let sum := Binary64.add (Binary64.add (part m a.length) (part m b.length)) (part (m - t) m)
      Binary64.div sum (Binary64.ofNat 3)

/-- The least similarity that is not suggested: the binary64 value nearest to `7 / 10`. -/
def threshold : Score := Binary64.ofRatio 7 10

/-- Whether a score exceeds the threshold. -/
def Score.isClose (x : Score) : Bool := Binary64.lt threshold x

/-- The words among `known` that resemble `word`, from the least to the most similar;
words of equal similarity keep their order. -/
def similarWords (word : String) (known : List String) : List String :=
  let scored := known.filterMap fun k =>
    let s := jaro word.toList k.toList
    if s.isClose then some (s, k) else none
  (scored.mergeSort fun x y => !Binary64.lt y.1 x.1).map (·.2)

end Similarity

end ShardDump
