import ShardDump.Frame.Basic

/-!
# Reading frames from a source, one read call at a time

A `ByteSource` answers read calls: asked for at most `n` bytes it hands out some bytes
(none at its end), reports an interruption, or fails. An interruption is transient and
the call is made again; a source can report only finitely many interruptions in a row,
which is what `interruptBudget` counts.

`Frame.read` reads one frame. The length prefix is read by repeated calls until four
bytes arrived or the source ends. The payload is read to the end of a window of the
claimed length, with the call sizes of a buffer that starts empty and grows: a first
probe of at most 32 bytes, then calls that fill the buffer's spare room, which at least
doubles whenever less than 32 bytes of it are left, with each call capped at 8 KiB until
a call fills its whole request at that cap. The call sizes decide how a source that gives out bytes in
pieces is drained, and so where a failure of one of its calls is met.
-/

namespace ShardDump

/-- What one read call gives. -/
inductive ReadOutcome where
  /-- Some bytes; none means the end of the source. -/
  | data (bytes : Bytes)
  /-- The call was interrupted and may be made again. -/
  | interrupted
  /-- The call failed. -/
  | failed (error : IoError)

/-- A source of bytes that answers read calls. -/
class ByteSource (σ : Type) where
  /-- One read call asking for at most the given number of bytes. -/
  read : σ → Nat → ReadOutcome × σ
  /-- A bound on the interruptions the source can still report in a row. -/
  interruptBudget : σ → Nat
  /-- Each interruption spends budget, so retrying an interrupted call ends. -/
  budget_lt : ∀ s n, (read s n).1 = .interrupted →
    interruptBudget (read s n).2 < interruptBudget s

namespace ByteSource

variable {σ : Type} [ByteSource σ]

/-- One read call, made again for as long as it is interrupted. -/
def readOnce (s : σ) (want : Nat) : Except IoError Bytes × σ :=
  match _hread : (read s want).1 with
  | .data bytes => (.ok bytes, (read s want).2)
  | .failed e => (.error e, (read s want).2)
  | .interrupted => readOnce (read s want).2 want
termination_by interruptBudget s
decreasing_by exact budget_lt s want _hread

/-- Reads until `need` more bytes have arrived or the source ends, appending to `acc`. -/
def readFull (s : σ) (need : Nat) (acc : Bytes) : Except IoError Bytes × σ :=
  if need = 0 then (.ok acc, s)
  else
    match readOnce s need with
    | (.error e, s') => (.error e, s')
    | (.ok bytes, s') =>
      let got := bytes.take need
      if _h : got.length = 0 then (.ok acc, s')
      else readFull s' (need - got.length) (acc ++ got)
termination_by need
decreasing_by
  simp only [got, List.length_take] at *
  omega

/-- The first request of a payload read: a probe of at most this many bytes. -/
def probeSize : Nat := 32

/-- The cap on a single request until a request is filled whole at the cap. -/
def initialReadCap : Nat := 8192

/-- The capacity of a buffer of `length` bytes after it grows to hold `extra` more. -/
def grownCapacity (capacity length extra : Nat) : Nat :=
  max (max (2 * capacity) (length + extra)) 8

/-- The growing-buffer loop of a payload read: `limit` bytes of the window are still
unread, the buffer holds `acc` within `capacity`, and requests are capped at `cap`. -/
def readWindowLoop (s : σ) (limit capacity cap : Nat) (acc : Bytes) :
    Except IoError Bytes × σ :=
  let capacity := if capacity - acc.length < probeSize then
      grownCapacity capacity acc.length probeSize
    else capacity
  let room := min (capacity - acc.length) cap
  if limit = 0 then (.ok acc, s)
  else
    let want := min room limit
    match readOnce s want with
    | (.error e, s') => (.error e, s')
    | (.ok bytes, s') =>
      let got := bytes.take want
      if _h : got.length = 0 then (.ok acc, s')
      else
        let cap := if cap ≤ room ∧ got.length = room then 2 * cap else cap
        readWindowLoop s' (limit - got.length) capacity cap (acc ++ got)
termination_by limit
decreasing_by
  simp only [got, want, List.length_take] at *
  omega

/-- Reads a window of `limit` bytes to its end or to the end of the source. -/
def readWindow (s : σ) (limit : Nat) : Except IoError Bytes × σ :=
  if limit = 0 then (.ok [], s)
  else
    let want := min probeSize limit
    match readOnce s want with
    | (.error e, s') => (.error e, s')
    | (.ok bytes, s') =>
      let got := bytes.take want
      if got.length = 0 then (.ok [], s')
      else readWindowLoop s' (limit - got.length) (max got.length 8) initialReadCap got

end ByteSource

namespace Frame

variable {σ : Type} [ByteSource σ]

/-- Reads the next frame: its payload, `none` at the end of the stream, or an error.
A stream that ends inside a frame gives an `unexpectedEof` error; an error of the
source is passed on as it is. -/
def read (s : σ) : Except IoError (Option Bytes) × σ :=
  match ByteSource.readFull s prefixSize [] with
  | (.error e, s') => (.error e, s')
  | (.ok lengthBytes, s') =>
    if lengthBytes.length = 0 then (.ok none, s')
    else if lengthBytes.length < prefixSize then
      (.error (truncatedPrefixError lengthBytes.length), s')
    else
      let claimed := leValue lengthBytes
      if claimed = 0 then (.ok none, s')
      else
        match ByteSource.readWindow s' claimed with
        | (.error e, s'') => (.error e, s'')
        | (.ok payload, s'') =>
          if payload.length < claimed then
            (.error (shortPayloadError claimed payload.length), s'')
          else (.ok (some payload), s'')

/-- Reads frames until the stream ends or fails, for at most `fuel` frames. -/
def readMany (s : σ) : Nat → List Bytes × Ending × σ
  | 0 => ([], none, s)
  | fuel + 1 =>
    match read s with
    | (.error e, s') => ([], some e, s')
    | (.ok none, s') => ([], none, s')
    | (.ok (some payload), s') =>
      let (frames, ending, s'') := readMany s' fuel
      (payload :: frames, ending, s'')

end Frame

end ShardDump
