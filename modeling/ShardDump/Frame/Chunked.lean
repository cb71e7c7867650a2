import ShardDump.Frame.Stream

/-!
# An in-memory source that hands out bytes in pieces

`ChunkedBytes` serves a byte string through read calls: each call gives at most
`chunk` bytes, a source set to interrupt reports an interruption on every other call,
and once `failAt` bytes have been consumed every call fails. It is the source on which
the frame reader's behaviour under short reads, interruptions and failures is observed.
-/

namespace ShardDump

/-- A byte string served by read calls, with limits and injected faults. -/
structure ChunkedBytes where
  /-- The bytes to serve. -/
  data : Bytes
  /-- How many bytes have been handed out. -/
  consumed : Nat := 0
  /-- The most bytes one call gives, if limited. -/
  chunk : Option Nat := none
  /-- Whether every other call is interrupted. -/
  interrupting : Bool := false
  /-- Whether the next call will be interrupted. -/
  interruptNext : Bool := false
  /-- Every call made once this many bytes were consumed fails, if set. -/
  failAt : Option Nat := none

namespace ChunkedBytes

/-- The error of a call made past `failAt`. -/
def injectedError : IoError := .custom .other "injected read failure"

/-- A source over `data` with the given limits; its first call is interrupted when
interruptions are asked for. -/
def ofBytes (data : Bytes) (chunk : Option Nat) (interrupting : Bool) (failAt : Option Nat) :
    ChunkedBytes :=
  { data, chunk, interrupting, interruptNext := interrupting, failAt }

/-- Whether a call made now fails. -/
def failsNow (s : ChunkedBytes) : Bool :=
  match s.failAt with
  | some k => decide (k ≤ s.consumed)
  | none => false

/-- One read call asking for at most `want` bytes. -/
def readCall (s : ChunkedBytes) (want : Nat) : ReadOutcome × ChunkedBytes :=
  if s.failsNow then (.failed injectedError, s)
  else if s.interruptNext then (.interrupted, { s with interruptNext := false })
  else
    let size := match s.chunk with
      | some c => min c want
      | none => want
    let bytes := (s.data.drop s.consumed).take size
    (.data bytes, { s with consumed := s.consumed + bytes.length,
                           interruptNext := s.interrupting })

instance : ByteSource ChunkedBytes where
  read := readCall
  interruptBudget s := if s.interruptNext then 1 else 0
  budget_lt s n h := by
    by_cases hf : s.failsNow
    · simp [readCall, hf] at h
    · by_cases hi : s.interruptNext
      · simp [readCall, hf, hi]
      · simp [readCall, hf, hi] at h

/-- Reads every frame of the source: the payloads, how the stream ended, and the
source afterwards. Each frame consumes at least one byte, so the length of the data
bounds the number of frames. -/
def frames (s : ChunkedBytes) : List Bytes × Frame.Ending × ChunkedBytes :=
  Frame.readMany s (s.data.length + 1)

end ChunkedBytes

end ShardDump
