import ShardDump.Bytes
import ShardDump.IoError

/-!
# Frames

A frame carries one non-empty payload: its length as a four-byte little-endian word,
then the payload itself. A stream of frames ends where the bytes end or where a frame
claims length zero, which is why an empty payload cannot be framed.

`Frame.parse` is the reading rule on a whole byte string: it returns the payloads in
order and how the stream ended. Readers that pull bytes in pieces (`Frame.read`) are
measured against it.
-/

namespace ShardDump

namespace Frame

/-- The number of bytes of the length prefix. -/
def prefixSize : Nat := 4

/-- Payloads must have a length that the four-byte prefix can hold. -/
def lengthLimit : Nat := Nat.pow 2 32

/-- The bytes of a frame: the payload's length, then the payload. -/
def encode (payload : Bytes) : Bytes :=
  leBytes prefixSize payload.length ++ payload

/-- The error for an empty payload, which no frame can carry. -/
def emptyPayloadError : IoError :=
  .custom .invalidInput "empty payload cannot be framed"

/-- The error for a payload too long for the length prefix. -/
def oversizeError (length : Nat) : IoError :=
  .custom .invalidInput s!"payload of {length} bytes exceeds frame length limit"

/-- The error for a stream that ends inside a length prefix after `filled` bytes. -/
def truncatedPrefixError (filled : Nat) : IoError :=
  .custom .unexpectedEof s!"length prefix truncated after {filled} of {prefixSize} bytes"

/-- The error for a payload that ends after `available` of its `claimed` bytes. -/
def shortPayloadError (claimed available : Nat) : IoError :=
  .custom .unexpectedEof s!"frame claims {claimed} bytes, only {available} available"

/-- Appends the frame of `payload` to `buffer`; an empty or oversized payload is
refused and the buffer is left as it was. -/
def write (buffer payload : Bytes) : Except IoError Bytes :=
  if payload.isEmpty then .error emptyPayloadError
  else if lengthLimit ≤ payload.length then .error (oversizeError payload.length)
  else .ok (buffer ++ encode payload)

/-- How a stream of frames ended: cleanly, or with an error. -/
abbrev Ending := Option IoError

/-- Reads every frame of a whole byte string: the payloads in order, and how the
stream ended. -/
def parse (data : Bytes) : List Bytes × Ending :=
  if data.isEmpty then ([], none)
  else if data.length < prefixSize then ([], some (truncatedPrefixError data.length))
  else
    let claimed := leValue (data.take prefixSize)
    let rest := data.drop prefixSize
    if claimed = 0 then ([], none)
    else if rest.length < claimed then ([], some (shortPayloadError claimed rest.length))
    else
      let (frames, ending) := parse (rest.drop claimed)
      (rest.take claimed :: frames, ending)
termination_by data.length
decreasing_by
  simp only [List.length_drop, prefixSize] at *
  have : data.length ≠ 0 := by simpa [List.isEmpty_iff, List.length_eq_zero_iff] using ‹¬data.isEmpty = true›
  omega

@[simp] theorem length_encode (payload : Bytes) :
    (encode payload).length = prefixSize + payload.length := by
  simp [encode]

theorem write_nil (buffer : Bytes) : write buffer [] = .error emptyPayloadError := rfl

theorem write_of_ne_nil (buffer : Bytes) {p : Bytes} (hp : p ≠ []) (hlt : p.length < lengthLimit) :
    write buffer p = .ok (buffer ++ encode p) := by
  have hempty : p.isEmpty = false := by simpa using hp
  simp [write, hempty, Nat.not_le.2 hlt]

end Frame

end ShardDump
