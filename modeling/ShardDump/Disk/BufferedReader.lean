import ShardDump.Disk.Basic
import ShardDump.Frame.Stream

/-!
# Buffered reading of files

A `BufferedReader` reads an open file through a buffer of 8 KiB: when the buffer is
empty it is refilled by one read at the file's offset, and requests are served from it.
A request of at least the buffer's size that finds the buffer empty goes to the file
directly. Bytes that were buffered stay as they were read, even if the file changes
afterwards.

Reading a line takes bytes up to and including the next newline, or to the end of the
file.
-/

namespace ShardDump

/-- An open file read through a buffer. -/
structure BufferedReader where
  /-- The open file. -/
  handle : Handle
  /-- The offset in the file of the next read. -/
  offset : Nat := 0
  /-- Bytes read from the file and not yet handed out. -/
  buffer : Bytes := []

namespace BufferedReader

/-- The size of the buffer. -/
def capacity : Nat := 8192

/-- A reader at the start of an open file. -/
def ofHandle (h : Handle) : BufferedReader := { handle := h }

/-- Refills an empty buffer by one read; leaves a non-empty one as it is. -/
def fill (d : Disk) (r : BufferedReader) : Except Errno BufferedReader :=
  if r.buffer.isEmpty then
    match d.readAt r.handle r.offset capacity with
    | .ok got => .ok { r with offset := r.offset + got.length, buffer := got }
    | .error e => .error e
  else .ok r

/-- One read request of at most `want` bytes. -/
def read (d : Disk) (r : BufferedReader) (want : Nat) : Except Errno Bytes × BufferedReader :=
  if r.buffer.isEmpty ∧ capacity ≤ want then
    match d.readAt r.handle r.offset want with
    | .ok got => (.ok got, { r with offset := r.offset + got.length })
    | .error e => (.error e, r)
  else
    match r.fill d with
    | .error e => (.error e, r)
    | .ok r' => (.ok (r'.buffer.take want), { r' with buffer := r'.buffer.drop want })

/-- The bytes the reader can still hand out. -/
def remaining (d : Disk) (r : BufferedReader) : Nat :=
  r.buffer.length + match r.handle with
    | .file i => (d.content i).length - r.offset
    | .directory => 0

/-- The newline byte. -/
def newline : UInt8 := 10

/-- Reads through the next newline, for at most `fuel` refills of the buffer. -/
def readLineUpTo (d : Disk) : Nat → BufferedReader → Bytes → Except Errno Bytes × BufferedReader
  | 0, r, acc => (.ok acc, r)
  | fuel + 1, r, acc =>
    match r.fill d with
    | .error e => (.error e, r)
    | .ok r' =>
      if r'.buffer.isEmpty then (.ok acc, r')
      else
        match r'.buffer.idxOf? newline with
        | some i => (.ok (acc ++ r'.buffer.take (i + 1)), { r' with buffer := r'.buffer.drop (i + 1) })
        | none => readLineUpTo d fuel { r' with buffer := [] } (acc ++ r'.buffer)

/-- Reads the bytes of the next line, with its newline if it has one; no bytes at the
end of the file. Every refill but the last brings at least one byte, so the bytes still
to read bound the refills. -/
def readLine (d : Disk) (r : BufferedReader) : Except Errno Bytes × BufferedReader :=
  readLineUpTo d (r.remaining d + 2) r []

end BufferedReader

/-- A buffered reader over a disk, as a source of read calls. -/
structure FileSource where
  disk : Disk
  reader : BufferedReader

instance : ByteSource FileSource where
  read s n :=
    match s.reader.read s.disk n with
    | (.ok b, r) => (.data b, { s with reader := r })
    | (.error e, r) => (.failed (.os e), { s with reader := r })
  interruptBudget _ := 0
  budget_lt s n h := by
    revert h
    split <;> simp

end ShardDump
