/-!
# Input and output errors

An `IoError` is either an error number reported by the operating system or an error
raised by a stream with a kind and a text of its own. The text of an operating-system
error is its description followed by its number, as in
`No such file or directory (os error 2)`.
-/

namespace ShardDump

/-- The error numbers that the disk model reports. -/
inductive Errno where
  /-- A path or one of its directories is missing (`ENOENT`). -/
  | noEntry
  /-- The path names a socket, which cannot be opened as a file (`ENXIO`). -/
  | noDeviceOrAddress
  /-- The path already exists (`EEXIST`). -/
  | fileExists
  /-- A directory was expected on the way (`ENOTDIR`). -/
  | notADirectory
  /-- A file operation was applied to a directory (`EISDIR`). -/
  | isADirectory
  /-- A socket address is already bound (`EADDRINUSE`). -/
  | addressInUse
  deriving DecidableEq, Repr

/-- The classes of errors that callers tell apart. -/
inductive IoKind where
  | notFound
  | alreadyExists
  | notADirectory
  | isADirectory
  | invalidInput
  | invalidData
  | unexpectedEof
  | interrupted
  | addrInUse
  | other
  /-- An error number that has no class of its own. -/
  | uncategorized
  deriving DecidableEq, Repr

namespace Errno

/-- The number of the error. -/
def code : Errno → Nat
  | .noEntry => 2
  | .noDeviceOrAddress => 6
  | .fileExists => 17
  | .notADirectory => 20
  | .isADirectory => 21
  | .addressInUse => 98

/-- The system's description of the error. -/
def description : Errno → String
  | .noEntry => "No such file or directory"
  | .noDeviceOrAddress => "No such device or address"
  | .fileExists => "File exists"
  | .notADirectory => "Not a directory"
  | .isADirectory => "Is a directory"
  | .addressInUse => "Address already in use"

/-- The class of the error. -/
def kind : Errno → IoKind
  | .noEntry => .notFound
  | .noDeviceOrAddress => .uncategorized
  | .fileExists => .alreadyExists
  | .notADirectory => .notADirectory
  | .isADirectory => .isADirectory
  | .addressInUse => .addrInUse

end Errno

/-- An error of an input or output operation. -/
inductive IoError where
  /-- An error number from the operating system. -/
  | os (errno : Errno)
  /-- An error raised by a stream, with its own kind and text. -/
  | custom (kind : IoKind) (text : String)
  deriving DecidableEq, Repr

namespace IoError

/-- The class of the error. -/
def kind : IoError → IoKind
  | .os e => e.kind
  | .custom k _ => k

/-- The text of the error. -/
def message : IoError → String
  | .os e => e.description ++ " (os error " ++ toString e.code ++ ")"
  | .custom _ text => text

end IoError

end ShardDump
