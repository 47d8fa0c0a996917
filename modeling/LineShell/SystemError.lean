/-
What the operating system, or a stream, answers when it refuses. An
error is a numbered one of the system, a bare kind, or a kind with a
message of its own; each has exactly one text (`SystemError.message`)
and at most one kind (`SystemError.kind?`).

The kind matters in two places only: a read that was `interrupted` is
tried again, and a program that was not found or not permitted counts as
a fault of the program (`Fault.ofRequest`).
-/

namespace LineShell

/-- The kinds of refusal that are told apart. -/
inductive SystemError.Kind
  | notFound
  | permissionDenied
  | connectionReset
  | brokenPipe
  | alreadyExists
  | wouldBlock
  | invalidInput
  | invalidData
  | timedOut
  | writeZero
  | interrupted
  | unexpectedEnd
  | outOfMemory
  | storageFull
  | other
  deriving DecidableEq, Repr

/-- A refusal. -/
inductive SystemError
  | number (code : Int)
  | bare (kind : SystemError.Kind)
  | worded (kind : SystemError.Kind) (text : String)
  deriving DecidableEq, Repr

namespace SystemError

/-- The text of a bare kind. -/
def Kind.text : Kind → String
  | .notFound => "entity not found"
  | .permissionDenied => "permission denied"
  | .connectionReset => "connection reset"
  | .brokenPipe => "broken pipe"
  | .alreadyExists => "entity already exists"
  | .wouldBlock => "operation would block"
  | .invalidInput => "invalid input parameter"
  | .invalidData => "invalid data"
  | .timedOut => "timed out"
  | .writeZero => "write zero"
  | .interrupted => "operation interrupted"
  | .unexpectedEnd => "unexpected end of file"
  | .outOfMemory => "out of memory"
  | .storageFull => "no storage space"
  | .other => "other error"

/-- The text of a numbered error, without its number. -/
def numberText : Int → String
  | 0 => "Success"
  | 1 => "Operation not permitted"
  | 2 => "No such file or directory"
  | 3 => "No such process"
  | 4 => "Interrupted system call"
  | 5 => "Input/output error"
  | 6 => "No such device or address"
  | 7 => "Argument list too long"
  | 8 => "Exec format error"
  | 9 => "Bad file descriptor"
  | 10 => "No child processes"
  | 11 => "Resource temporarily unavailable"
  | 12 => "Cannot allocate memory"
  | 13 => "Permission denied"
  | 14 => "Bad address"
  | 15 => "Block device required"
  | 16 => "Device or resource busy"
  | 17 => "File exists"
  | 18 => "Invalid cross-device link"
  | 19 => "No such device"
  | 20 => "Not a directory"
  | 21 => "Is a directory"
  | 22 => "Invalid argument"
  | 23 => "Too many open files in system"
  | 24 => "Too many open files"
  | 25 => "Inappropriate ioctl for device"
  | 26 => "Text file busy"
  | 27 => "File too large"
  | 28 => "No space left on device"
  | 29 => "Illegal seek"
  | 30 => "Read-only file system"
  | 31 => "Too many links"
  | 32 => "Broken pipe"
  | 33 => "Numerical argument out of domain"
  | 34 => "Numerical result out of range"
  | 35 => "Resource deadlock avoided"
  | 36 => "File name too long"
  | 37 => "No locks available"
  | 38 => "Function not implemented"
  | 39 => "Directory not empty"
  | 40 => "Too many levels of symbolic links"
  | 42 => "No message of desired type"
  | 43 => "Identifier removed"
  | 44 => "Channel number out of range"
  | 45 => "Level 2 not synchronized"
  | 46 => "Level 3 halted"
  | 47 => "Level 3 reset"
  | 48 => "Link number out of range"
  | 49 => "Protocol driver not attached"
  | 50 => "No CSI structure available"
  | 51 => "Level 2 halted"
  | 52 => "Invalid exchange"
  | 53 => "Invalid request descriptor"
  | 54 => "Exchange full"
  | 55 => "No anode"
  | 56 => "Invalid request code"
  | 57 => "Invalid slot"
  | 59 => "Bad font file format"
  | 60 => "Device not a stream"
  | 61 => "No data available"
  | 62 => "Timer expired"
  | 63 => "Out of streams resources"
  | 64 => "Machine is not on the network"
  | 65 => "Package not installed"
  | 66 => "Object is remote"
  | 67 => "Link has been severed"
  | 68 => "Advertise error"
  | 69 => "Srmount error"
  | 70 => "Communication error on send"
  | 71 => "Protocol error"
  | 72 => "Multihop attempted"
  | 73 => "RFS specific error"
  | 74 => "Bad message"
  | 75 => "Value too large for defined data type"
  | 76 => "Name not unique on network"
  | 77 => "File descriptor in bad state"
  | 78 => "Remote address changed"
  | 79 => "Can not access a needed shared library"
  | 80 => "Accessing a corrupted shared library"
  | 81 => ".lib section in a.out corrupted"
  | 82 => "Attempting to link in too many shared libraries"
  | 83 => "Cannot exec a shared library directly"
  | 84 => "Invalid or incomplete multibyte or wide character"
  | 85 => "Interrupted system call should be restarted"
  | 86 => "Streams pipe error"
  | 87 => "Too many users"
  | 88 => "Socket operation on non-socket"
  | 89 => "Destination address required"
  | 90 => "Message too long"
  | 91 => "Protocol wrong type for socket"
  | 92 => "Protocol not available"
  | 93 => "Protocol not supported"
  | 94 => "Socket type not supported"
  | 95 => "Operation not supported"
  | 96 => "Protocol family not supported"
  | 97 => "Address family not supported by protocol"
  | 98 => "Address already in use"
  | 99 => "Cannot assign requested address"
  | 100 => "Network is down"
  | 101 => "Network is unreachable"
  | 102 => "Network dropped connection on reset"
  | 103 => "Software caused connection abort"
  | 104 => "Connection reset by peer"
  | 105 => "No buffer space available"
  | 106 => "Transport endpoint is already connected"
  | 107 => "Transport endpoint is not connected"
  | 108 => "Cannot send after transport endpoint shutdown"
  | 109 => "Too many references: cannot splice"
  | 110 => "Connection timed out"
  | 111 => "Connection refused"
  | 112 => "Host is down"
  | 113 => "No route to host"
  | 114 => "Operation already in progress"
  | 115 => "Operation now in progress"
  | 116 => "Stale file handle"
  | 117 => "Structure needs cleaning"
  | 118 => "Not a XENIX named type file"
  | 119 => "No XENIX semaphores available"
  | 120 => "Is a named type file"
  | 121 => "Remote I/O error"
  | 122 => "Disk quota exceeded"
  | 123 => "No medium found"
  | 124 => "Wrong medium type"
  | 125 => "Operation canceled"
  | 126 => "Required key not available"
  | 127 => "Key has expired"
  | 128 => "Key has been revoked"
  | 129 => "Key was rejected by service"
  | 130 => "Owner died"
  | 131 => "State not recoverable"
  | 132 => "Operation not possible due to RF-kill"
  | 133 => "Memory page has hardware error"
  | n => "Unknown error " ++ toString n

/-- A number, in the pieces that it is written in: its sign is one by
itself. -/
def numberPieces : Int → List String
  | .ofNat n => [n.repr]
  | .negSucc n => ["-", (n + 1).repr]

/-- The text of an error, in the pieces that it is written in. -/
def pieces : SystemError → List String
  | .number code => numberText code :: " (os error " :: (numberPieces code ++ [")"])
  | .bare kind => [kind.text]
  | .worded _ text => [text]

/-- The text of an error. -/
def message (e : SystemError) : String :=
  String.join e.pieces

theorem message_number (code : Int) :
    (number code).message = numberText code ++ " (os error " ++ toString code ++ ")" := by
  have hcode : String.join (numberPieces code) = toString code := by
    cases code <;> simp [numberPieces, String.join_cons] <;> rfl
  simp [message, pieces, String.join_cons, String.join_append, hcode, String.append_assoc]

/-- The text of an error, without its number if it has one. -/
def reason : SystemError → String
  | .number code => numberText code
  | e => e.message

/-- The kind of a numbered error, for the numbers that have one of the
kinds above. -/
def numberKind? : Int → Option Kind
  | 1 | 13 => some .permissionDenied
  | 2 => some .notFound
  | 4 => some .interrupted
  | 11 => some .wouldBlock
  | 12 => some .outOfMemory
  | 17 => some .alreadyExists
  | 22 => some .invalidInput
  | 28 => some .storageFull
  | 32 => some .brokenPipe
  | 104 => some .connectionReset
  | 110 => some .timedOut
  | _ => none

/-- The kind of an error. -/
def kind? : SystemError → Option Kind
  | .number code => numberKind? code
  | .bare kind => some kind
  | .worded kind _ => some kind

/-- An interrupted read has read nothing and is tried again. -/
def isInterrupted (e : SystemError) : Bool :=
  e.kind? == some .interrupted

-- ================================================ the errors raised here

/-- A file, or a directory on the way to it, does not exist. -/
def noEntry : SystemError := .number 2
/-- The arguments and variables of a program do not fit. -/
def argumentsTooLong : SystemError := .number 7
/-- A descriptor refers to no file that is open for what is asked. -/
def badDescriptor : SystemError := .number 9
/-- There is no process of a number. -/
def noProcess : SystemError := .number 3
/-- A file that may be executed is of no known format. -/
def unknownFormat : SystemError := .number 8
/-- A file may not be executed, or a directory not be searched. -/
def accessDenied : SystemError := .number 13
/-- Something is in the way that must not be there. -/
def fileExists : SystemError := .number 17
/-- Something used as a directory is none. -/
def notDirectory : SystemError := .number 20
/-- A directory was read as if it were a file. -/
def isDirectory : SystemError := .number 21
/-- Nobody reads what is written. -/
def brokenPipe : SystemError := .number 32
/-- A device is full. -/
def noSpace : SystemError := .number 28
/-- A path, or one name in it, exceeds the limit. -/
def nameTooLong : SystemError := .number 36
/-- More symbolic links than are followed. -/
def tooManyLinks : SystemError := .number 40
/-- A channel took no byte of a write without saying why. -/
def nothingTaken : SystemError := .worded .writeZero "failed to write whole buffer"
/-- A program was to be given a text with a NUL byte in it. -/
def nulInRequest : SystemError := .worded .invalidInput "nul byte found in provided data"
/-- A path has a NUL byte in it. -/
def nulInPath : SystemError :=
  .worded .invalidInput "file name contained an unexpected NUL byte"
/-- Text was expected and the bytes are not UTF-8. -/
def notUtf8 : SystemError := .worded .invalidData "stream did not contain valid UTF-8"

end SystemError
end LineShell
