import FipsAudit.Text.Number
import FipsAudit.Text.Pieces

/-!
# `FipsAudit.FileSystem.Refusal` — why the system refuses

The system gives the reason of a refused operation as a number, for which it has a wording.

* `systemText` — the wording of a number.
* `IoError` — a refusal by the system, or by a rule that is checked before the system is asked.
-/

namespace FipsAudit

open Text

/-- The wordings of the numbers from zero on, one a line; an empty line stands for a number without wording. -/
def systemTexts : String := "Success
Operation not permitted
No such file or directory
No such process
Interrupted system call
Input/output error
No such device or address
Argument list too long
Exec format error
Bad file descriptor
No child processes
Resource temporarily unavailable
Cannot allocate memory
Permission denied
Bad address
Block device required
Device or resource busy
File exists
Invalid cross-device link
No such device
Not a directory
Is a directory
Invalid argument
Too many open files in system
Too many open files
Inappropriate ioctl for device
Text file busy
File too large
No space left on device
Illegal seek
Read-only file system
Too many links
Broken pipe
Numerical argument out of domain
Numerical result out of range
Resource deadlock avoided
File name too long
No locks available
Function not implemented
Directory not empty
Too many levels of symbolic links

No message of desired type
Identifier removed
Channel number out of range
Level 2 not synchronized
Level 3 halted
Level 3 reset
Link number out of range
Protocol driver not attached
No CSI structure available
Level 2 halted
Invalid exchange
Invalid request descriptor
Exchange full
No anode
Invalid request code
Invalid slot

Bad font file format
Device not a stream
No data available
Timer expired
Out of streams resources
Machine is not on the network
Package not installed
Object is remote
Link has been severed
Advertise error
Srmount error
Communication error on send
Protocol error
Multihop attempted
RFS specific error
Bad message
Value too large for defined data type
Name not unique on network
File descriptor in bad state
Remote address changed
Can not access a needed shared library
Accessing a corrupted shared library
.lib section in a.out corrupted
Attempting to link in too many shared libraries
Cannot exec a shared library directly
Invalid or incomplete multibyte or wide character
Interrupted system call should be restarted
Streams pipe error
Too many users
Socket operation on non-socket
Destination address required
Message too long
Protocol wrong type for socket
Protocol not available
Protocol not supported
Socket type not supported
Operation not supported
Protocol family not supported
Address family not supported by protocol
Address already in use
Cannot assign requested address
Network is down
Network is unreachable
Network dropped connection on reset
Software caused connection abort
Connection reset by peer
No buffer space available
Transport endpoint is already connected
Transport endpoint is not connected
Cannot send after transport endpoint shutdown
Too many references: cannot splice
Connection timed out
Connection refused
Host is down
No route to host
Operation already in progress
Operation now in progress
Stale file handle
Structure needs cleaning
Not a XENIX named type file
No XENIX semaphores available
Is a named type file
Remote I/O error
Disk quota exceeded
No medium found
Wrong medium type
Operation canceled
Required key not available
Key has expired
Key has been revoked
Key was rejected by service
Owner died
State not recoverable
Operation not possible due to RF-kill
Memory page has hardware error"

/-- The system's wording of a number. -/
def systemText (code : Nat) : String :=
  match (pieces '\n' systemTexts.toList)[code]? with
  | some (c :: cs) => String.ofList (c :: cs)
  | _ => s!"Unknown error {String.ofList (decimal code)}"

/-- Why an operation on files or programs is refused. -/
inductive IoError where
  /-- The system refuses, with this number. -/
  | system (code : Nat)
  /-- A zero byte in a file name. -/
  | zeroInName
  /-- A zero byte in an argument. -/
  | zeroInArgument
  /-- Content that is not text where text is needed. -/
  | notText
deriving DecidableEq, Repr

namespace IoError

/-- Nothing has this name. -/
@[match_pattern] abbrev notFound : IoError := .system 2

/-- The file is no program for this machine. -/
@[match_pattern] abbrev execFormat : IoError := .system 8

/-- There is no such child process. -/
@[match_pattern] abbrev noChild : IoError := .system 10

/-- The operation is not allowed. -/
@[match_pattern] abbrev permissionDenied : IoError := .system 13

/-- A directory is needed. -/
@[match_pattern] abbrev notDirectory : IoError := .system 20

/-- A directory will not do. -/
@[match_pattern] abbrev isDirectory : IoError := .system 21

/-- A name longer than the system's limit. -/
@[match_pattern] abbrev nameTooLong : IoError := .system 36

/-- Too many symbolic links on the way. -/
@[match_pattern] abbrev tooManyLinks : IoError := .system 40

/-- The wording of a refusal. -/
def message : IoError → String
  | .system code => s!"{systemText code} (os error {String.ofList (decimal code)})"
  | .zeroInName => "file name contained an unexpected NUL byte"
  | .zeroInArgument => "nul byte found in provided data"
  | .notText => "stream did not contain valid UTF-8"

end IoError

end FipsAudit
