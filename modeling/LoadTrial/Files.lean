/-
The files that a trial reads, seen as a value: each path leads nowhere, with the error with which the operating system
says so, or to something that is there. What is there may be read, or not: a file without permission is there for one
who asks whether it is, and refused to one who opens it.
-/
import LoadTrial.Text.Utf8
import LoadTrial.Number.Natural

namespace LoadTrial

/-- an error of the operating system, by its number -/
structure OsError where
  code : Int
  deriving DecidableEq, Repr

namespace OsError

def noSuchFile : OsError := ⟨2⟩
def permissionDenied : OsError := ⟨13⟩
def notADirectory : OsError := ⟨20⟩
def isADirectory : OsError := ⟨21⟩
def nameTooLong : OsError := ⟨36⟩

/-- the texts of the errors 1, 2, … -/
def texts : List String := [
  "Operation not permitted", "No such file or directory", "No such process", "Interrupted system call",
  "Input/output error", "No such device or address", "Argument list too long", "Exec format error",
  "Bad file descriptor", "No child processes", "Resource temporarily unavailable", "Cannot allocate memory",
  "Permission denied", "Bad address", "Block device required", "Device or resource busy", "File exists",
  "Invalid cross-device link", "No such device", "Not a directory", "Is a directory", "Invalid argument",
  "Too many open files in system", "Too many open files", "Inappropriate ioctl for device", "Text file busy",
  "File too large", "No space left on device", "Illegal seek", "Read-only file system", "Too many links",
  "Broken pipe", "Numerical argument out of domain", "Numerical result out of range", "Resource deadlock avoided",
  "File name too long", "No locks available", "Function not implemented", "Directory not empty",
  "Too many levels of symbolic links", "Unknown error 41", "No message of desired type", "Identifier removed",
  "Channel number out of range", "Level 2 not synchronized", "Level 3 halted", "Level 3 reset",
  "Link number out of range", "Protocol driver not attached", "No CSI structure available", "Level 2 halted",
  "Invalid exchange", "Invalid request descriptor", "Exchange full", "No anode", "Invalid request code",
  "Invalid slot", "Unknown error 58", "Bad font file format", "Device not a stream", "No data available",
  "Timer expired", "Out of streams resources", "Machine is not on the network", "Package not installed",
  "Object is remote", "Link has been severed", "Advertise error", "Srmount error", "Communication error on send",
  "Protocol error", "Multihop attempted", "RFS specific error", "Bad message",
  "Value too large for defined data type", "Name not unique on network", "File descriptor in bad state",
  "Remote address changed", "Can not access a needed shared library", "Accessing a corrupted shared library",
  ".lib section in a.out corrupted", "Attempting to link in too many shared libraries",
  "Cannot exec a shared library directly", "Invalid or incomplete multibyte or wide character",
  "Interrupted system call should be restarted", "Streams pipe error", "Too many users",
  "Socket operation on non-socket", "Destination address required", "Message too long",
  "Protocol wrong type for socket", "Protocol not available", "Protocol not supported", "Socket type not supported",
  "Operation not supported", "Protocol family not supported", "Address family not supported by protocol",
  "Address already in use", "Cannot assign requested address", "Network is down", "Network is unreachable",
  "Network dropped connection on reset", "Software caused connection abort", "Connection reset by peer",
  "No buffer space available", "Transport endpoint is already connected", "Transport endpoint is not connected",
  "Cannot send after transport endpoint shutdown", "Too many references: cannot splice", "Connection timed out",
  "Connection refused", "Host is down", "No route to host", "Operation already in progress",
  "Operation now in progress", "Stale file handle", "Structure needs cleaning", "Not a XENIX named type file",
  "No XENIX semaphores available", "Is a named type file", "Remote I/O error", "Disk quota exceeded",
  "No medium found", "Wrong medium type", "Operation canceled", "Required key not available", "Key has expired",
  "Key has been revoked", "Key was rejected by service", "Owner died", "State not recoverable",
  "Operation not possible due to RF-kill", "Memory page has hardware error"]

def message (e : OsError) : String :=
  let text := if e.code == 0 then "Success"
    else ((texts[e.code.toNat - 1]?).filter fun _ => 0 < e.code).getD
      ("Unknown error " ++ Number.signedDecimal e.code)
  text ++ " (os error " ++ Number.signedDecimal e.code ++ ")"

end OsError

/-- why a file is not read -/
inductive ReadError where
  | os (error : OsError)
  /-- no path holds the character NUL -/
  | nulInPath
  deriving DecidableEq, Repr

def ReadError.message : ReadError → String
  | .os e => e.message
  | .nulInPath => "file name contained an unexpected NUL byte"

/-- what stands at a place of a directory tree -/
inductive Entry where
  | file (content : Bytes)
  | directory
  /-- something else that is there: it cannot be opened, or not be read from its start, and this is the error -/
  | unreadable (error : OsError)
  deriving DecidableEq

/-- a file system, as seen from one working directory -/
structure Files where
  /-- what a path leads to -/
  find : String → Except OsError Entry

namespace Files

/-- reads a file -/
def read (files : Files) (path : String) : Except ReadError Bytes :=
  if path.toList.contains '\x00' then .error .nulInPath
  else match files.find path with
    | .ok (.file content) => .ok content
    | .ok .directory => .error (.os .isADirectory)
    | .ok (.unreadable e) => .error (.os e)
    | .error e => .error (.os e)

/-- something stands at a path, whether or not it can be read -/
def contains (files : Files) (path : String) : Bool :=
  !path.toList.contains '\x00' && (files.find path).isOk

end Files

end LoadTrial
