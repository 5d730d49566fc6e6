/-!
Failures of files, processes and sockets.

The operating system names a failure by a number; the text of a number is the
customary one. A few failures are found before the system is asked: a name or
an argument that holds NUL, and a file that is read as text and is no UTF-8.
-/

set_option autoImplicit false

namespace BuildService

/-- The texts of the system's error numbers, from 0 on. The two numbers that have no text stand as
empty texts. -/
def systemTexts : List String := [
  "Success", "Operation not permitted", "No such file or directory", "No such process",
  "Interrupted system call", "Input/output error", "No such device or address",
  "Argument list too long", "Exec format error", "Bad file descriptor", "No child processes",
  "Resource temporarily unavailable", "Cannot allocate memory", "Permission denied",
  "Bad address", "Block device required", "Device or resource busy", "File exists",
  "Invalid cross-device link", "No such device", "Not a directory", "Is a directory",
  "Invalid argument", "Too many open files in system", "Too many open files",
  "Inappropriate ioctl for device", "Text file busy", "File too large",
  "No space left on device", "Illegal seek", "Read-only file system", "Too many links",
  "Broken pipe", "Numerical argument out of domain", "Numerical result out of range",
  "Resource deadlock avoided", "File name too long", "No locks available",
  "Function not implemented", "Directory not empty", "Too many levels of symbolic links", "",
  "No message of desired type", "Identifier removed", "Channel number out of range",
  "Level 2 not synchronized", "Level 3 halted", "Level 3 reset", "Link number out of range",
  "Protocol driver not attached", "No CSI structure available", "Level 2 halted",
  "Invalid exchange", "Invalid request descriptor", "Exchange full", "No anode",
  "Invalid request code", "Invalid slot", "", "Bad font file format", "Device not a stream",
  "No data available", "Timer expired", "Out of streams resources",
  "Machine is not on the network", "Package not installed", "Object is remote",
  "Link has been severed", "Advertise error", "Srmount error", "Communication error on send",
  "Protocol error", "Multihop attempted", "RFS specific error", "Bad message",
  "Value too large for defined data type", "Name not unique on network",
  "File descriptor in bad state", "Remote address changed",
  "Can not access a needed shared library", "Accessing a corrupted shared library",
  ".lib section in a.out corrupted", "Attempting to link in too many shared libraries",
  "Cannot exec a shared library directly", "Invalid or incomplete multibyte or wide character",
  "Interrupted system call should be restarted", "Streams pipe error", "Too many users",
  "Socket operation on non-socket", "Destination address required", "Message too long",
  "Protocol wrong type for socket", "Protocol not available", "Protocol not supported",
  "Socket type not supported", "Operation not supported", "Protocol family not supported",
  "Address family not supported by protocol", "Address already in use",
  "Cannot assign requested address", "Network is down", "Network is unreachable",
  "Network dropped connection on reset", "Software caused connection abort",
  "Connection reset by peer", "No buffer space available",
  "Transport endpoint is already connected", "Transport endpoint is not connected",
  "Cannot send after transport endpoint shutdown", "Too many references: cannot splice",
  "Connection timed out", "Connection refused", "Host is down", "No route to host",
  "Operation already in progress", "Operation now in progress", "Stale file handle",
  "Structure needs cleaning", "Not a XENIX named type file", "No XENIX semaphores available",
  "Is a named type file", "Remote I/O error", "Disk quota exceeded", "No medium found",
  "Wrong medium type", "Operation canceled", "Required key not available", "Key has expired",
  "Key has been revoked", "Key was rejected by service", "Owner died", "State not recoverable",
  "Operation not possible due to RF-kill", "Memory page has hardware error"]

/-- A failed operation on a file, a process or a socket. -/
inductive IoFault where
  /-- The system reported this error number. -/
  | system (number : Int)
  /-- A file name holds NUL. -/
  | nulInName
  /-- A program, an argument or a variable of a command holds NUL. -/
  | nulInCommand
  /-- A file that is read as text is no UTF-8. -/
  | notText
  deriving DecidableEq, Repr

namespace IoFault

/-- No such file or directory. -/
def notFound : IoFault := .system 2
/-- The file is no program. -/
def execFormat : IoFault := .system 8
/-- The program is there but may not be run, or the address may not be used. -/
def permissionDenied : IoFault := .system 13
/-- A directory is called for and something else is there. -/
def fileExists : IoFault := .system 17
/-- A name in front of a slash is no directory. -/
def notADirectory : IoFault := .system 20
/-- A directory where a file is called for. -/
def isADirectory : IoFault := .system 21
/-- The device is full. -/
def noSpace : IoFault := .system 28
/-- A name has more than 255 bytes. -/
def nameTooLong : IoFault := .system 36
/-- The machine has no such address. -/
def addressNotAvailable : IoFault := .system 99
/-- Links lead to links without an end. -/
def tooManyLinks : IoFault := .system 40

def systemText (number : Int) : String :=
  let known := if number < 0 then "" else (systemTexts[number.toNat]?).getD ""
  if known.isEmpty then "Unknown error " ++ toString number else known

def message : IoFault → String
  | .system n => systemText n ++ " (os error " ++ toString n ++ ")"
  | .nulInName => "file name contained an unexpected NUL byte"
  | .nulInCommand => "nul byte found in provided data"
  | .notText => "stream did not contain valid UTF-8"

end IoFault

end BuildService
