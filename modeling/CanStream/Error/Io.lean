/-!
# Failures of system calls

A call to the kernel fails with an error number; a failure that is found without asking the kernel
has a kind and perhaps a text of its own. Every error number belongs to a kind.
-/

namespace CanStream

/-- What sort of failure a call met. -/
inductive IoKind
  | notFound
  | permissionDenied
  | connectionRefused
  | connectionReset
  | connectionAborted
  | hostUnreachable
  | networkUnreachable
  | notConnected
  | addrInUse
  | addrNotAvailable
  | networkDown
  | brokenPipe
  | alreadyExists
  | wouldBlock
  | notADirectory
  | isADirectory
  | directoryNotEmpty
  | readOnlyFilesystem
  | filesystemLoop
  | staleNetworkFileHandle
  | invalidInput
  | invalidData
  | timedOut
  | writeZero
  | storageFull
  | notSeekable
  | quotaExceeded
  | fileTooLarge
  | resourceBusy
  | executableFileBusy
  | deadlock
  | crossesDevices
  | tooManyLinks
  | invalidFilename
  | argumentListTooLong
  | interrupted
  | unsupported
  | unexpectedEof
  | outOfMemory
  | tooManyOpenFiles
  | inProgress
  | inputOutputError
  | other
  | uncategorized
  deriving DecidableEq, Repr

namespace IoKind

/-- The name of the kind and its wording when nothing more is known. -/
def labels : IoKind → String × String
  | notFound => ("NotFound", "entity not found")
  | permissionDenied => ("PermissionDenied", "permission denied")
  | connectionRefused => ("ConnectionRefused", "connection refused")
  | connectionReset => ("ConnectionReset", "connection reset")
  | connectionAborted => ("ConnectionAborted", "connection aborted")
  | hostUnreachable => ("HostUnreachable", "host unreachable")
  | networkUnreachable => ("NetworkUnreachable", "network unreachable")
  | notConnected => ("NotConnected", "not connected")
  | addrInUse => ("AddrInUse", "address in use")
  | addrNotAvailable => ("AddrNotAvailable", "address not available")
  | networkDown => ("NetworkDown", "network down")
  | brokenPipe => ("BrokenPipe", "broken pipe")
  | alreadyExists => ("AlreadyExists", "entity already exists")
  | wouldBlock => ("WouldBlock", "operation would block")
  | notADirectory => ("NotADirectory", "not a directory")
  | isADirectory => ("IsADirectory", "is a directory")
  | directoryNotEmpty => ("DirectoryNotEmpty", "directory not empty")
  | readOnlyFilesystem => ("ReadOnlyFilesystem", "read-only filesystem or storage medium")
  | filesystemLoop => ("FilesystemLoop", "filesystem loop or indirection limit (e.g. symlink loop)")
  | staleNetworkFileHandle => ("StaleNetworkFileHandle", "stale network file handle")
  | invalidInput => ("InvalidInput", "invalid input parameter")
  | invalidData => ("InvalidData", "invalid data")
  | timedOut => ("TimedOut", "timed out")
  | writeZero => ("WriteZero", "write zero")
  | storageFull => ("StorageFull", "no storage space")
  | notSeekable => ("NotSeekable", "seek on unseekable file")
  | quotaExceeded => ("QuotaExceeded", "quota exceeded")
  | fileTooLarge => ("FileTooLarge", "file too large")
  | resourceBusy => ("ResourceBusy", "resource busy")
  | executableFileBusy => ("ExecutableFileBusy", "executable file busy")
  | deadlock => ("Deadlock", "deadlock")
  | crossesDevices => ("CrossesDevices", "cross-device link or rename")
  | tooManyLinks => ("TooManyLinks", "too many links")
  | invalidFilename => ("InvalidFilename", "invalid filename")
  | argumentListTooLong => ("ArgumentListTooLong", "argument list too long")
  | interrupted => ("Interrupted", "operation interrupted")
  | unsupported => ("Unsupported", "unsupported")
  | unexpectedEof => ("UnexpectedEof", "unexpected end of file")
  | outOfMemory => ("OutOfMemory", "out of memory")
  | tooManyOpenFiles => ("TooManyOpenFiles", "too many open files")
  | inProgress => ("InProgress", "in progress")
  | inputOutputError => ("InputOutputError", "input/output error")
  | other => ("Other", "other error")
  | uncategorized => ("Uncategorized", "uncategorized error")

def name (k : IoKind) : String := k.labels.1

/-- The wording of the kind when nothing more is known. -/
def description (k : IoKind) : String := k.labels.2

def all : List IoKind :=
  [notFound, permissionDenied, connectionRefused, connectionReset, connectionAborted,
    hostUnreachable, networkUnreachable, notConnected, addrInUse, addrNotAvailable, networkDown,
    brokenPipe, alreadyExists, wouldBlock, notADirectory, isADirectory, directoryNotEmpty,
    readOnlyFilesystem, filesystemLoop, staleNetworkFileHandle, invalidInput, invalidData, timedOut,
    writeZero, storageFull, notSeekable, quotaExceeded, fileTooLarge, resourceBusy,
    executableFileBusy, deadlock, crossesDevices, tooManyLinks, invalidFilename,
    argumentListTooLong, interrupted, unsupported, unexpectedEof, outOfMemory, tooManyOpenFiles,
    inProgress, inputOutputError, other, uncategorized]

def ofName? (s : String) : Option IoKind := all.find? (·.name == s)

end IoKind

namespace Errno

def noDevice : Int := 19

def accessDenied : Int := 13

def badDescriptor : Int := 9

def again : Int := 11

def inProgress : Int := 115

def noBuffers : Int := 105

def protocolUnsupported : Int := 93

/-- The kind of failure an error number stands for. -/
def kind : Int → IoKind
  | 1 | 13 => .permissionDenied
  | 2 => .notFound
  | 4 => .interrupted
  | 5 => .inputOutputError
  | 7 => .argumentListTooLong
  | 11 => .wouldBlock
  | 12 => .outOfMemory
  | 16 => .resourceBusy
  | 17 => .alreadyExists
  | 18 => .crossesDevices
  | 20 => .notADirectory
  | 21 => .isADirectory
  | 22 => .invalidInput
  | 23 | 24 => .tooManyOpenFiles
  | 26 => .executableFileBusy
  | 27 => .fileTooLarge
  | 28 => .storageFull
  | 29 => .notSeekable
  | 30 => .readOnlyFilesystem
  | 31 => .tooManyLinks
  | 32 => .brokenPipe
  | 35 => .deadlock
  | 36 => .invalidFilename
  | 38 | 95 => .unsupported
  | 39 => .directoryNotEmpty
  | 40 => .filesystemLoop
  | 98 => .addrInUse
  | 99 => .addrNotAvailable
  | 100 => .networkDown
  | 101 => .networkUnreachable
  | 103 => .connectionAborted
  | 104 => .connectionReset
  | 107 => .notConnected
  | 110 => .timedOut
  | 111 => .connectionRefused
  | 113 => .hostUnreachable
  | 115 => .inProgress
  | 116 => .staleNetworkFileHandle
  | 122 => .quotaExceeded
  | _ => .uncategorized

/-- The system's texts of the error numbers. -/
def texts : List (Int × String) :=
  [(0, "Success"), (1, "Operation not permitted"), (2, "No such file or directory"),
    (3, "No such process"), (4, "Interrupted system call"), (5, "Input/output error"),
    (6, "No such device or address"), (7, "Argument list too long"), (8, "Exec format error"),
    (9, "Bad file descriptor"), (10, "No child processes"),
    (11, "Resource temporarily unavailable"), (12, "Cannot allocate memory"),
    (13, "Permission denied"), (14, "Bad address"), (15, "Block device required"),
    (16, "Device or resource busy"), (17, "File exists"), (18, "Invalid cross-device link"),
    (19, "No such device"), (20, "Not a directory"), (21, "Is a directory"),
    (22, "Invalid argument"), (23, "Too many open files in system"), (24, "Too many open files"),
    (25, "Inappropriate ioctl for device"), (26, "Text file busy"), (27, "File too large"),
    (28, "No space left on device"), (29, "Illegal seek"), (30, "Read-only file system"),
    (31, "Too many links"), (32, "Broken pipe"), (33, "Numerical argument out of domain"),
    (34, "Numerical result out of range"), (35, "Resource deadlock avoided"),
    (36, "File name too long"), (37, "No locks available"), (38, "Function not implemented"),
    (39, "Directory not empty"), (40, "Too many levels of symbolic links"),
    (42, "No message of desired type"), (43, "Identifier removed"),
    (44, "Channel number out of range"), (45, "Level 2 not synchronized"), (46, "Level 3 halted"),
    (47, "Level 3 reset"), (48, "Link number out of range"), (49, "Protocol driver not attached"),
    (50, "No CSI structure available"), (51, "Level 2 halted"), (52, "Invalid exchange"),
    (53, "Invalid request descriptor"), (54, "Exchange full"), (55, "No anode"),
    (56, "Invalid request code"), (57, "Invalid slot"), (59, "Bad font file format"),
    (60, "Device not a stream"), (61, "No data available"), (62, "Timer expired"),
    (63, "Out of streams resources"), (64, "Machine is not on the network"),
    (65, "Package not installed"), (66, "Object is remote"), (67, "Link has been severed"),
    (68, "Advertise error"), (69, "Srmount error"), (70, "Communication error on send"),
    (71, "Protocol error"), (72, "Multihop attempted"), (73, "RFS specific error"),
    (74, "Bad message"), (75, "Value too large for defined data type"),
    (76, "Name not unique on network"), (77, "File descriptor in bad state"),
    (78, "Remote address changed"), (79, "Can not access a needed shared library"),
    (80, "Accessing a corrupted shared library"), (81, ".lib section in a.out corrupted"),
    (82, "Attempting to link in too many shared libraries"),
    (83, "Cannot exec a shared library directly"),
    (84, "Invalid or incomplete multibyte or wide character"),
    (85, "Interrupted system call should be restarted"), (86, "Streams pipe error"),
    (87, "Too many users"), (88, "Socket operation on non-socket"),
    (89, "Destination address required"), (90, "Message too long"),
    (91, "Protocol wrong type for socket"), (92, "Protocol not available"),
    (93, "Protocol not supported"), (94, "Socket type not supported"),
    (95, "Operation not supported"), (96, "Protocol family not supported"),
    (97, "Address family not supported by protocol"), (98, "Address already in use"),
    (99, "Cannot assign requested address"), (100, "Network is down"),
    (101, "Network is unreachable"), (102, "Network dropped connection on reset"),
    (103, "Software caused connection abort"), (104, "Connection reset by peer"),
    (105, "No buffer space available"), (106, "Transport endpoint is already connected"),
    (107, "Transport endpoint is not connected"),
    (108, "Cannot send after transport endpoint shutdown"),
    (109, "Too many references: cannot splice"), (110, "Connection timed out"),
    (111, "Connection refused"), (112, "Host is down"), (113, "No route to host"),
    (114, "Operation already in progress"), (115, "Operation now in progress"),
    (116, "Stale file handle"), (117, "Structure needs cleaning"),
    (118, "Not a XENIX named type file"), (119, "No XENIX semaphores available"),
    (120, "Is a named type file"), (121, "Remote I/O error"), (122, "Disk quota exceeded"),
    (123, "No medium found"), (124, "Wrong medium type"), (125, "Operation canceled"),
    (126, "Required key not available"), (127, "Key has expired"), (128, "Key has been revoked"),
    (129, "Key was rejected by service"), (130, "Owner died"), (131, "State not recoverable"),
    (132, "Operation not possible due to RF-kill"), (133, "Memory page has hardware error")]

def text (code : Int) : String := (texts.lookup code).getD ("Unknown error " ++ toString code)

end Errno

/-- The failure of a call. -/
inductive IoError
  | os (code : Int)
  | plain (kind : IoKind)
  | worded (kind : IoKind) (text : String)
  deriving DecidableEq, Repr

namespace IoError

def kind : IoError → IoKind
  | os code => Errno.kind code
  | plain k => k
  | worded k _ => k

def errno? : IoError → Option Int
  | os code => some code
  | plain _ => none
  | worded _ _ => none

def message : IoError → String
  | os code => Errno.text code ++ " (os error " ++ toString code ++ ")"
  | plain k => k.description
  | worded _ text => text

/-- Whether the call only has to be made again later: it would block, or is still under way. -/
def shouldRetry (e : IoError) : Bool :=
  e.kind == .wouldBlock || e.errno? == some Errno.inProgress

/-- Whether the kernel cannot take what it is given right now. -/
def isBusy (e : IoError) : Bool := e.shouldRetry || e.errno? == some Errno.noBuffers

/-- The input ended before enough of it was read. -/
def shortInput : IoError := .worded .unexpectedEof "failed to fill whole buffer"

def shortOutput : IoError := .worded .writeZero "failed to write whole buffer"

end IoError

end CanStream
