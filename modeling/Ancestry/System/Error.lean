/-!
# Errors of the system

The refusals of a system call that can be met here, with their numbers and texts, and
beside them what goes wrong without a refusal: a path that no call could take, bytes that
are no text, a write that was cut short, and more to read than there is room for.
-/
namespace Ancestry

inductive SystemError
  | notPermitted
  | notFound
  | interrupted
  | noSuchDevice
  | tryAgain
  | permissionDenied
  | busy
  | alreadyExists
  | notDirectory
  | isDirectory
  | invalidArgument
  | tooManyOpenFiles
  | fileTooLarge
  | noSpace
  | readOnly
  | brokenPipe
  | nameTooLong
  | notImplemented
  | notEmpty
  | linkLoop
  | addressInUse
  | connectionReset
  | connectionRefused
  deriving Repr, DecidableEq

namespace SystemError

def number : SystemError → Nat
  | notPermitted => 1
  | notFound => 2
  | interrupted => 4
  | noSuchDevice => 6
  | tryAgain => 11
  | permissionDenied => 13
  | busy => 16
  | alreadyExists => 17
  | notDirectory => 20
  | isDirectory => 21
  | invalidArgument => 22
  | tooManyOpenFiles => 24
  | fileTooLarge => 27
  | noSpace => 28
  | readOnly => 30
  | brokenPipe => 32
  | nameTooLong => 36
  | notImplemented => 38
  | notEmpty => 39
  | linkLoop => 40
  | addressInUse => 98
  | connectionReset => 104
  | connectionRefused => 111

/-- The value left in errno. -/
def errno (e : SystemError) : Int32 := Int32.ofNat e.number

def text : SystemError → String
  | notPermitted => "Operation not permitted"
  | notFound => "No such file or directory"
  | interrupted => "Interrupted system call"
  | noSuchDevice => "No such device or address"
  | tryAgain => "Resource temporarily unavailable"
  | permissionDenied => "Permission denied"
  | busy => "Device or resource busy"
  | alreadyExists => "File exists"
  | notDirectory => "Not a directory"
  | isDirectory => "Is a directory"
  | invalidArgument => "Invalid argument"
  | tooManyOpenFiles => "Too many open files"
  | fileTooLarge => "File too large"
  | noSpace => "No space left on device"
  | readOnly => "Read-only file system"
  | brokenPipe => "Broken pipe"
  | nameTooLong => "File name too long"
  | notImplemented => "Function not implemented"
  | notEmpty => "Directory not empty"
  | linkLoop => "Too many levels of symbolic links"
  | addressInUse => "Address already in use"
  | connectionReset => "Connection reset by peer"
  | connectionRefused => "Connection refused"

end SystemError

/-- Why reading, writing, connecting or binding failed. -/
inductive IoError
  | system (e : SystemError)
  | nulInPath
  | nulInSocketPath
  | socketPathTooLong
  | malformedText
  | shortWrite
  | outOfMemory
  deriving Repr, DecidableEq

namespace IoError

def message : IoError → String
  | system e => s!"{e.text} (os error {e.number})"
  | nulInPath => "file name contained an unexpected NUL byte"
  | nulInSocketPath => "paths must not contain interior null bytes"
  | socketPathTooLong => "path must be shorter than SUN_LEN"
  | malformedText => "stream did not contain valid UTF-8"
  | shortWrite => "write zero"
  | outOfMemory => "out of memory"

/-- What errno holds after the failure: a call that was made leaves its number. -/
def errnoAfter (e : IoError) (before : Int32) : Int32 :=
  match e with
  | system e => e.errno
  | _ => before

end IoError
end Ancestry
