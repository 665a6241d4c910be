/-
Error numbers of system calls: their texts and their kinds.
-/
set_option autoImplicit false

namespace LinkTap

/-- The number with which a system call fails. -/
structure Errno where
  code : Nat
  deriving DecidableEq, Repr

namespace Errno

/-- Not permitted for this caller. -/
def notPermitted : Errno := ⟨1⟩

/-- Interrupted by a signal. -/
def interrupted : Errno := ⟨4⟩

/-- Permission denied. -/
def accessDenied : Errno := ⟨13⟩

/-- What each number means. -/
def description (e : Errno) : String :=
  match e.code with
  | 1 => "Operation not permitted"
  | 2 => "No such file or directory"
  | 4 => "Interrupted system call"
  | 9 => "Bad file descriptor"
  | 11 => "Resource temporarily unavailable"
  | 12 => "Cannot allocate memory"
  | 13 => "Permission denied"
  | 19 => "No such device"
  | 22 => "Invalid argument"
  | 92 => "Protocol not available"
  | 93 => "Protocol not supported"
  | 97 => "Address family not supported by protocol"
  | 100 => "Network is down"
  | 105 => "No buffer space available"
  | code => s!"Unknown error {code}"

/-- The text shown to a user. -/
def message (e : Errno) : String := s!"{e.description} (os error {e.code})"

/-- Whether the caller lacks a permission. -/
def isPermission (e : Errno) : Bool := e == notPermitted || e == accessDenied

end Errno

/-- The kinds of failure that a caller may want to tell apart. -/
inductive FailureKind where
  | notFound
  | permissionDenied
  | interrupted
  | invalidInput
  | outOfMemory
  | networkDown
  | wouldBlock
  | notConnected
  | uncategorized
  deriving DecidableEq, Repr

/-- The kind of a failed system call. -/
def Errno.kind (e : Errno) : FailureKind :=
  match e.code with
  | 1 | 13 => .permissionDenied
  | 2 => .notFound
  | 4 => .interrupted
  | 11 => .wouldBlock
  | 12 => .outOfMemory
  | 22 => .invalidInput
  | 100 => .networkDown
  | _ => .uncategorized

namespace FailureKind

def text : FailureKind → String
  | notFound => "NotFound"
  | permissionDenied => "PermissionDenied"
  | interrupted => "Interrupted"
  | invalidInput => "InvalidInput"
  | outOfMemory => "OutOfMemory"
  | networkDown => "NetworkDown"
  | wouldBlock => "WouldBlock"
  | notConnected => "NotConnected"
  | uncategorized => "Uncategorized"

end FailureKind

end LinkTap
