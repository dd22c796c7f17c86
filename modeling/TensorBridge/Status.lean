/-!
# Status codes

The native runtime reports failures by status words.  The word zero means success; the lowest five
bits of any other word are its code.
-/

namespace TensorBridge

/-- The codes that a status can carry. -/
inductive StatusCode where
  /-- Not a failure. -/
  | ok
  /-- The operation was cancelled. -/
  | cancelled
  /-- A failure without a code of its own, or with one that has no meaning here. -/
  | unknown
  /-- An argument was refused. -/
  | invalidArgument
  /-- The time allowed has passed. -/
  | deadlineExceeded
  /-- Something asked for is not there. -/
  | notFound
  /-- Something to be made is there already. -/
  | alreadyExists
  /-- The caller lacks a right. -/
  | permissionDenied
  /-- A resource is used up. -/
  | resourceExhausted
  /-- The state does not allow the operation. -/
  | failedPrecondition
  /-- The operation was aborted. -/
  | aborted
  /-- A position lies outside. -/
  | outOfRange
  /-- The operation does not exist. -/
  | unimplemented
  /-- An invariant is broken. -/
  | internal
  /-- A service is not reachable. -/
  | unavailable
  /-- Data are lost. -/
  | dataLoss
  /-- The caller is not known. -/
  | unauthenticated
  /-- The operation waits. -/
  | deferred
deriving DecidableEq, Repr

namespace StatusCode

/-- The code that a number stands for; a number without a meaning stands for `unknown`. -/
def ofRaw : Nat → StatusCode
  | 0 => ok
  | 1 => cancelled
  | 3 => invalidArgument
  | 4 => deadlineExceeded
  | 5 => notFound
  | 6 => alreadyExists
  | 7 => permissionDenied
  | 8 => resourceExhausted
  | 9 => failedPrecondition
  | 10 => aborted
  | 11 => outOfRange
  | 12 => unimplemented
  | 13 => internal
  | 14 => unavailable
  | 15 => dataLoss
  | 16 => unauthenticated
  | 17 => deferred
  | _ => unknown

/-- The code of a status word. -/
def ofWord (word : UInt64) : StatusCode := ofRaw (word.toNat % 32)

/-- The name under which the native runtime writes the code. -/
def name : StatusCode → String
  | ok => "OK"
  | cancelled => "CANCELLED"
  | unknown => "UNKNOWN"
  | invalidArgument => "INVALID_ARGUMENT"
  | deadlineExceeded => "DEADLINE_EXCEEDED"
  | notFound => "NOT_FOUND"
  | alreadyExists => "ALREADY_EXISTS"
  | permissionDenied => "PERMISSION_DENIED"
  | resourceExhausted => "RESOURCE_EXHAUSTED"
  | failedPrecondition => "FAILED_PRECONDITION"
  | aborted => "ABORTED"
  | outOfRange => "OUT_OF_RANGE"
  | unimplemented => "UNIMPLEMENTED"
  | internal => "INTERNAL"
  | unavailable => "UNAVAILABLE"
  | dataLoss => "DATA_LOSS"
  | unauthenticated => "UNAUTHENTICATED"
  | deferred => "DEFERRED"

end StatusCode

end TensorBridge
