/-!
# Status of a call

* `Code` — how a call ended.
* `Code.number`, `Code.ofNumber` — its number; a number that stands for no code is an unknown one.
* `Status` — a code with a message for people.
-/

namespace StandIn.Grpc

/-- How a call ended, in the order of the numbers. -/
inductive Code where
  | ok | cancelled | unknown | invalidArgument | deadlineExceeded | notFound | alreadyExists
  | permissionDenied | resourceExhausted | failedPrecondition | aborted | outOfRange
  | unimplemented | internal | unavailable | dataLoss | unauthenticated
  deriving DecidableEq, Repr

namespace Code

/-- All codes, each at the place that its number tells. -/
def all : List Code :=
  [ok, cancelled, unknown, invalidArgument, deadlineExceeded, notFound, alreadyExists,
    permissionDenied, resourceExhausted, failedPrecondition, aborted, outOfRange,
    unimplemented, internal, unavailable, dataLoss, unauthenticated]

/-- The number of a code. -/
def number (c : Code) : Nat := all.idxOf c

/-- The code of a number. -/
def ofNumber (n : Nat) : Code := all[n]?.getD unknown

/-- The name of a code. -/
def name : Code → String
  | ok => "Ok"
  | cancelled => "Cancelled"
  | unknown => "Unknown"
  | invalidArgument => "InvalidArgument"
  | deadlineExceeded => "DeadlineExceeded"
  | notFound => "NotFound"
  | alreadyExists => "AlreadyExists"
  | permissionDenied => "PermissionDenied"
  | resourceExhausted => "ResourceExhausted"
  | failedPrecondition => "FailedPrecondition"
  | aborted => "Aborted"
  | outOfRange => "OutOfRange"
  | unimplemented => "Unimplemented"
  | internal => "Internal"
  | unavailable => "Unavailable"
  | dataLoss => "DataLoss"
  | unauthenticated => "Unauthenticated"

end Code

/-- How a call ended, and why. -/
structure Status where
  code : Code
  message : String := ""
  deriving DecidableEq, Repr

end StandIn.Grpc
