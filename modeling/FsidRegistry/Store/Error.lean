import FsidRegistry.IoError

/-!
Errors of a store: what went wrong, its text, and three classifications. An error is *not found* if the
store simply has no such row, a *conflict* if the path already has an fsid, and *retryable* if the same
call may succeed later.
-/

namespace FsidRegistry

/-- An error that the database itself reported. -/
structure DatabaseFailure where
  text : String
  code : Option String
  /-- Whether a uniqueness constraint was violated. -/
  unique : Bool
deriving DecidableEq, Repr, Inhabited

/-- An error of the database driver. -/
inductive DriverError
  | rowNotFound
  | poolTimedOut
  | poolClosed
  | workerCrashed
  | protocol (text : String)
  | tls (text : String)
  | configuration (text : String)
  | columnNotFound (name : String)
  | typeNotFound (name : String)
  | decode (text : String)
  | columnDecode (column : Nat) (text : String)
  | encode (text : String)
  | io (error : IoError)
  | database (failure : DatabaseFailure)
  /-- Any other error, with the text of the error beneath it. -/
  | other (text : String) (cause : Option String)
deriving DecidableEq, Repr, Inhabited

namespace DriverError

/-- The text of a driver error. -/
def message : DriverError → String
  | .rowNotFound => "no rows returned by a query that expected to return at least one row"
  | .poolTimedOut => "pool timed out while waiting for an open connection"
  | .poolClosed => "attempted to acquire a connection on a closed pool"
  | .workerCrashed => "attempted to communicate with a crashed background worker"
  | .protocol text => "encountered unexpected or invalid data: " ++ text
  | .tls text => "error occurred while attempting to establish a TLS connection: " ++ text
  | .configuration text => "error with configuration: " ++ text
  | .columnNotFound name => "no column found for name: " ++ name
  | .typeNotFound name => "type named " ++ name ++ " not found"
  | .decode text => "error occurred while decoding: " ++ text
  | .columnDecode column text =>
    "error occurred while decoding column " ++ toString column ++ ": " ++ text
  | .encode text => "error occurred while encoding a value: " ++ text
  | .io error => "error communicating with database: " ++ error.message
  | .database failure => "error returned from database: " ++ failure.text
  | .other text _ => text

/-- The text of the error beneath a driver error. -/
def cause? : DriverError → Option String
  | .tls text | .configuration text | .decode text | .columnDecode _ text | .encode text => some text
  | .io error => some error.message
  | .database failure => some failure.text
  | .other _ cause => cause
  | _ => none

/-- The database codes of conditions that pass: lost connections, conflicts, transactions rolled
back, and resources that ran out. -/
def retryableCodes : List String :=
  ["08006", "08001", "08004", "08P01", "23505", "40000", "40002", "40001", "40003", "40P01", "53000",
    "53100", "53200", "53300", "5", "6", "7", "13", "261", "262", "517", "773", "2067"]

/-- Whether a database code stands for a condition that passes. -/
def isRetryableCode (code : String) : Bool := retryableCodes.contains code

/-- Whether the failed call may succeed when it is made again. -/
def isRetryable : DriverError → Bool
  | .io _ | .tls _ | .protocol _ | .poolTimedOut | .workerCrashed => true
  | .database failure => failure.unique || failure.code.any isRetryableCode
  | _ => false

end DriverError

/-- An error of a store. -/
inductive StoreError
  /-- The store has no such row. -/
  | notFound
  /-- The path already has an fsid. -/
  | conflict (path : String)
  /-- The store cannot be reached at the moment. -/
  | unavailable (text : String)
  /-- The store refuses for good. -/
  | other (text : String)
  /-- The database driver failed. -/
  | driver (error : DriverError)
deriving DecidableEq, Repr, Inhabited

namespace StoreError

/-- The text of a store error. -/
def message : StoreError → String
  | .notFound => "no rows in result set"
  | .conflict path => "duplicate key value violates unique constraint: " ++ path
  | .unavailable text => "store unavailable: " ++ text
  | .other text => text
  | .driver error => error.message

/-- The text of the error beneath a store error. -/
def cause? : StoreError → Option String
  | .driver error => error.cause?
  | _ => none

/-- Whether the store has no such row. -/
def isNotFound : StoreError → Bool
  | .notFound | .driver .rowNotFound => true
  | _ => false

/-- Whether the path already has an fsid. -/
def isConflict : StoreError → Bool
  | .conflict _ => true
  | .driver (.database failure) => failure.unique
  | _ => false

/-- Whether the failed call may succeed when it is made again. -/
def isRetryable : StoreError → Bool
  | .notFound | .other _ => false
  | .conflict _ | .unavailable _ => true
  | .driver error => error.isRetryable

end StoreError

end FsidRegistry
