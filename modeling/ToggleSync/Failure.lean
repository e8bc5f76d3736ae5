-- Everything that can go wrong in a client, and how it is told.
import ToggleSync.State

namespace ToggleSync

/-- The kinds of failure of a file system. -/
inductive IoKind
  | notFound
  | permissionDenied
  | invalidData
  | invalidFilename
  | invalidInput
  | isADirectory
  | notADirectory
  | directoryNotEmpty
  | alreadyExists
  | resourceBusy
  | timedOut
  | interrupted
  | unexpectedEnd
  | storageFull
  | wouldBlock
  | writeZero
  | brokenPipe
  | connectionRefused
  | connectionReset
  | other
  deriving DecidableEq, Repr

def IoKind.all : List IoKind :=
  [.notFound, .permissionDenied, .invalidData, .invalidFilename, .invalidInput, .isADirectory,
    .notADirectory, .directoryNotEmpty, .alreadyExists, .resourceBusy, .timedOut, .interrupted,
    .unexpectedEnd, .storageFull, .wouldBlock, .writeZero, .brokenPipe, .connectionRefused,
    .connectionReset, .other]

def IoKind.name : IoKind → String
  | .notFound => "NotFound"
  | .permissionDenied => "PermissionDenied"
  | .invalidData => "InvalidData"
  | .invalidFilename => "InvalidFilename"
  | .invalidInput => "InvalidInput"
  | .isADirectory => "IsADirectory"
  | .notADirectory => "NotADirectory"
  | .directoryNotEmpty => "DirectoryNotEmpty"
  | .alreadyExists => "AlreadyExists"
  | .resourceBusy => "ResourceBusy"
  | .timedOut => "TimedOut"
  | .interrupted => "Interrupted"
  | .unexpectedEnd => "UnexpectedEof"
  | .storageFull => "StorageFull"
  | .wouldBlock => "WouldBlock"
  | .writeZero => "WriteZero"
  | .brokenPipe => "BrokenPipe"
  | .connectionRefused => "ConnectionRefused"
  | .connectionReset => "ConnectionReset"
  | .other => "Other"

def IoKind.ofName (name : String) : IoKind := (IoKind.all.find? (·.name == name)).getD .other

/-- A failure of a file system, with its text. -/
structure IoFailure where
  kind : IoKind
  text : String
  deriving DecidableEq, Repr

/-- A file that is not there, or may not be read, counts as missing. -/
def IoFailure.isMissing (f : IoFailure) : Bool :=
  f.kind == .notFound || f.kind == .permissionDenied

inductive Failure
  | invalidSettings (reason : String)
  | invalidUrl (reason : String)
  /-- A request that got no answer. -/
  | requestFailed
  | serverError (status : Nat) (text : String)
  | stream (reason : String)
  | state (error : StateError)
  | io (failure : IoFailure)
  | serialization (report : Json.Report)
  | taskShutdownTimeout (task : String)
  | unknownTask (task : String)
  | cancelled
  | clientClosed
  /-- A failure that an error event has told already. -/
  | reported (inner : Failure)
  deriving DecidableEq, Repr

instance : Inhabited Failure := ⟨.cancelled⟩

namespace Failure

/-- The name of a kind of failure. -/
def kind : Failure → String
  | .invalidSettings _ => "InvalidSettings"
  | .invalidUrl _ => "InvalidUrl"
  | .requestFailed => "RequestFailed"
  | .serverError _ _ => "ServerError"
  | .stream _ => "Stream"
  | .state _ => "State"
  | .io _ => "Io"
  | .serialization _ => "Serialization"
  | .taskShutdownTimeout _ => "TaskShutdownTimeout"
  | .unknownTask _ => "UnknownTask"
  | .cancelled => "Cancelled"
  | .clientClosed => "ClientClosed"
  | .reported _ => "Reported"

def message : Failure → String
  | .invalidSettings reason => "invalid settings: " ++ reason
  | .invalidUrl reason => "invalid API URL: " ++ reason
  | .requestFailed => "HTTP request failed"
  | .serverError status text => s!"server error (status {status}): {text}"
  | .stream reason => "stream error: " ++ reason
  | .state error => error.message
  | .io failure => "I/O error: " ++ failure.text
  | .serialization report => "serialization error: " ++ report.message
  | .taskShutdownTimeout task => "timed out waiting for task '" ++ task ++ "' to stop"
  | .unknownTask task => "task '" ++ task ++ "' is not configured"
  | .cancelled => "operation cancelled"
  | .clientClosed => "flags client has been closed"
  | .reported inner => inner.message

/-- The status of the answer that was refused, where there was one. -/
def status? : Failure → Option Nat
  | .serverError status _ => some status
  | .reported inner => inner.status?
  | _ => none

end Failure

end ToggleSync
