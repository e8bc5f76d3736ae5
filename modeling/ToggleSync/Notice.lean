-- What a client tells the application that uses it.
import ToggleSync.Context
import ToggleSync.Failure
import ToggleSync.Mode

namespace ToggleSync

/-- The part of a client that an error comes from. -/
inductive ErrorKind
  | client
  | fileCache
  | togglesBackup
  | togglesUpdate
  deriving DecidableEq, Repr

def ErrorKind.name : ErrorKind → String
  | .client => "client"
  | .fileCache => "file_cache"
  | .togglesBackup => "toggles_backup"
  | .togglesUpdate => "toggles_update"

inductive ImpressionKind
  | isEnabled
  | getVariant
  deriving DecidableEq, Repr

/-- That a toggle was asked for, by whom, and what was answered. -/
structure Impression where
  kind : ImpressionKind
  toggle : String
  enabled : Bool
  variant : Option String
  context : Context
  fingerprint : String
  deriving DecidableEq

inductive Notice
  | ready
  | updated
  | modeChanged (mode : Mode)
  | error (kind : ErrorKind) (failure : Failure)
  | impression (i : Impression)
  deriving DecidableEq

end ToggleSync
