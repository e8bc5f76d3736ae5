-- Who a client is to its server.
import ToggleSync.Settings

namespace ToggleSync

def clientName : String := "loom-flags-rust"

def clientVersion : String := "0.1.0"

/-- How the kind of a client is told, to servers and in the names of backups. -/
def clientLabel : String := clientName ++ ":" ++ clientVersion

structure Identity where
  appName : String
  instanceId : String
  /-- Drawn anew for each client. -/
  connectionId : String
  sdkVersion : String
  deriving DecidableEq, Repr

def Settings.identity (s : Settings) (connectionId : String) : Identity :=
  ⟨s.appName, s.instanceTag, connectionId, clientLabel⟩

end ToggleSync
