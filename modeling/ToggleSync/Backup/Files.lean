-- Backups in the files of a file system.
import ToggleSync.Backup.Store
import ToggleSync.Volume.Replacement

namespace ToggleSync

/-- How the system words a failure. -/
def IoKind.wording : IoKind → String
  | .notFound => "No such file or directory (os error 2)"
  | .permissionDenied => "Permission denied (os error 13)"
  | .resourceBusy => "Device or resource busy (os error 16)"
  | .alreadyExists => "File exists (os error 17)"
  | .notADirectory => "Not a directory (os error 20)"
  | .isADirectory => "Is a directory (os error 21)"
  | .invalidInput => "file name contained an unexpected NUL byte"
  | .storageFull => "No space left on device (os error 28)"
  | .invalidFilename => "File name too long (os error 36)"
  | .directoryNotEmpty => "Directory not empty (os error 39)"
  | .invalidData => "stream did not contain valid UTF-8"
  | kind => kind.name

def IoKind.failure (kind : IoKind) : IoFailure := ⟨kind, kind.wording⟩

namespace Backup.Store

def readSlot (s : Store) (v : Volume) (slot : Slot) : Except IoFailure String :=
  (v.read (.ofText (s.location.path slot))).mapError IoKind.failure

def loadFrom (s : Store) (v : Volume) : Reading Backup := s.load (s.readSlot v)

def writeSlot (s : Store) (serial : String) (v : Volume) (slot : Slot) (text : String) :
    Volume × Option IoFailure :=
  let p := v.writeAtomic (.ofText (s.location.path slot)) (textBytes text) serial Volume.noFaults
  (p.volume, p.failure.map IoKind.failure)

def saveTo (s : Store) (v : Volume) (b : Backup) (serial : String) : Writing Volume :=
  writeAll (s.writeSlot serial) v b.writes

end Backup.Store

end ToggleSync
