-- Where the backup of a client lies: two files, and two more in the layout of earlier versions.

namespace ToggleSync

/-- Puts a path behind another. There is a slash between them unless the first is empty or ends
in one. -/
def joinPath (left right : String) : String :=
  match left.toList.getLast? with
  | none => right
  | some c => if c == '/' then left ++ right else left ++ "/" ++ right

/-- Control characters, and characters that no file name may hold everywhere. -/
def isUnsafeInName (c : Char) : Bool :=
  c.toNat < 0x20 || (0x7F ≤ c.toNat && c.toNat < 0xA0) || "<>:\"/\\|?*".toList.contains c

def cleanName (name : String) : String := String.ofList (name.toList.filter (!isUnsafeInName ·))

namespace Backup

/-- The files of a backup. -/
inductive Slot
  | state
  | tag
  | legacyState
  | legacyTag
  deriving DecidableEq, Repr

def Slot.name : Slot → String
  | .state => "state"
  | .tag => "etag"
  | .legacyState => "legacy_state"
  | .legacyTag => "legacy_etag"

def Slot.all : List Slot := [.state, .tag, .legacyState, .legacyTag]

structure Location where
  state : String
  tag : String
  legacyState : String
  legacyTag : String
  deriving DecidableEq, Repr

def Location.path (l : Location) : Slot → String
  | .state => l.state
  | .tag => l.tag
  | .legacyState => l.legacyState
  | .legacyTag => l.legacyTag

def Location.new (dir app instanceTag version : String) : Location :=
  let current (stem ext : String) : String :=
    joinPath dir (cleanName s!"{stem}-{app}-{version}.{ext}")
  let legacy (stem ext : String) : String :=
    joinPath (joinPath dir (cleanName app))
      (cleanName s!"{stem}-{app}-{instanceTag}-{version}.{ext}")
  ⟨current "flags.toggles" "json", current "flags.etag" "txt",
    legacy "flags.toggles" "json", legacy "flags.etag" "txt"⟩

end Backup

end ToggleSync
