-- Backups: the last state that a client got, with the tag that the server gave it, in files.
import ToggleSync.Backup.Location
import ToggleSync.Failure
import ToggleSync.Table

namespace ToggleSync

structure Backup where
  state : String
  tag : Option String
  deriving DecidableEq, Repr

namespace Backup

def empty : Backup := ⟨"", none⟩

instance : Inhabited Backup := ⟨empty⟩

def isEmpty (b : Backup) : Bool := b.state.isEmpty

/-- The tag in a tag file: without white space around it, and none where nothing is left. -/
def tagOfText (text : String) : Option String :=
  if (trim text).isEmpty then none else some (trim text)

/-! ## Files -/

/-- Files by their paths, and the failures that reading and writing them have. -/
structure Disk where
  files : Table String
  readFailures : Table IoFailure
  writeFailures : Table IoFailure

def Disk.read (d : Disk) (path : String) : Except IoFailure String :=
  match d.readFailures.get? path with
  | some f => .error f
  | none =>
    match d.files.get? path with
    | some text => .ok text
    | none => .error ⟨.notFound, "not found"⟩

/-- A file is replaced as a whole or not at all. -/
def Disk.write (d : Disk) (path text : String) : Disk × Option IoFailure :=
  match d.writeFailures.get? path with
  | some f => (d, some f)
  | none => ({ d with files := d.files.put path text }, none)

/-- State to begin with, from the application. -/
inductive Bootstrap
  | text (state : String)
  | failing (failure : IoFailure)
  /-- A provider that the application wrote itself. What it offers is taken as it is. -/
  | offering (offer : Option String)
  deriving DecidableEq, Repr

/-- A fixed text offers no state where it is empty. -/
def Bootstrap.read : Bootstrap → Except IoFailure (Option String)
  | .text state => .ok (if state.isEmpty then none else some state)
  | .failing f => .error f
  | .offering offer => .ok offer

structure Store where
  location : Location
  bootstrap : Option Bootstrap
  /-- The state from the application takes the place of the one in the files. -/
  prefersBootstrap : Bool
  deriving DecidableEq, Repr

/-! ## Loading -/

/-- Something that was read, and the slots that were looked at for it, in order. -/
structure Reading (α : Type) where
  slots : List Slot
  result : Except IoFailure α

/-- Reads both files of a layout. If one of them is missing the layout holds no backup. -/
def readPair (read : Slot → Except IoFailure String) (stateSlot tagSlot : Slot) :
    Reading (Option Backup) :=
  match read stateSlot with
  | .error f => ⟨[stateSlot], if f.isMissing then .ok none else .error f⟩
  | .ok stateText =>
    match read tagSlot with
    | .error f => ⟨[stateSlot, tagSlot], if f.isMissing then .ok none else .error f⟩
    | .ok tagText => ⟨[stateSlot, tagSlot], .ok (some ⟨stateText, tagOfText tagText⟩)⟩

/-- The backup in the present layout, or in the earlier one. -/
def readFiles (read : Slot → Except IoFailure String) : Reading (Option Backup) :=
  match readPair read .state .tag with
  | ⟨slots, .ok none⟩ =>
    let earlier := readPair read .legacyState .legacyTag
    ⟨slots ++ earlier.slots, earlier.result⟩
  | reading => reading

/-- The state of the application with the tag of the files, where it is wanted. -/
def Store.choose (s : Store) (found : Option Backup) : Except IoFailure Backup :=
  let existing := found.getD .empty
  match s.bootstrap with
  | none => .ok existing
  | some b =>
    if found.isNone || s.prefersBootstrap then
      b.read.map fun state => ⟨state.getD existing.state, existing.tag⟩
    else .ok existing

def Store.load (s : Store) (read : Slot → Except IoFailure String) : Reading Backup :=
  let files := readFiles read
  ⟨files.slots, files.result.bind s.choose⟩

/-! ## Saving -/

/-- What is written for a backup, in order. -/
def writes (b : Backup) : List (Slot × String) := [(.state, b.state), (.tag, b.tag.getD "")]

/-- What was attempted in writing, what it was written to and how that is left, and the failure
that ended it. -/
structure Writing (σ : Type) where
  attempted : List (Slot × String)
  medium : σ
  failure : Option IoFailure

/-- Writes in order, up to the first failure. -/
def writeAll {σ : Type} (write : σ → Slot → String → σ × Option IoFailure) (medium : σ) :
    List (Slot × String) → Writing σ
  | [] => ⟨[], medium, none⟩
  | w :: ws =>
    match write medium w.1 w.2 with
    | (medium, some f) => ⟨[w], medium, some f⟩
    | (medium, none) =>
      let rest := writeAll write medium ws
      { rest with attempted := w :: rest.attempted }

def Store.save (s : Store) (d : Disk) (b : Backup) : Writing Disk :=
  writeAll (fun d slot text => d.write (s.location.path slot) text) d b.writes

end Backup

end ToggleSync
