-- A file system: directories and files under one root, and what single operations do to it.
import ToggleSync.Failure
import ToggleSync.Text.Utf8
import ToggleSync.Volume.Path

namespace ToggleSync

/-- A place by the names on the way to it from the root. -/
abbrev Place := List String

inductive Volume.Node
  | directory
  | file (bytes : List UInt8)
  deriving DecidableEq, Repr

/-- The root is always there, and is not listed. -/
structure Volume where
  nodes : List (Place × Volume.Node)
  deriving DecidableEq, Repr

namespace Volume

def home : Place := [Path.homeName]

/-- Nothing but the directory that most paths begin in. -/
def empty : Volume := ⟨[(home, .directory)]⟩

def node? (v : Volume) (place : Place) : Option Node :=
  if place.isEmpty then some .directory else v.nodes.lookup place

def erase (v : Volume) (place : Place) : Volume := ⟨v.nodes.filter (·.1 != place)⟩

def put (v : Volume) (place : Place) (node : Node) : Volume :=
  ⟨(v.erase place).nodes ++ [(place, node)]⟩

/-- What lies under the directory that most paths begin in, by the places from there. -/
def homeNodes (v : Volume) : List (Place × Node) :=
  v.nodes.filterMap fun n =>
    match n.1 with
    | name :: place =>
      if name = Path.homeName && !place.isEmpty then some (place, n.2) else none
    | [] => none

/-! ## Looking -/

/-- The bytes that a name may have at most. -/
def longestName : Nat := 255

/-- The bytes that a path may have at most. -/
def longestPath : Nat := 4095

/-- The node with a name in a directory. -/
def child? (v : Volume) (directory : Place) (name : String) : Except IoKind (Option Node) :=
  if longestName < name.utf8ByteSize then .error .invalidFilename
  else .ok (v.node? (directory ++ [name]))

/-- Goes one step, from a directory to a directory. -/
def enter (v : Volume) (here : Place) : Path.Step → Except IoKind Place
  | .up => .ok here.dropLast
  | .into name => do
    match ← v.child? here name with
    | some .directory => .ok (here ++ [name])
    | some (.file _) => .error .notADirectory
    | none => .error .notFound

/-- What a path leads to. The last name on it may be the name of anything, or of nothing. All that
comes before has to be directories. -/
inductive Target
  /-- A directory that is not known by a name. -/
  | nameless (place : Place)
  | named (directory : Place) (name : String) (slashed : Bool)
  deriving DecidableEq, Repr

def locate (v : Volume) (p : Path) : Except IoKind Target :=
  if !p.isSpellable then .error .invalidInput
  else if longestPath < p.size then .error .invalidFilename
  else
    match p.name?, p.ending with
    | some name, .plain => (p.steps.dropLast.foldlM v.enter []).map (.named · name false)
    | some name, .slash => (p.steps.dropLast.foldlM v.enter []).map (.named · name true)
    | _, _ => (p.steps.foldlM v.enter []).map .nameless

/-- What is at a path. -/
def look (v : Volume) (p : Path) : Except IoKind Node := do
  match ← v.locate p with
  | .nameless _ => .ok .directory
  | .named directory name slashed =>
    match ← v.child? directory name with
    | none => .error .notFound
    | some .directory => .ok .directory
    | some (.file bytes) => if slashed then .error .notADirectory else .ok (.file bytes)

def holds (v : Volume) (p : Path) : Bool := (v.look p).isOk

def isDirectory (v : Volume) (p : Path) : Bool := (v.look p).toOption = some .directory

/-- Reads a file that is text. -/
def read (v : Volume) (p : Path) : Except IoKind String := do
  match ← v.look p with
  | .directory => .error .isADirectory
  | .file bytes =>
    match Utf8.decode? bytes with
    | some text => .ok text
    | none => .error .invalidData

/-- Reads a state to begin with. A file that is missing or empty offers none. -/
def bootstrap (v : Volume) (p : Path) : Except IoKind (Option String) :=
  match v.read p with
  | .ok text => .ok (if text.isEmpty then none else some text)
  | .error .notFound => .ok none
  | .error kind => .error kind

/-! ## Changing -/

/-- Removes a file. -/
def remove (v : Volume) (p : Path) : Except IoKind Volume := do
  match ← v.locate p with
  | .nameless _ => .error .isADirectory
  | .named directory name slashed =>
    match ← v.child? directory name with
    | none => .error .notFound
    | some .directory => .error .isADirectory
    | some (.file _) =>
      if slashed then .error .notADirectory else .ok (v.erase (directory ++ [name]))

/-- Puts a file in its place, but makes no directories for it. -/
def putFile (v : Volume) (p : Path) (bytes : List UInt8) : Except IoKind Volume := do
  match ← v.locate p with
  | .named directory name false =>
    match ← v.child? directory name with
    | some .directory => .error .isADirectory
    | _ => .ok (v.put (directory ++ [name]) (.file bytes))
  | _ => .error .isADirectory

/-- Makes one directory, where there is nothing. -/
def makeDirectory (v : Volume) (p : Path) : Except IoKind Volume := do
  match ← v.locate p with
  | .nameless _ => .error .alreadyExists
  | .named directory name _ =>
    match ← v.child? directory name with
    | some _ => .error .alreadyExists
    | none => .ok (v.put (directory ++ [name]) .directory)

/-- Gives a file a new place. A file that is there is replaced; a directory is not. -/
def rename (v : Volume) (source target : Path) : Except IoKind Volume := do
  match ← v.locate source, ← v.locate target with
  | .named directory name _, .named directory' name' slashed =>
    match ← v.child? directory name, ← v.child? directory' name' with
    | some (.file bytes), found =>
      if slashed then .error .notADirectory
      else if found = some .directory then .error .isADirectory
      else .ok ((v.erase (directory ++ [name])).put (directory' ++ [name']) (.file bytes))
    | _, _ => .error .notFound
  | _, _ => .error .resourceBusy

end Volume

end ToggleSync
