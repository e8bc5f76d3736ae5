-- How a file is replaced as a whole: the new content is written beside it, and then takes its
-- name. Every step of that can fail.
import ToggleSync.Volume.Basic

namespace ToggleSync.Volume

/-! ## Steps that can fail -/

/-- The steps of replacing a file. -/
inductive Step
  | makeDirectory (p : Path)
  | create
  /-- So many bytes of the content are written, counted from its beginning. -/
  | write (size : Nat)
  | sync
  | rename
  deriving DecidableEq, Repr

/-- What a file system does for reasons of its own. -/
structure Faults where
  /-- The steps that fail. -/
  failure? : Step → Option IoKind
  /-- The sizes at which the writing of a content pauses before it is complete. -/
  pauses : List Nat

def noFaults : Faults := ⟨fun _ => none, []⟩

/-- What was to be seen after each step that was made, how things are left, and the failure that
ended the steps. -/
structure Progress where
  seen : List Volume
  volume : Volume
  failure : Option IoKind

def runSteps (faults : Faults) : List (Step × (Volume → Except IoKind Volume)) → Volume → Progress
  | [], v => ⟨[], v, none⟩
  | (step, act) :: steps, v =>
    match faults.failure? step with
    | some kind => ⟨[], v, some kind⟩
    | none =>
      match act v with
      | .error kind => ⟨[], v, some kind⟩
      | .ok v =>
        let p := runSteps faults steps v
        { p with seen := v :: p.seen }

/-! ## Directories -/

/-- Makes a directory, unless there is one. -/
def ensureDirectory (p : Path) (v : Volume) : Except IoKind Volume :=
  match v.makeDirectory p with
  | .ok v => .ok v
  | .error kind => if v.isDirectory p then .ok v else .error kind

/-- A directory goes into the one that holds it. Where that is missing it has to be made first. -/
def missingFrom (v : Volume) : List Path → List Path
  | [] => []
  | p :: parents =>
    match v.makeDirectory p with
    | .error .notFound => missingFrom v parents ++ [p]
    | _ => [p]

def directorySteps (v : Volume) (p : Path) : List (Step × (Volume → Except IoKind Volume)) :=
  (v.missingFrom (p :: p.parents)).map fun d => (.makeDirectory d, ensureDirectory d)

/-- Makes a directory and those on the way to it. -/
def makeDirectories (v : Volume) (p : Path) : Progress := runSteps noFaults (v.directorySteps p) v

/-! ## Replacing a file -/

def temporaryName (p : Path) (serial : String) : String :=
  "." ++ p.name?.getD "" ++ "." ++ serial ++ ".tmp"

/-- Where the new content is kept until it is complete, beside the file. -/
def besides (p : Path) (serial : String) : Path := p.withName (temporaryName p serial)

def writeSteps (temporary : Path) (bytes : List UInt8) (sizes : List Nat) :
    List (Step × (Volume → Except IoKind Volume)) :=
  sizes.map fun n => (.write n, (·.putFile temporary (bytes.take n)))

def replaceSteps (target temporary : Path) (bytes : List UInt8) (pauses : List Nat) :
    List (Step × (Volume → Except IoKind Volume)) :=
  (.create, (·.putFile temporary [])) :: writeSteps temporary bytes (pauses ++ [bytes.length]) ++
    [(.sync, .ok), (.rename, (·.rename temporary target))]

/-- Replaces a file in a directory that is there. When a step fails the other file is removed
again. -/
def replaceFile (v : Volume) (target : Path) (bytes : List UInt8) (serial : String)
    (faults : Faults) : Progress :=
  let temporary := besides target serial
  let p := runSteps faults (replaceSteps target temporary bytes faults.pauses) v
  let volume := if p.failure.isNone then p.volume
    else (p.volume.remove temporary).toOption.getD p.volume
  ⟨p.seen ++ [volume], volume, p.failure⟩

/-- The steps that make the directories on the way to a file. -/
def parentSteps (v : Volume) (target : Path) : List (Step × (Volume → Except IoKind Volume)) :=
  (target.parent?.map v.directorySteps).getD []

/-- Replaces a file by way of another one, so that everyone sees the old content or the new. The
`serial` tells the other one from all files that are there. -/
def writeAtomic (v : Volume) (target : Path) (bytes : List UInt8) (serial : String)
    (faults : Faults) : Progress :=
  let parents := runSteps faults (v.parentSteps target) v
  match parents.failure with
  | some _ => parents
  | none =>
    let r := parents.volume.replaceFile target bytes serial faults
    { r with seen := parents.seen ++ r.seen }

end ToggleSync.Volume
