-- Paths in a file system: the way from the root to something, step by step.
import ToggleSync.Text.Parts

namespace ToggleSync

inductive Path.Step
  | into (name : String)
  /-- Back to the directory that holds this one. -/
  | up
  deriving DecidableEq, Repr

/-- What stands behind the last step. A slash or a dot asks for a directory. -/
inductive Path.Ending
  | plain
  | slash
  | dot
  deriving DecidableEq, Repr

structure Path where
  steps : List Path.Step
  ending : Path.Ending
  deriving DecidableEq, Repr

namespace Path

/-- The name of the directory that a path without a leading slash begins in. No path can spell
it. -/
def homeName : String := ""

/-! ## Reading -/

/-- Empty parts and dots lead nowhere else. -/
def Step.ofPart? (part : List Char) : Option Step :=
  if part.isEmpty || part = ['.'] then none
  else if part = ['.', '.'] then some .up
  else some (.into (String.ofList part))

def Ending.ofParts (parts : List (List Char)) : Ending :=
  if (parts.filter (!·.isEmpty)).getLast? = some ['.'] then .dot
  else if parts.getLast? = some [] then .slash
  else .plain

def ofText (text : String) : Path :=
  let parts := splitAt (· == '/') text.toList
  let steps := parts.filterMap Step.ofPart?
  { steps := if text.toList.head? = some '/' then steps else .into homeName :: steps
    ending := Ending.ofParts parts }

/-! ## Parts -/

/-- The name at the end, if the last step leads to one. -/
def name? (p : Path) : Option String :=
  match p.steps.getLast? with
  | some (.into name) => some name
  | _ => none

/-- The path without its last step. The root has no parent. -/
def parent? (p : Path) : Option Path :=
  if p.steps.isEmpty then none else some ⟨p.steps.dropLast, .plain⟩

/-- The paths to the directories on the way, from the nearest to the root. -/
def parents (p : Path) : List Path :=
  (List.range p.steps.length).reverse.map fun n => ⟨p.steps.take n, .plain⟩

/-- The path to another name in the same directory. It goes behind a path that ends in no name. -/
def withName (p : Path) (name : String) : Path where
  steps := (if p.name?.isSome then p.steps.dropLast else p.steps) ++ [.into name]
  ending := .plain

/-! ## Spelling -/

def Step.text : Step → String
  | .into name => name
  | .up => ".."

/-- A path may hold any character but the null character. -/
def isSpellable (p : Path) : Bool := p.steps.all (!·.text.toList.contains '\x00')

/-- The bytes of a path, with a slash in front of each step. -/
def size (p : Path) : Nat := p.steps.foldl (fun n step => n + step.text.utf8ByteSize + 1) 0

end Path

end ToggleSync
