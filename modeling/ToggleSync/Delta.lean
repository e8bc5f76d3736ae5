-- State as a server sends it: a whole collection, or the changes since an earlier one.
import ToggleSync.Toggle

namespace ToggleSync

inductive Change
  /-- A new start, with these toggles. -/
  | hydration (id : UInt64) (toggles : List Toggle)
  | updated (id : UInt64) (toggle : Toggle)
  | removed (id : UInt64) (name : String) (project : Option String)
  deriving DecidableEq, Repr

def Change.id : Change → UInt64
  | .hydration id _ => id
  | .updated id _ => id
  | .removed id _ _ => id

def Change.applyTo (c : Collection) : Change → Collection
  | .hydration _ toggles => .ofList toggles
  | .updated _ toggle => c.upsert toggle
  | .removed _ name _ => c.remove name

inductive Update
  | delta (changes : List Change)
  | full (collection : Collection)
  deriving DecidableEq, Repr

def Update.applyTo (current : Collection) : Update → Collection
  | .delta changes => changes.foldl Change.applyTo current
  | .full collection => collection

end ToggleSync
