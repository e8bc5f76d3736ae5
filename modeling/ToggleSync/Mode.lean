-- The two ways to keep toggles up to date.

namespace ToggleSync

inductive Mode
  | polling
  | streaming
  deriving DecidableEq, Repr, Inhabited

def Mode.name : Mode → String
  | .polling => "polling"
  | .streaming => "streaming"

def Mode.all : List Mode := [.polling, .streaming]

def Mode.ofName? (name : String) : Option Mode := Mode.all.find? (·.name == name)

end ToggleSync
