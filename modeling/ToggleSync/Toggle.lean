-- Toggles, and the collection of them that a client holds at a time.

namespace ToggleSync

structure Payload where
  kind : String
  value : String
  deriving DecidableEq, Repr

/-- One of the variants of a toggle, and its share of the contexts. -/
structure WeightedVariant where
  name : String
  weight : UInt32
  /-- The context field by which contexts are spread over the variants. -/
  stickiness : Option String
  payload : Option Payload
  deriving DecidableEq, Repr

structure Toggle where
  name : String
  enabled : Bool
  project : Option String
  description : Option String
  impressionData : Bool
  variants : List WeightedVariant
  deriving DecidableEq, Repr

/-- A toggle as a client lists it. -/
structure KnownToggle where
  name : String
  project : Option String
  enabled : Bool
  deriving DecidableEq, Repr

/-- The version of collections in the present format. -/
def stateVersion : UInt32 := 2

/-- Toggles in their order. Names may repeat; the first of a name counts. -/
structure Collection where
  version : UInt32
  toggles : List Toggle
  deriving DecidableEq, Repr

namespace Collection

/-- What a client holds before it has got any state. -/
def empty : Collection := ⟨0, []⟩

instance : Inhabited Collection := ⟨empty⟩

def ofList (toggles : List Toggle) : Collection := ⟨stateVersion, toggles⟩

def get? (c : Collection) (name : String) : Option Toggle := c.toggles.find? (·.name == name)

/-- Puts a toggle in the place of the first one of its name, or behind the last one. -/
def putToggle (t : Toggle) : List Toggle → List Toggle
  | [] => [t]
  | u :: us => if u.name = t.name then t :: us else u :: putToggle t us

def upsert (c : Collection) (t : Toggle) : Collection := { c with toggles := putToggle t c.toggles }

/-- Drops every toggle of the name. -/
def remove (c : Collection) (name : String) : Collection :=
  { c with toggles := c.toggles.filter (·.name != name) }

def holds (c : Collection) (name : String) : Bool := c.toggles.any (·.name == name)

end Collection

end ToggleSync
