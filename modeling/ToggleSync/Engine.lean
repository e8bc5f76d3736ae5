-- The engine: the toggles of a client, and the count of what was asked.
import ToggleSync.Assignment
import ToggleSync.State
import ToggleSync.Usage

namespace ToggleSync

/-- What is known of a toggle that was asked for. -/
structure Outcome where
  enabled : Bool
  impressionData : Bool
  deriving DecidableEq, Repr

structure Engine where
  snapshot : Collection
  usage : Usage
  deriving DecidableEq

namespace Engine

def new (now : Instant) : Engine := ⟨.empty, .new now⟩

instance : Inhabited Engine := ⟨new .epoch⟩

/-! ## State -/

/-- Takes a state that a server or a backup gave. A state that cannot be read changes nothing. -/
def takeState (e : Engine) (text : String) : Except StateError Engine :=
  match Update.read text with
  | .ok update => .ok { e with snapshot := update.applyTo e.snapshot }
  | .error error => .error error

def state (e : Engine) : String := e.snapshot.render

/-! ## Questions -/

def isEnabled (e : Engine) (name : String) : Option Outcome × Engine :=
  match e.snapshot.get? name with
  | none => (none, e)
  | some t =>
    (some ⟨t.enabled, t.impressionData⟩, { e with usage := e.usage.addOutcome name t.enabled })

/-- A context without stickiness value takes the key `spare`, which is drawn for the question. -/
def variant (e : Engine) (name : String) (c : Context) (spare : String) : Option Variant × Engine :=
  match e.snapshot.get? name with
  | none => (none, e)
  | some t =>
    let v := t.variantFor c spare
    (some v, { e with usage := (e.usage.addOutcome name t.enabled).addVariant name v.name })

def known (e : Engine) : List KnownToggle :=
  e.snapshot.toggles.map fun t => ⟨t.name, t.project, t.enabled⟩

def impressionData (e : Engine) (name : String) : Bool :=
  ((e.snapshot.get? name).map (·.impressionData)).getD false

/-- What was counted since the last time, or nothing if nothing was asked. -/
def takeUsage (e : Engine) (now : Instant) : Option Usage × Engine :=
  let rest := { e with usage := .new now }
  if e.usage.isEmpty then (none, rest) else (some { e.usage with stop := now }, rest)

end Engine

end ToggleSync
