-- A stand-in for a client, in which an application's tests set what each toggle answers.
import ToggleSync.Assignment
import ToggleSync.Table

namespace ToggleSync

namespace Stub

structure Entry where
  enabled : Bool
  variant : Option Variant
  deriving DecidableEq, Repr

end Stub

structure Stub where
  toggles : Table Stub.Entry

namespace Stub

def empty : Stub := ⟨∅⟩

def setEnabled (s : Stub) (name : String) (enabled : Bool) : Stub :=
  ⟨s.toggles.update name ⟨enabled, none⟩ ({ · with enabled })⟩

/-- Setting a variant turns the toggle on. -/
def setVariant (s : Stub) (name : String) (variant : Variant) : Stub :=
  ⟨s.toggles.put name ⟨true, some variant⟩⟩

def remove (s : Stub) (name : String) : Stub := ⟨s.toggles.erase name⟩

def isEnabled (s : Stub) (name : String) (default : Bool) : Bool :=
  match s.toggles.get? name with
  | some e => e.enabled
  | none => default

/-- The variant that was set stays the answer when the toggle is turned off later. -/
def variant (s : Stub) (name : String) (default : Variant) : Variant :=
  match s.toggles.get? name with
  | some e => e.variant.getD (.disabled e.enabled)
  | none => default

/-- The toggles in the order of their names. -/
def known (s : Stub) : List KnownToggle :=
  (s.toggles.entries.mergeSort fun a b => a.1 ≤ b.1).map fun e => ⟨e.1, none, e.2.enabled⟩

end Stub

end ToggleSync
