-- How often toggles were asked for, and the reports that a client sends about itself.
import ToggleSync.Instant
import ToggleSync.Table

namespace ToggleSync

/-- How often a toggle was on and off, and each variant given. -/
structure Count where
  yes : UInt64
  no : UInt64
  variants : Table UInt64
  deriving DecidableEq

def Count.zero : Count := ⟨0, 0, ∅⟩

def Count.addOutcome (c : Count) (enabled : Bool) : Count :=
  if enabled then { c with yes := c.yes + 1 } else { c with no := c.no + 1 }

def Count.addVariant (c : Count) (variant : String) : Count :=
  { c with variants := c.variants.update variant 0 (· + 1) }

structure Usage where
  start : Instant
  stop : Instant
  toggles : Table Count
  deriving DecidableEq

namespace Usage

def new (start : Instant) : Usage := ⟨start, start, ∅⟩

def isEmpty (u : Usage) : Bool := u.toggles.isEmpty

def addOutcome (u : Usage) (toggle : String) (enabled : Bool) : Usage :=
  { u with toggles := u.toggles.update toggle .zero (·.addOutcome enabled) }

def addVariant (u : Usage) (toggle variant : String) : Usage :=
  { u with toggles := u.toggles.update toggle .zero (·.addVariant variant) }

end Usage

/-! ## Reports -/

/-- How a client makes itself known. -/
structure Registration where
  appName : String
  instanceId : String
  connectionId : String
  sdkVersion : String
  strategies : List String
  started : Instant
  intervalMs : UInt64
  deriving DecidableEq

/-- What a client reports about its use of toggles. -/
structure Metrics where
  appName : String
  instanceId : String
  connectionId : String
  bucket : Usage
  deriving DecidableEq

/-- The rules for turning a toggle on that a client says it knows. -/
def knownStrategies : List String :=
  ["applicationHostname", "default", "flexibleRollout", "gradualRolloutRandom",
    "gradualRolloutSessionId", "gradualRolloutUserId", "remoteAddress", "userWithId"]

end ToggleSync
